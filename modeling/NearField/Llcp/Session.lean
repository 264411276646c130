import NearField.Llcp.Param
import NearField.Llcp.Pdu
import NearField.Llcp.ReceiveBuffer

/-!
The state of a data link connection apart from the frames it has queued, and what each operation
and each received PDU makes of it. An operation is refused, or gives a `Transition`: the session it
leads to and the frame it has to send. Whether that frame finds room is not decided here.
-/

namespace NearField.Llcp

def defaultMiu : UInt16 := 128

def defaultWindow : UInt8 := 4

def peerDefaultWindow : UInt8 := 1

/-- What one data packet of the controller leaves for the information field of a numbered PDU:
255 octets less three of packet header, two of PDU header and one of sequence. -/
def maxInformation : Nat := 249

inductive DisconnectReason where
  | closed | notConnected | noService | rejected
deriving DecidableEq, Repr

def DisconnectReason.code : DisconnectReason → UInt8
  | closed => 0x00
  | notConnected => 0x01
  | noService => 0x02
  | rejected => 0x03

/-- One end of a connection: its status and role, the sequence state of the protocol, what the two
sides agreed on, and the octets received. -/
structure Session where
  status : LinkStatus := .disconnected
  initiator : Bool := false
  remoteBusy : Bool := false
  /-- V(S): the number of the next frame to send. -/
  vs : UInt8 := 0
  /-- V(SA): the oldest number not yet acknowledged by the peer. -/
  vsa : UInt8 := 0
  /-- V(R): the number of the next frame to receive. -/
  vr : UInt8 := 0
  /-- V(RA): the oldest number not yet acknowledged to the peer. -/
  vra : UInt8 := 0
  miu : UInt16 := defaultMiu
  localWindow : UInt8 := defaultWindow
  remoteWindow : UInt8 := peerDefaultWindow
  received : ReceiveBuffer := .empty
deriving DecidableEq, Repr

/-- What an operation leads to. A frame that finds no room stops the operation, unless the session
is ending: then it ends without the frame. -/
inductive Transition where
  | quiet (next : Session)
  /-- The session moves on once the frame is queued. -/
  | sending (frame : Except Error Octets) (next : Session)
  /-- The session moves on, whether or not the frame can be queued. -/
  | parting (frame : Except Error Octets) (next : Session)
deriving Repr

namespace Session

/-- A session without a connection that offers a receive window of four bits. -/
def offering (window : UInt8) : Session := { localWindow := window &&& 0x0f }

def outstanding (s : Session) : UInt8 := numberDistance s.vsa s.vs

def unacknowledged (s : Session) : UInt8 := numberDistance s.vra s.vr

def maxInfo (s : Session) : Nat := min s.miu.toNat maxInformation

/-- The session without a connection. What was agreed on stays. -/
def reset (s : Session) : Session :=
  { s with
    status := .disconnected, initiator := false, remoteBusy := false
    vs := 0, vsa := 0, vr := 0, vra := 0, received := .empty }

def renew (s : Session) : Session :=
  { s.reset with remoteWindow := peerDefaultWindow, miu := defaultMiu }

def apply (s : Session) : Param → Session
  | .miux extension => { s with miu := defaultMiu + extension }
  | .rw window => { s with remoteWindow := window }
  | _ => s

/-- Takes the parameters in an information field into account, in order. A field that cannot be
read is ignored as a whole. -/
def negotiate (s : Session) (info : Octets) : Session :=
  match Param.parseAll info with
  | .error _ => s
  | .ok params => params.foldl apply s

/-- Whether the peer may acknowledge everything below `nr`: only what was sent and is not yet
acknowledged. -/
def acknowledgeable (s : Session) (nr : UInt8) : Bool :=
  numberDistance s.vsa nr ≤ numberDistance s.vsa s.vs

def windowFrame (s : Session) (address : LinkAddress) (type : PduType) : Except Error Octets := do
  let info ← Param.encodeAll [.rw s.localWindow]
  encodeWithInfo address.remoteSap type address.localSap info

def disconnectedFrame (address : LinkAddress) (reason : DisconnectReason) : Except Error Octets :=
  encodeDisconnected address.remoteSap address.localSap reason.code

def rejectFrame (s : Session) (address : LinkAddress) (flags : UInt8) (pdu : Pdu) :
    Except Error Octets :=
  encodeReject address.remoteSap address.localSap
    { flags, type := pdu.type, sequence := (pdu.sequence.map Sequence.toOctet).getD 0
      vs := s.vs, vr := s.vr, vsa := s.vsa, vra := s.vra }

def connect (s : Session) (address : LinkAddress) : Except Error Transition :=
  if s.status ≠ .disconnected then .error (.unsupportedOperation (.connect s.status))
  else
    .ok (.sending (s.windowFrame address .connect)
      { s with status := .connecting, initiator := true })

def accept (s : Session) (address : LinkAddress) : Except Error Transition :=
  if s.status ≠ .connecting ∨ s.initiator then
    .error (.unsupportedOperation (.accept s.status s.initiator))
  else .ok (.sending (s.windowFrame address .cc) { s with status := .connected })

def reject (s : Session) (address : LinkAddress) : Except Error Transition :=
  if s.status ≠ .connecting ∨ s.initiator then
    .error (.unsupportedOperation (.reject s.status))
  else .ok (.sending (disconnectedFrame address .rejected) s.reset)

def disconnect (s : Session) (address : LinkAddress) : Except Error Transition :=
  if s.status ≠ .connected then
    .error (.linkNotConnected address.localSap.value address.remoteSap.value)
  else
    .ok (.sending (encodeHeader address.remoteSap .disc address.localSap)
      { s with status := .disconnecting })

/-- Sends data in one numbered frame; `none` while the peer's receive window is full or the peer
asked for a pause. -/
def send (s : Session) (address : LinkAddress) (data : Octets) :
    Except Error (Option Transition) :=
  if s.status ≠ .connected then
    .error (.linkNotConnected address.localSap.value address.remoteSap.value)
  else if s.maxInfo < data.length then .error (.invalidLength s.maxInfo data.length)
  else if s.remoteBusy ∨ s.remoteWindow ≤ s.outstanding then .ok none
  else
    let frame := do
      let head ← encodeInformation address.remoteSap address.localSap s.vs s.vr
      return head ++ data
    .ok (some (.sending frame { s with vs := nextNumber s.vs }))

def acknowledge (s : Session) (address : LinkAddress) : Transition :=
  .sending (encodeReceiveReady .rr address.remoteSap address.localSap s.vr) { s with vra := s.vr }

def refuse (s : Session) (address : LinkAddress) (flags : UInt8) (pdu : Pdu) : Transition :=
  .sending (s.rejectFrame address flags pdu) s

/-- A numbered information PDU on an open connection: taken in whole when its numbers are in order
and its information field fits, else reported with the first reason against it. -/
def receiveInformation (s : Session) (address : LinkAddress) (pdu : Pdu) : Transition :=
  match pdu.sequence with
  | none => s.refuse address FrameReject.flagWellFormed pdu
  | some sequence =>
    if sequence.ns ≠ s.vr then s.refuse address FrameReject.flagSend pdu
    else if !s.acknowledgeable sequence.nr then s.refuse address FrameReject.flagReceive pdu
    else if receiveRoom < s.received.used + pdu.info.length then
      s.refuse address FrameReject.flagInformation pdu
    else
      .quiet { s with
        received := (s.received.write pdu.info).2, vr := nextNumber s.vr, vsa := sequence.nr }

def receiveReady (s : Session) (address : LinkAddress) (pdu : Pdu) : Transition :=
  let nr := (pdu.sequence.map Sequence.nr).getD s.vsa
  if s.acknowledgeable nr then .quiet { s with vsa := nr, remoteBusy := pdu.type = .rnr }
  else s.refuse address FrameReject.flagReceive pdu

/-- What a received PDU leads to. A PDU that does not belong to the present status ends the
connection, and the peer is told so; a disconnected mode ends it without a word. -/
def receive (s : Session) (address : LinkAddress) (pdu : Pdu) : Transition :=
  let unexpected := .parting (disconnectedFrame address .notConnected) s.reset
  match s.status, pdu.type with
  | _, .dm => .quiet s.reset
  | .disconnected, .connect =>
    .quiet { s.negotiate pdu.info with status := .connecting, initiator := false }
  | .connecting, .cc =>
    if s.initiator then .quiet { s.negotiate pdu.info with status := .connected } else unexpected
  | .connected, .i => s.receiveInformation address pdu
  | .connected, .rr => s.receiveReady address pdu
  | .connected, .rnr => s.receiveReady address pdu
  | .connected, .disc => .parting (disconnectedFrame address .closed) s.reset
  | .connected, .frmr => .quiet s.reset
  | _, _ => unexpected

end Session

end NearField.Llcp
