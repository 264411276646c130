import NearField.Proofs.Llcp.Operation
import NearField.Proofs.Llcp.Param

/-!
Two data links and the channels between them, each side with a record of what it sent and took in.
The channels keep frames in order; what either side does and when frames are carried over and read
is left open.
-/

namespace NearField.Llcp

/-- The same connection, seen from its other end. -/
def LinkAddress.mirror (address : LinkAddress) : LinkAddress :=
  ⟨address.remoteSap, address.localSap⟩

inductive Action where
  | send (data : Octets)
  | acknowledge
  | consume (count : Nat)
  | transmit
  | deliver
deriving DecidableEq, Repr

/-- One side: its link, the frames on their way to it, and what happened so far. -/
structure Peer where
  link : DataLink
  incoming : List Octets := []
  sent : List Octets := []
  accepted : List Octets := []
  /-- How many frames the link has counted as acknowledged. -/
  acknowledged : Nat := 0
  consumed : Octets := []

namespace Peer

def send (peer : Peer) (data : Octets) : Peer :=
  { peer with
    link := (peer.link.send data).2
    sent := if (peer.link.send data).1 = .ok true then peer.sent ++ [data] else peer.sent }

def consume (peer : Peer) (count : Nat) : Peer :=
  { peer with
    link := (peer.link.consumeReceived count).2
    consumed := peer.consumed ++ peer.link.session.received.contents.take count }

/-- The record of a side that took in a PDU. A payload counts as accepted when the connection is
still open and expects the next number. -/
def receive (peer : Peer) (pdu : Pdu) : Peer :=
  let after := (peer.link.receive pdu).2
  if after.session.status = .connected then
    { peer with
      link := after
      accepted :=
        if pdu.type = .i ∧ after.session.vr ≠ peer.link.session.vr then peer.accepted ++ [pdu.info]
        else peer.accepted
      acknowledged := peer.acknowledged +
        (numberDistance peer.link.session.vsa after.session.vsa).toNat }
  else { peer with link := after }

/-- A frame that cannot be read is dropped. -/
def deliver (peer : Peer) : Peer :=
  match peer.incoming with
  | [] => peer
  | frame :: incoming =>
    match Pdu.decode frame with
    | .error _ => { peer with incoming }
    | .ok pdu => { peer with incoming }.receive pdu

end Peer

structure Conversation where
  left : Peer
  right : Peer

namespace Conversation

def swap (c : Conversation) : Conversation := ⟨c.right, c.left⟩

def act (c : Conversation) : Action → Conversation
  | .send data => { c with left := c.left.send data }
  | .acknowledge => { c with left := { c.left with link := c.left.link.acknowledge.2 } }
  | .consume count => { c with left := c.left.consume count }
  | .transmit =>
    match c.left.link.next with
    | (none, _) => c
    | (some frame, link) =>
      { left := { c.left with link }
        right := { c.right with incoming := c.right.incoming ++ [frame] } }
  | .deliver => { c with left := c.left.deliver }

inductive Turn where
  | left (action : Action)
  | right (action : Action)
deriving DecidableEq, Repr

def step (c : Conversation) : Turn → Conversation
  | .left action => c.act action
  | .right action => (c.swap.act action).swap

def run (c : Conversation) (turns : List Turn) : Conversation := turns.foldl step c

def Open (c : Conversation) : Prop :=
  c.left.link.session.status = .connected ∧ c.right.link.session.status = .connected

instance (c : Conversation) : Decidable c.Open := inferInstanceAs (Decidable (_ ∧ _))

end Conversation

def worked : Except Error Unit × DataLink → Option DataLink
  | (.ok (), link) => some link
  | (.error _, _) => none

def DataLink.passed (link : DataLink) : Option (Pdu × DataLink) :=
  match link.next with
  | (none, _) => none
  | (some frame, link) => (Pdu.decode frame).toOption.map (·, link)

def handshake (asking granting : DataLink) : Option (DataLink × DataLink) := do
  let asking ← worked asking.connect
  let (request, asking) ← asking.passed
  let granting ← worked (granting.receive request)
  let granting ← worked granting.accept
  let (answer, granting) ← granting.passed
  let asking ← worked (asking.receive answer)
  return (asking, granting)

/-- Two new links that open a connection, each with its receive window. -/
def Conversation.opened (address : LinkAddress) (left right : UInt8) : Option Conversation := do
  let (asking, granting) ←
    handshake (.offering address left) (.offering address.mirror right)
  return { left := { link := asking }, right := { link := granting } }

theorem worked_sending {link : DataLink} {outcome : Except Error Unit × DataLink}
    {frame : Octets} {next : Session} (sends : outcome = link.commit (.sending (.ok frame) next))
    (idle : link.queue.toList = []) (fits : frame.length ≤ bufferRoom) :
    ∃ queue, worked outcome = some ⟨link.address, next, queue⟩ ∧ queue.toList = [frame] := by
  have room : link.queue.size < queueDepth := by
    rw [TransmitQueue.size_eq, idle]
    decide
  obtain ⟨queue, committed, listed⟩ := DataLink.commit_room next room fits
  refine ⟨queue, ?_, by rw [listed, idle]; rfl⟩
  rw [sends, committed]
  rfl

theorem passed_single {queue : TransmitQueue} {frame : Octets}
    (address : LinkAddress) (session : Session) (pdu : Pdu) (waiting : queue.toList = [frame])
    (read : Pdu.decode frame = .ok pdu) :
    ∃ rest, (DataLink.mk address session queue).passed = some (pdu, ⟨address, session, rest⟩) ∧
      rest.toList = [] := by
  rcases (DataLink.mk address session queue).next_eq with ⟨none, _⟩ | ⟨first, rest, listed, eq⟩
  · rw [waiting] at none
    cases none
  · rw [waiting, List.cons_eq_cons] at listed
    refine ⟨rest, ?_, listed.2.symm⟩
    rw [DataLink.passed, eq, ← listed.1]
    simp only [read]
    rfl

theorem Session.negotiate_window (s : Session) (octet : UInt8) :
    s.negotiate [0x05, 0x01, octet] = { s with remoteWindow := octet &&& 0x0f } := by
  rw [Session.negotiate, Param.parseAll_window]
  rfl

theorem handshake_offering (address : LinkAddress) (left right : UInt8) :
    ∃ asked granted, handshake (.offering address left) (.offering address.mirror right) =
        some (⟨address, { Session.offering left with
            status := .connected, initiator := true, remoteWindow := right &&& 0x0f }, asked⟩,
          ⟨address.mirror, { Session.offering right with
            status := .connected, remoteWindow := left &&& 0x0f }, granted⟩) ∧
      asked.toList = [] ∧ granted.toList = [] := by
  have nibble (octet : UInt8) : octet &&& 0x0f &&& 0x0f &&& 0x0f = octet &&& 0x0f := by
    rw [UInt8.and_assoc, UInt8.and_assoc]
    rfl
  have size (type : PduType) (dsap ssap : Sap) (window : UInt8) :
      (header dsap type ssap ++ [0x05, 0x01, window]).length ≤ bufferRoom := by
    simp [bufferRoom]
  -- the sessions in between, and the frames that carry the windows
  let waiting : Session := { Session.offering left with status := .connecting, initiator := true }
  let asked : Session :=
    { Session.offering right with status := .connecting, remoteWindow := left &&& 0x0f }
  let granting : Session := { asked with status := .connected }
  obtain ⟨request, asks, first⟩ := worked_sending
    (DataLink.connect_free (.offering address left) rfl) rfl (size _ _ _ _)
  obtain ⟨idle, passes, blank⟩ := passed_single address waiting
    ⟨address.remoteSap, .connect, address.localSap, none,
      [0x05, 0x01, left &&& 0x0f &&& 0x0f]⟩
    first (decode_plain _ _ .connect _ rfl (by simp))
  obtain ⟨answer, grants, second⟩ := worked_sending
    (DataLink.accept_asked ⟨address.mirror, asked, .empty⟩ rfl rfl) rfl (size _ _ _ _)
  obtain ⟨quiet, returns, empty⟩ := passed_single address.mirror granting
    ⟨address.localSap, .cc, address.remoteSap, none,
      [0x05, 0x01, right &&& 0x0f &&& 0x0f]⟩
    second (decode_plain _ _ .cc _ rfl (by simp))
  have hears (dsap ssap : Sap) :
      worked ((DataLink.offering address.mirror right).receive
        { dsap, type := .connect, ssap, info := [0x05, 0x01, left &&& 0x0f &&& 0x0f] }) =
        some ⟨address.mirror, asked, .empty⟩ := by
    rw [DataLink.receive_request rfl rfl, Session.negotiate_window, nibble]
    rfl
  have settles (dsap ssap : Sap) :
      worked ((DataLink.mk address waiting idle).receive
        { dsap, type := .cc, ssap, info := [0x05, 0x01, right &&& 0x0f &&& 0x0f] }) =
        some ⟨address, { waiting with status := .connected, remoteWindow := right &&& 0x0f },
          idle⟩ := by
    rw [DataLink.receive_grant rfl rfl rfl, Session.negotiate_window, nibble]
    rfl
  refine ⟨idle, quiet, ?_, blank, empty⟩
  rw [handshake, Option.bind_eq_bind]
  refine Option.bind_eq_some_iff.mpr ⟨_, asks, ?_⟩
  refine Option.bind_eq_some_iff.mpr ⟨_, passes, ?_⟩
  refine Option.bind_eq_some_iff.mpr ⟨_, hears _ _, ?_⟩
  refine Option.bind_eq_some_iff.mpr ⟨_, grants, ?_⟩
  refine Option.bind_eq_some_iff.mpr ⟨_, returns, ?_⟩
  exact Option.bind_eq_some_iff.mpr ⟨_, settles _ _, rfl⟩

end NearField.Llcp
