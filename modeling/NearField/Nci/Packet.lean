import NearField.Nci.Code
import NearField.Octets.Reader

/-!
Packets of the controller interface. The header is `MT(3) PBF(1) GID-or-connection(4)`, then
`RFU(2) OID(6)`, which data packets leave zero, then the length of the payload that follows.
Reading ignores what comes after the payload, since buffers are filled up with zeros.
-/

namespace NearField.Nci

/-- A packet: control messages name a group and an opcode, data names a connection. -/
inductive Packet where
  | control (type : MessageType) (more : Bool) (group opcode : UInt8) (payload : Octets)
  | data (more : Bool) (connection : UInt8) (payload : Octets)
deriving DecidableEq, Repr

namespace Packet

def whole (type : MessageType) (opcode : Opcode) (payload : Octets) : Packet :=
  .control type false (opcode.group &&& 0x0f) (opcode.code &&& 0x3f) payload

def command (opcode : Opcode) (payload : Octets) : Packet := whole .command opcode payload

def response (opcode : Opcode) (payload : Octets) : Packet := whole .response opcode payload

def notification (opcode : Opcode) (payload : Octets) : Packet :=
  whole .notification opcode payload

def ofData (connection : UInt8) (payload : Octets) : Packet :=
  .data false (connection &&& 0x0f) payload

def type : Packet → MessageType
  | control type .. => type
  | data .. => .data

def payload : Packet → Octets
  | control _ _ _ _ payload => payload
  | data _ _ payload => payload

/-- The first octet: the message type above the fragment flag and a four-bit number. -/
def leadOctet (type : MessageType) (more : Bool) (number : UInt8) : UInt8 :=
  (type.code <<< 5) ||| (if more then 0x10 else 0x00) ||| (number &&& 0x0f)

def lead : Packet → UInt8 × UInt8
  | control type more group opcode _ => (leadOctet type more group, opcode &&& 0x3f)
  | data more connection _ => (leadOctet .data more connection, 0)

/-- The octets of a packet, refused when the payload is longer than its length octet can say. -/
def encode (packet : Packet) : Except Error Octets :=
  if maxPayload < packet.payload.length then
    .error (.invalidLength maxPayload packet.payload.length)
  else
    .ok (packet.lead.1 :: packet.lead.2 :: packet.payload.length.toUInt8 :: packet.payload)

def decode : Octets → Except Error Packet
  | b0 :: b1 :: length :: rest => do
    let type ← MessageType.ofCode (b0 >>> 5)
    if rest.length < length.toNat then
      throw (.invalidLength (packetHeaderLength + length.toNat) (packetHeaderLength + rest.length))
    let more := b0 &&& 0x10 != 0
    let payload := rest.take length.toNat
    match type with
    | .data => return .data more (b0 &&& 0x0f) payload
    | type => return .control type more (b0 &&& 0x0f) (b1 &&& 0x3f) payload
  | bytes => .error (.invalidLength packetHeaderLength bytes.length)

end Packet

end NearField.Nci
