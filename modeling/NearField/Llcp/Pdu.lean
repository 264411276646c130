import NearField.Llcp.Sap
import NearField.Llcp.Sequence

/-!
Link layer PDUs and their octets. The header packs two access points around the PDU type, most
significant bit first: `DDDDDDPP PPSSSSSS`. Numbered PDUs carry a sequence octet after it, and the
information field takes the rest. No PDU is longer than 256 octets.
-/

namespace NearField.Llcp

def headerLength : Nat := 2

def maxPduLength : Nat := 256

def header (dsap : Sap) (type : PduType) (ssap : Sap) : Octets :=
  [(dsap.value <<< 2) ||| (type.code >>> 2), ((type.code &&& 0x03) <<< 6) ||| ssap.value]

def bounded (bytes : Octets) : Except Error Octets :=
  if maxPduLength < bytes.length then .error (.invalidLength maxPduLength bytes.length)
  else .ok bytes

def encodeWithInfo (dsap : Sap) (type : PduType) (ssap : Sap) (info : Octets) :
    Except Error Octets :=
  bounded (header dsap type ssap ++ info)

def encodeHeader (dsap : Sap) (type : PduType) (ssap : Sap) : Except Error Octets :=
  encodeWithInfo dsap type ssap []

def encodeInformation (dsap ssap : Sap) (ns nr : UInt8) : Except Error Octets := do
  let sequence ← Sequence.checked ns nr
  encodeWithInfo dsap .i ssap [sequence.toOctet]

def encodeReceiveReady (type : PduType) (dsap ssap : Sap) (nr : UInt8) : Except Error Octets := do
  if type ≠ .rr ∧ type ≠ .rnr then throw (.frameFormat (.notReceiveReady type))
  let sequence ← Sequence.checked 0 nr
  encodeWithInfo dsap type ssap [sequence.toOctet]

def encodeDisconnected (dsap ssap : Sap) (reason : UInt8) : Except Error Octets :=
  encodeWithInfo dsap .dm ssap [reason]

def encodeReject (dsap ssap : Sap) (report : FrameReject) : Except Error Octets :=
  encodeWithInfo dsap .frmr ssap report.toOctets

def typeBits (b0 b1 : UInt8) : UInt8 := ((b0 &&& 0x03) <<< 2) ||| (b1 >>> 6)

def decodeType : Octets → Except Error PduType
  | b0 :: b1 :: _ =>
    match PduType.ofCode? (typeBits b0 b1) with
    | some type => .ok type
    | none => .error (.unknownPduType (typeBits b0 b1))
  | bytes => .error (.invalidLength headerLength bytes.length)

def decodeHeader (bytes : Octets) : Except Error (Sap × PduType × Sap) := do
  let type ← decodeType bytes
  let b0 ← bytes.byteAt 0
  let b1 ← bytes.byteAt 1
  return (Sap.masked (b0 >>> 2), type, Sap.masked b1)

/-- A PDU in parts. The sequence is there exactly for the numbered types when the PDU is well
formed; `encode` refuses every other. -/
structure Pdu where
  dsap : Sap
  type : PduType
  ssap : Sap
  sequence : Option Sequence := none
  info : Octets := []
deriving DecidableEq, Repr

namespace Pdu

def information (dsap ssap : Sap) (ns nr : UInt8) (info : Octets) : Except Error Pdu := do
  let sequence ← Sequence.checked ns nr
  return { dsap, type := .i, ssap, sequence := some sequence, info }

def receiveReady (dsap ssap : Sap) (nr : UInt8) : Except Error Pdu := do
  let sequence ← Sequence.checked 0 nr
  return { dsap, type := .rr, ssap, sequence := some sequence }

def receiveNotReady (dsap ssap : Sap) (nr : UInt8) : Except Error Pdu := do
  let ready ← receiveReady dsap ssap nr
  return { ready with type := .rnr }

def disconnectReason (pdu : Pdu) : Option UInt8 :=
  if pdu.type = .dm then pdu.info.head? else none

def encodedLength (pdu : Pdu) : Nat :=
  headerLength + (if pdu.sequence.isSome then 1 else 0) + pdu.info.length

def sequenceOctets (pdu : Pdu) : Except Error Octets :=
  match pdu.type.isSequenced, pdu.sequence with
  | true, some sequence => .ok [sequence.toOctet]
  | false, none => .ok []
  | true, none => .error (.frameFormat (.sequenceMissing pdu.type))
  | false, some _ => .error (.frameFormat (.sequenceSuperfluous pdu.type))

/-- The octets of a PDU. The length is checked before the sequence. -/
def encode (pdu : Pdu) : Except Error Octets := do
  if maxPduLength < pdu.encodedLength then
    throw (.invalidLength maxPduLength pdu.encodedLength)
  let sequence ← pdu.sequenceOctets
  return header pdu.dsap pdu.type pdu.ssap ++ sequence ++ pdu.info

/-- Writes a PDU at the start of a buffer. A buffer that is too short is reported before a sequence
that does not belong. -/
def encodeInto (pdu : Pdu) (buffer : Octets) : Except Error Nat × Octets :=
  if pdu.encodedLength ≤ maxPduLength ∧ buffer.length < pdu.encodedLength then
    (.error (.invalidLength pdu.encodedLength buffer.length), buffer)
  else buffer.place pdu.encode

def decode (bytes : Octets) : Except Error Pdu := do
  if maxPduLength < bytes.length then throw (.invalidLength maxPduLength bytes.length)
  let (dsap, type, ssap) ← decodeHeader bytes
  if type.isSequenced then
    match bytes.drop headerLength with
    | [] => throw (.invalidLength (headerLength + 1) bytes.length)
    | octet :: info => return { dsap, type, ssap, sequence := some (.ofOctet octet), info }
  else return { dsap, type, ssap, info := bytes.drop headerLength }

end Pdu

end NearField.Llcp
