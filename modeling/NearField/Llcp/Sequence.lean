import NearField.Octets.Reader
import NearField.Llcp.PduType

/-!
Sequence numbers of the link layer: the pair of send and receive numbers that numbered PDUs carry,
counting modulo sixteen, and the frame reject report that quotes them.
-/

namespace NearField.Llcp

structure Sequence where
  ns : UInt8
  nr : UInt8
deriving DecidableEq, Repr

namespace Sequence

def checked (ns nr : UInt8) : Except Error Sequence :=
  if ns > 0x0f ∨ nr > 0x0f then .error (.frameFormat (.sequenceOutOfRange ns nr)) else .ok ⟨ns, nr⟩

def toOctet (sequence : Sequence) : UInt8 := packNibbles sequence.ns sequence.nr

def ofOctet (octet : UInt8) : Sequence := ⟨highNibble octet, lowNibble octet⟩

end Sequence

def nextNumber (v : UInt8) : UInt8 := (v + 1) % 16

def numberDistance (start stop : UInt8) : UInt8 := (stop - start) % 16

/-- What a frame reject reports: why, the rejected PDU's type and sequence octet, and the sequence
state of the side that rejects. -/
structure FrameReject where
  flags : UInt8
  type : PduType
  sequence : UInt8
  vs : UInt8
  vr : UInt8
  vsa : UInt8
  vra : UInt8
deriving DecidableEq, Repr

namespace FrameReject

def flagWellFormed : UInt8 := 0x08

def flagInformation : UInt8 := 0x04

def flagReceive : UInt8 := 0x02

def flagSend : UInt8 := 0x01

def toOctets (report : FrameReject) : Octets :=
  [(report.flags <<< 4) ||| report.type.code, report.sequence,
    packNibbles report.vs report.vr, packNibbles report.vsa report.vra]

/-- Reads a report; octets after the fourth are ignored. -/
def ofOctets : Octets → Except Error FrameReject
  | b0 :: b1 :: b2 :: b3 :: _ =>
    match PduType.ofCode? (lowNibble b0) with
    | none => .error (.unknownPduType (lowNibble b0))
    | some type =>
      .ok ⟨highNibble b0, type, b1, highNibble b2, lowNibble b2, highNibble b3, lowNibble b3⟩
  | bytes => .error (.invalidLength 4 bytes.length)

end FrameReject

end NearField.Llcp
