import NearField.Proofs.Checked.Hci
import NearField.Proofs.Checked.Nci
import NearField.Proofs.Checked.Pdu
import NearField.Proofs.Llcp.PduCodec

/-!
Everything that is written at the start of a buffer of the caller. Main statement: a writer leaves
the buffer alone, or fills its front with octets that do not depend on the buffer and leaves the
rest alone; and a frame written directly is the PDU it stands for.
-/

namespace NearField

open Hci (Message)
open Llcp (FrameReject Pdu PduType Sap Sequence maxPduLength)
open Nci (Packet)

inductive Writer where
  | header (dsap : Sap) (type : PduType) (ssap : Sap)
  | information (dsap ssap : Sap) (ns nr : UInt8)
  | ready (type : PduType) (dsap ssap : Sap) (nr : UInt8)
  | disconnected (dsap ssap : Sap) (reason : UInt8)
  | reject (dsap ssap : Sap) (report : FrameReject)
  | withInfo (dsap : Sap) (type : PduType) (ssap : Sap) (info : Octets)
  | pdu (content : Pdu)
  | packet (content : Packet)
  | message (content : Message)
deriving Repr

namespace Writer

def encoding : Writer → Except Error Octets
  | header dsap type ssap => Llcp.encodeHeader dsap type ssap
  | information dsap ssap ns nr => Llcp.encodeInformation dsap ssap ns nr
  | ready type dsap ssap nr => Llcp.encodeReceiveReady type dsap ssap nr
  | disconnected dsap ssap reason => Llcp.encodeDisconnected dsap ssap reason
  | reject dsap ssap report => Llcp.encodeReject dsap ssap report
  | withInfo dsap type ssap info => Llcp.encodeWithInfo dsap type ssap info
  | pdu content => content.encode
  | packet content => content.encode
  | message content => content.encode

def write (buffer : Octets) : Writer → Except Error Nat × Octets
  | pdu content => content.encodeInto buffer
  | writer => buffer.place writer.encoding

/-- A writer at work: it checks and writes in its own order, one piece after the other, and what it
has written stays in the buffer when it gives up. -/
def steps (buffer : Octets) : Writer → Checked (Except Error Nat × Octets)
  | header dsap type ssap => Llcp.checkedEncodeHeader buffer dsap type ssap
  | information dsap ssap ns nr => Llcp.checkedEncodeInformation buffer dsap ssap ns nr
  | ready type dsap ssap nr => Llcp.checkedEncodeReady buffer type dsap ssap nr
  | disconnected dsap ssap reason => Llcp.checkedEncodeOctet buffer dsap .dm ssap reason
  | reject dsap ssap report => Llcp.checkedEncodeInfo buffer dsap .frmr ssap report.toOctets
  | withInfo dsap type ssap info => Llcp.checkedEncodeInfo buffer dsap type ssap info
  | pdu content => content.checkedEncodeInto buffer
  | packet content => content.checkedEncodeInto buffer
  | message content => content.checkedEncodeInto buffer

/-- What is to be written lies in memory, of which no stretch has `2 ^ 63` octets. -/
def Addressable : Writer → Prop
  | withInfo _ _ _ info => info.length < 2 ^ 63
  | pdu content => content.info.length < 2 ^ 63
  | packet content => content.payload.length < 2 ^ 63
  | message content => content.data.length < 2 ^ 63
  | _ => True

theorem steps_eq {writer : Writer} (addressable : writer.Addressable) (buffer : Octets) :
    writer.steps buffer = pure (writer.write buffer) := by
  cases writer with
  | header dsap type ssap => exact Llcp.checkedEncodeHeader_eq buffer dsap type ssap
  | information dsap ssap ns nr => exact Llcp.checkedEncodeInformation_eq buffer dsap ssap ns nr
  | ready type dsap ssap nr => exact Llcp.checkedEncodeReady_eq buffer type dsap ssap nr
  | disconnected dsap ssap reason => exact Llcp.checkedEncodeOctet_eq buffer dsap .dm ssap reason
  | reject dsap ssap report =>
    have four : report.toOctets.length < 2 ^ 63 := show 4 < 2 ^ 63 by decide
    exact Llcp.checkedEncodeInfo_eq buffer dsap .frmr ssap four
  | withInfo dsap type ssap info =>
    exact Llcp.checkedEncodeInfo_eq buffer dsap type ssap addressable
  | pdu content => exact Pdu.checkedEncodeInto_eq addressable buffer
  | packet content => exact content.checkedEncodeInto_eq buffer
  | message content => exact Message.checkedEncodeInto_eq addressable buffer

theorem write_fits {writer : Writer} {bytes buffer : Octets}
    (encoded : writer.encoding = .ok bytes) (fits : bytes.length ≤ buffer.length) :
    writer.write buffer = (.ok bytes.length, bytes ++ buffer.drop bytes.length) := by
  have placed := Octets.place_fits fits
  rw [← encoded] at placed
  cases writer with
  | pdu content =>
    have size := Pdu.encode_length encoded
    have room : ¬(content.encodedLength ≤ maxPduLength ∧
        buffer.length < content.encodedLength) := by omega
    rw [write, Pdu.encodeInto, if_neg room]
    exact placed
  | _ => exact placed

theorem write_cases (writer : Writer) (buffer : Octets) :
    (∃ e, writer.write buffer = (.error e, buffer)) ∨
      ∃ bytes, writer.encoding = .ok bytes ∧ bytes.length ≤ buffer.length := by
  cases writer with
  | pdu content =>
    rw [write, Pdu.encodeInto]
    split
    · exact .inl ⟨_, rfl⟩
    · exact Octets.place_cases buffer content.encode
  | _ => exact Octets.place_cases buffer _

theorem write_ok {writer : Writer} {buffer after : Octets} {n : Nat}
    (written : writer.write buffer = (.ok n, after)) :
    ∃ bytes, writer.encoding = .ok bytes ∧ bytes.length ≤ buffer.length ∧ n = bytes.length ∧
      after = bytes ++ buffer.drop bytes.length := by
  obtain ⟨e, failed⟩ | ⟨bytes, encoded, fits⟩ := writer.write_cases buffer
  · rw [failed] at written
    cases written
  · rw [write_fits encoded fits] at written
    cases written
    exact ⟨bytes, encoded, fits, rfl, rfl⟩

/-- How a writer treats a buffer: an error leaves it as it was, a success fills its front and leaves
the rest, and any other buffer with room gets the same octets at its front. -/
structure WholeOrNothing (writer : Writer) (buffer : Octets) : Prop where
  refused : ∀ e after, writer.write buffer = (.error e, after) → after = buffer
  kept : ∀ n after, writer.write buffer = (.ok n, after) →
    n ≤ buffer.length ∧ after.length = buffer.length ∧ after.drop n = buffer.drop n
  filled : ∀ n after, writer.write buffer = (.ok n, after) → ∀ other : Octets, n ≤ other.length →
    ∃ later, writer.write other = (.ok n, later) ∧ later.take n = after.take n

theorem wholeOrNothing (writer : Writer) (buffer : Octets) : writer.WholeOrNothing buffer where
  refused := by
    intro e after failed
    obtain ⟨e, same⟩ | ⟨bytes, encoded, fits⟩ := writer.write_cases buffer
    · rw [same] at failed
      cases failed
      rfl
    · rw [write_fits encoded fits] at failed
      cases failed
  kept := by
    intro n after written
    obtain ⟨bytes, _, fits, rfl, rfl⟩ := write_ok written
    refine ⟨fits, ?_, List.drop_left⟩
    rw [List.length_append, List.length_drop]
    omega
  filled := by
    intro n after written other room
    obtain ⟨bytes, encoded, _, rfl, rfl⟩ := write_ok written
    refine ⟨_, write_fits encoded room, ?_⟩
    rw [List.take_left, List.take_left]

inductive Direct : Writer → Pdu → Prop where
  | header {dsap ssap : Sap} {type : PduType} (bare : type.isSequenced = false) :
      Direct (.header dsap type ssap) { dsap, type, ssap }
  | information {dsap ssap : Sap} {ns nr : UInt8} :
      Direct (.information dsap ssap ns nr) { dsap, type := .i, ssap, sequence := some ⟨ns, nr⟩ }
  | ready {dsap ssap : Sap} {type : PduType} {nr : UInt8} :
      Direct (.ready type dsap ssap nr) { dsap, type, ssap, sequence := some ⟨0, nr⟩ }
  | disconnected {dsap ssap : Sap} {reason : UInt8} :
      Direct (.disconnected dsap ssap reason) { dsap, type := .dm, ssap, info := [reason] }
  | reject {dsap ssap : Sap} {report : FrameReject} :
      Direct (.reject dsap ssap report)
        { dsap, type := .frmr, ssap, info := report.toOctets }
  | withInfo {dsap ssap : Sap} {type : PduType} {info : Octets} (bare : type.isSequenced = false) :
      Direct (.withInfo dsap type ssap info) { dsap, type, ssap, info }

section Written

variable {writer : Writer} {pdu : Pdu} {octets : Octets}

theorem numbered_encode {dsap ssap : Sap} {type : PduType} {ns nr : UInt8} {sequence : Sequence}
    (sequenced : type.isSequenced = true) (checked : Sequence.checked ns nr = .ok sequence)
    (encoded : Llcp.encodeWithInfo dsap type ssap [sequence.toOctet] = .ok octets) :
    let pdu : Pdu := { dsap, type, ssap, sequence := some ⟨ns, nr⟩ }
    pdu.encode = .ok octets ∧ pdu.Numbered := by
  obtain ⟨rfl, send, receive⟩ := Llcp.checked_narrow checked
  intro pdu
  have one : pdu.sequenceOctets = .ok [Sequence.toOctet ⟨ns, nr⟩] := by
    rw [Pdu.sequenceOctets, sequenced]
  refine ⟨(Pdu.encode_sequence one).trans encoded, ?_⟩
  rintro _ ⟨⟩
  exact ⟨send, receive⟩

theorem Direct.encode (direct : writer.Direct pdu) (encoded : writer.encoding = .ok octets) :
    pdu.encode = .ok octets ∧ pdu.Numbered := by
  cases direct with
  | header bare => exact ⟨(Pdu.encode_plain bare rfl).trans encoded, by rintro _ ⟨⟩⟩
  | disconnected => exact ⟨(Pdu.encode_plain rfl rfl).trans encoded, by rintro _ ⟨⟩⟩
  | reject => exact ⟨(Pdu.encode_plain rfl rfl).trans encoded, by rintro _ ⟨⟩⟩
  | withInfo bare => exact ⟨(Pdu.encode_plain bare rfl).trans encoded, by rintro _ ⟨⟩⟩
  | information =>
    obtain ⟨sequence, checked, front⟩ := bind_eq_ok encoded
    exact numbered_encode rfl checked front
  | @ready dsap ssap type nr =>
    rw [encoding, Llcp.encodeReceiveReady] at encoded
    split at encoded
    · cases encoded
    · rename_i allowed
      have sequenced : type.isSequenced = true := by
        rw [Llcp.PduType.isSequenced_iff]
        by_cases ready : type = .rr
        · exact .inr (.inl ready)
        · exact .inr (.inr (by_contra fun other => allowed ⟨ready, other⟩))
      obtain ⟨sequence, checked, front⟩ := bind_eq_ok encoded
      exact numbered_encode sequenced checked front

end Written

/-- Everything that is written into a buffer of the caller. Written step by step it does not fault,
and gives and leaves what it does as a whole. It leaves the buffer as it was, or fills the front
with octets that no buffer has a part in and leaves the rest as it was. A frame that is written
directly, with whatever data is copied behind it, is what its PDU is written as unless that is too
long for a PDU, and is read as that PDU. -/
theorem writing_exact :
    (∀ (writer : Writer) (buffer : Octets), writer.Addressable →
      writer.steps buffer = pure (writer.write buffer)) ∧
    (∀ (writer : Writer) (buffer : Octets), writer.WholeOrNothing buffer) ∧
    ∀ (writer : Writer) (pdu : Pdu), writer.Direct pdu →
      ∀ (buffer data framed filled : Octets) (n : Nat), writer.write buffer = (.ok n, framed) →
        framed.checkedCopy n (n + data.length) data = pure filled →
          ((∃ bytes, (pdu.extended data).encode = .ok bytes) ↔ n + data.length ≤ maxPduLength) ∧
          ∀ bytes, (pdu.extended data).encode = .ok bytes →
            filled.take (n + data.length) = bytes ∧
              Pdu.decode (filled.take (n + data.length)) = .ok (pdu.extended data) := by
  refine ⟨fun writer buffer addressable => steps_eq addressable buffer, wholeOrNothing, ?_⟩
  intro writer pdu direct buffer data framed filled n written copied
  obtain ⟨octets, encoded, _, rfl, rfl⟩ := write_ok written
  obtain ⟨-, inside, rfl⟩ := Octets.checkedCopy_ok copied
  obtain ⟨whole, numbered⟩ := direct.encode encoded
  have front : ((octets ++ buffer.drop octets.length).overlay octets.length data).take
      (octets.length + data.length) = octets ++ data := by
    rw [Octets.take_overlay inside, List.take_left]
  have size : (octets ++ data).length = octets.length + data.length := List.length_append
  rw [front, Pdu.extended_encode whole, ← size]
  refine ⟨⟨?_, fun short => ⟨_, Llcp.bounded_ok_iff.mpr ⟨short, rfl⟩⟩⟩, ?_⟩
  · rintro ⟨bytes, fits⟩
    exact (Llcp.bounded_ok_iff.mp fits).1
  · intro bytes fits
    have same := (Llcp.bounded_ok_iff.mp fits).2
    have again : (pdu.extended data).encode = .ok (octets ++ data) := by
      rw [Pdu.extended_encode whole, fits, same]
    have narrow : (pdu.extended data).Numbered := numbered
    exact ⟨same.symm, Pdu.decode_of_encode narrow again⟩

/-- The front of a numbered frame and its two octets of data in a buffer that an old frame fills,
and the same front in a buffer without room for it. -/
theorem writing_exact_numbered :
    let writer : Writer := .information ⟨0x20, by decide⟩ ⟨0x10, by decide⟩ 3 5
    let pdu : Pdu :=
      { dsap := ⟨0x20, by decide⟩, type := .i, ssap := ⟨0x10, by decide⟩
        sequence := some ⟨3, 5⟩, info := [0xaa, 0xbb] }
    let old : Octets := [0xff, 0xff, 0xff, 0xff, 0xff, 0xff]
    let new : Octets := [0x83, 0x10, 0x35, 0xaa, 0xbb]
    writer.steps old = pure (.ok 3, [0x83, 0x10, 0x35, 0xff, 0xff, 0xff]) ∧
      writer.steps [0xff, 0xff] = pure (.error (.invalidLength 3 2), [0xff, 0xff]) ∧
      writer.WholeOrNothing old ∧ pdu.encode = .ok new ∧ Pdu.decode new = .ok pdu := by
  intro writer pdu old new
  obtain ⟨stepwise, whole, directly⟩ := writing_exact
  have written : writer.write old = (.ok 3, [0x83, 0x10, 0x35, 0xff, 0xff, 0xff]) := by
    decide +kernel
  have copied : Octets.checkedCopy [0x83, 0x10, 0x35, 0xff, 0xff, 0xff] 3 5 [0xaa, 0xbb] =
      pure (new ++ [0xff]) := rfl
  have encoded : pdu.encode = .ok new := by decide +kernel
  have refused : writer.write [0xff, 0xff] = (.error (.invalidLength 3 2), [0xff, 0xff]) := by
    decide +kernel
  have read := (directly writer _ .information old [0xaa, 0xbb] _ _ 3 written copied).2 new encoded
  refine ⟨?_, ?_, whole writer old, encoded, read.2⟩
  · rw [stepwise writer old True.intro, written]
  · rw [stepwise writer _ True.intro, refused]

end Writer

end NearField
