import NearField.Proofs.Llcp.LogicalOperation
import NearField.Proofs.Llcp.Wire

/-!
PDUs and the octets they stand for. Main statement: writing and reading are inverse to each other
between the well formed PDUs and the octet strings with a header of an assigned type, and both
refuse everything else.
-/

namespace NearField.Llcp

theorem PduType.isSequenced_iff (type : PduType) :
    type.isSequenced = true ↔ type = .i ∨ type = .rr ∨ type = .rnr := by
  cases type <;> simp [isSequenced]

/-- The type in the middle of the header, which is one number of the form `DDDDDDPP PPSSSSSS`. -/
def typeField : Octets → Nat
  | b0 :: b1 :: _ => (256 * b0.toNat + b1.toNat) / 64 % 16
  | _ => 0

theorem toNat_typeBits (b0 b1 : UInt8) :
    (typeBits b0 b1).toNat = (256 * b0.toNat + b1.toNat) / 64 % 16 := by
  have low : b1.toNat >>> 6 < 2 ^ 2 := by
    have bound : b1.toNat < 256 := b1.toNat_lt
    rw [Nat.shiftRight_eq_div_pow]
    omega
  have high : b0.toNat &&& 3 = b0.toNat % 4 := Nat.and_two_pow_sub_one_eq_mod _ 2
  have shifted : (b0.toNat % 4) <<< 2 % 256 = (b0.toNat % 4) <<< 2 := by
    rw [Nat.shiftLeft_eq]
    omega
  simp only [typeBits, UInt8.toNat_or, UInt8.toNat_shiftLeft, UInt8.toNat_and,
    UInt8.toNat_shiftRight, UInt8.reduceToNat, Nat.reduceMod, Nat.reducePow]
  rw [high, shifted, ← Nat.shiftLeft_add_eq_or_of_lt low, Nat.shiftLeft_eq,
    Nat.shiftRight_eq_div_pow]
  omega

theorem typeField_header (dsap ssap : Sap) (type : PduType) (rest : Octets) :
    typeField (header dsap type ssap ++ rest) = type.code.toNat := by
  rw [← typeBits_header dsap ssap type, toNat_typeBits]
  rfl

theorem PduType.exists_code_iff {code : Nat} (small : code < 16) :
    (∃ type : PduType, type.code.toNat = code) ↔ code ≠ 0xa ∧ code ≠ 0xb ∧ code ≠ 0xf := by
  constructor
  · rintro ⟨type, rfl⟩
    cases type <;> decide
  · rintro ⟨ten, eleven, fifteen⟩
    interval_cases code
    case «10» => exact absurd rfl ten
    case «11» => exact absurd rfl eleven
    case «15» => exact absurd rfl fifteen
    exacts [⟨.symm, rfl⟩, ⟨.pax, rfl⟩, ⟨.agf, rfl⟩, ⟨.ui, rfl⟩, ⟨.connect, rfl⟩, ⟨.disc, rfl⟩,
      ⟨.cc, rfl⟩, ⟨.dm, rfl⟩, ⟨.frmr, rfl⟩, ⟨.snl, rfl⟩, ⟨.i, rfl⟩, ⟨.rr, rfl⟩, ⟨.rnr, rfl⟩]

theorem PduType.isSequenced_code (type : PduType) :
    type.isSequenced = true ↔
      type.code.toNat = 0xc ∨ type.code.toNat = 0xd ∨ type.code.toNat = 0xe := by
  cases type <;> decide

theorem header_octets {b0 b1 : UInt8} {type : PduType} (known : typeBits b0 b1 = type.code) :
    header (Sap.masked (b0 >>> 2)) type (Sap.masked b1) = [b0, b1] := by
  have first : (Sap.masked (b0 >>> 2)).value <<< 2 ||| typeBits b0 b1 >>> 2 = b0 := by
    apply octet_eq_of_bits
    intro i inside
    interval_cases i <;> simp [Sap.masked, typeBits]
  have second : (typeBits b0 b1 &&& 0x03) <<< 6 ||| (Sap.masked b1).value = b1 := by
    apply octet_eq_of_bits
    intro i inside
    interval_cases i <;> simp [Sap.masked, typeBits]
  rw [header, ← known, first, second]

theorem header_of_decodeHeader {bytes : Octets} {dsap ssap : Sap} {type : PduType}
    (read : decodeHeader bytes = .ok (dsap, type, ssap)) :
    bytes = header dsap type ssap ++ bytes.drop headerLength := by
  match bytes with
  | [] | [_] => cases read
  | b0 :: b1 :: rest =>
    simp only [decodeHeader, decodeType] at read
    cases known : PduType.ofCode? (typeBits b0 b1) with
    | none =>
      rw [known] at read
      cases read
    | some type =>
      rw [known] at read
      cases read
      rw [header_octets (PduType.code_ofCode? known).symm]
      rfl

namespace Pdu

/-- A PDU and the octets it is written as: the header, the sequence octet of a numbered type, and
the information field. -/
inductive Written : Pdu → Octets → Prop where
  | plain {dsap ssap : Sap} {type : PduType} {info : Octets} (bare : type.isSequenced = false)
      (fits : info.length ≤ 254) :
      Written { dsap, type, ssap, info } (header dsap type ssap ++ info)
  | numbered {dsap ssap : Sap} {type : PduType} {info : Octets} (octet : UInt8)
      (sequenced : type.isSequenced = true) (fits : info.length ≤ 253) :
      Written { dsap, type, ssap, sequence := some (.ofOctet octet), info }
        (header dsap type ssap ++ octet :: info)

def Sequenced (pdu : Pdu) : Prop :=
  pdu.sequence.isSome ↔ pdu.type = .i ∨ pdu.type = .rr ∨ pdu.type = .rnr

structure WellFormed (pdu : Pdu) : Prop where
  sequenced : pdu.Sequenced
  numbered : pdu.Numbered
  short : pdu.encodedLength ≤ maxPduLength

variable {pdu : Pdu} {bytes : Octets}

theorem written_of_decode (read : decode bytes = .ok pdu) : Written pdu bytes := by
  rw [decode] at read
  by_cases long : maxPduLength < bytes.length
  · rw [if_pos long] at read
    cases read
  · rw [if_neg long] at read
    cases parts : decodeHeader bytes with
    | error e =>
      rw [parts] at read
      cases read
    | ok fields =>
      obtain ⟨dsap, type, ssap⟩ := fields
      have whole := header_of_decodeHeader parts
      have size := congrArg List.length whole
      rw [maxPduLength] at long
      rw [List.length_append, length_header] at size
      rw [parts] at read
      change (if type.isSequenced = true then _ else _) = Except.ok pdu at read
      split at read
      · rename_i sequenced
        cases rest : bytes.drop headerLength with
        | nil =>
          rw [rest] at read
          cases read
        | cons octet info =>
          rw [rest] at read whole size
          cases read
          rw [List.length_cons] at size
          rw [whole]
          exact .numbered octet sequenced (by omega)
      · rename_i bare
        cases read
        have fits : (bytes.drop headerLength).length ≤ 254 := by omega
        generalize bytes.drop headerLength = info at whole fits ⊢
        rw [whole]
        exact .plain (Bool.eq_false_iff.mpr bare) fits

theorem Written.decode (written : Written pdu bytes) : Pdu.decode bytes = .ok pdu := by
  cases written with
  | plain bare fits => exact decode_plain _ _ _ _ bare fits
  | numbered octet sequenced fits => exact decode_numbered _ _ _ octet _ sequenced fits

theorem Written.encode (written : Written pdu bytes) : pdu.encode = .ok bytes := by
  cases written with
  | @plain dsap ssap type info bare fits =>
    have none : sequenceOctets { dsap, type, ssap, info } = .ok [] := by
      rw [sequenceOctets, bare]
    have short : encodedLength { dsap, type, ssap, info } ≤ maxPduLength := by
      simp only [encodedLength, headerLength, maxPduLength, Option.isSome_none,
        Bool.false_eq_true, if_false]
      omega
    rw [encode_of_fits short, none]
    change Except.ok (header dsap type ssap ++ [] ++ info) = _
    rw [List.append_nil]
  | @numbered dsap ssap type info octet sequenced fits =>
    have one : sequenceOctets { dsap, type, ssap, sequence := some (.ofOctet octet), info } =
        .ok [octet] := by
      rw [sequenceOctets, sequenced]
      exact congrArg (fun octet => Except.ok [octet]) (toOctet_ofOctet octet)
    have short : encodedLength { dsap, type, ssap, sequence := some (.ofOctet octet), info } ≤
        maxPduLength := by
      simp only [encodedLength, headerLength, maxPduLength, Option.isSome_some, if_true]
      omega
    rw [encode_of_fits short, one]
    change Except.ok (header dsap type ssap ++ [octet] ++ info) = _
    rw [List.append_assoc]
    rfl

theorem sequenceOctets_ok_iff (pdu : Pdu) :
    (∃ octets, pdu.sequenceOctets = .ok octets) ↔ pdu.Sequenced := by
  rw [Sequenced, ← PduType.isSequenced_iff, sequenceOctets]
  split <;> rename_i sequenced sequence <;> rw [sequenced, sequence] <;> simp

theorem encode_ok_iff (pdu : Pdu) :
    (∃ bytes, pdu.encode = .ok bytes) ↔ pdu.encodedLength ≤ maxPduLength ∧ pdu.Sequenced := by
  rw [← sequenceOctets_ok_iff]
  constructor
  · rintro ⟨bytes, encoded⟩
    have fits : pdu.encodedLength ≤ maxPduLength := by
      by_contra long
      rw [Pdu.encode, if_pos (Nat.not_le.mp long)] at encoded
      cases encoded
    refine ⟨fits, ?_⟩
    rw [encode_of_fits fits] at encoded
    cases octets : pdu.sequenceOctets with
    | error e =>
      rw [octets] at encoded
      cases encoded
    | ok sequence => exact ⟨sequence, rfl⟩
  · rintro ⟨fits, sequence, octets⟩
    rw [encode_of_fits fits, octets]
    exact ⟨_, rfl⟩

theorem WellFormed.exists_written (formed : pdu.WellFormed) : ∃ bytes, Written pdu bytes := by
  obtain ⟨sequenced, numbered, short⟩ := formed
  rw [Sequenced, ← PduType.isSequenced_iff] at sequenced
  obtain ⟨dsap, type, ssap, sequence, info⟩ := pdu
  cases sequence with
  | none =>
    simp only [encodedLength, headerLength, maxPduLength, Option.isSome_none,
      Bool.false_eq_true, if_false] at short
    refine ⟨_, .plain (Bool.eq_false_iff.mpr ?_) (by omega)⟩
    intro known
    cases sequenced.mpr known
  | some s =>
    simp only [encodedLength, headerLength, maxPduLength, Option.isSome_some, if_true] at short
    obtain ⟨send, receive⟩ := numbered s rfl
    have packed : Sequence.ofOctet s.toOctet = s := ofOctet_toOctet send receive
    rw [← packed]
    exact ⟨_, .numbered _ (sequenced.mp rfl) (by omega)⟩

theorem Written.wellFormed (written : Written pdu bytes) : pdu.WellFormed where
  sequenced := ((encode_ok_iff pdu).mp ⟨bytes, written.encode⟩).2
  numbered := numbered_of_decode written.decode
  short := ((encode_ok_iff pdu).mp ⟨bytes, written.encode⟩).1

/-- What was written of a PDU with four-bit numbers is read as that PDU. -/
theorem decode_of_encode (numbered : pdu.Numbered) (encoded : pdu.encode = .ok bytes) :
    Pdu.decode bytes = .ok pdu := by
  obtain ⟨short, sequenced⟩ := (encode_ok_iff pdu).mp ⟨bytes, encoded⟩
  obtain ⟨other, written⟩ := WellFormed.exists_written ⟨sequenced, numbered, short⟩
  rw [written.encode] at encoded
  cases encoded
  exact written.decode

def extended (pdu : Pdu) (data : Octets) : Pdu := { pdu with info := pdu.info ++ data }

theorem extended_encode {data : Octets} (encoded : pdu.encode = .ok bytes) :
    (pdu.extended data).encode = bounded (bytes ++ data) := by
  obtain ⟨_, sequenced⟩ := (encode_ok_iff pdu).mp ⟨bytes, encoded⟩
  obtain ⟨front, sequence⟩ := (sequenceOctets_ok_iff pdu).mpr sequenced
  have same : (pdu.extended data).sequenceOctets = .ok front := sequence
  rw [encode_sequence sequence, encodeWithInfo] at encoded
  rw [encode_sequence same, (bounded_ok_iff.mp encoded).2, encodeWithInfo,
    List.append_assoc, List.append_assoc]
  rfl

end Pdu

/-- Octets that are a PDU: a header with an assigned type, the sequence octet if the type is
numbered, and no more than a PDU may have. -/
structure PduOctets (bytes : Octets) : Prop where
  headed : 2 ≤ bytes.length
  short : bytes.length ≤ 256
  assigned : typeField bytes ≠ 0xa ∧ typeField bytes ≠ 0xb ∧ typeField bytes ≠ 0xf
  numbered : typeField bytes = 0xc ∨ typeField bytes = 0xd ∨ typeField bytes = 0xe →
    3 ≤ bytes.length

theorem Pdu.Written.pduOctets {pdu : Pdu} {bytes : Octets} (written : pdu.Written bytes) :
    PduOctets bytes := by
  cases written with
  | @plain dsap ssap type info bare fits =>
    refine ⟨?_, ?_, ?_, ?_⟩
    · simp
    · rw [List.length_append, length_header]
      omega
    · rw [typeField_header, ← PduType.exists_code_iff (UInt8.lt_iff_toNat_lt.mp type.code_lt)]
      exact ⟨type, rfl⟩
    · rw [typeField_header, ← PduType.isSequenced_code, bare]
      rintro ⟨⟩
  | @numbered dsap ssap type info octet sequenced fits =>
    refine ⟨?_, ?_, ?_, fun _ => ?_⟩
    · simp
    · rw [List.length_append, length_header, List.length_cons]
      omega
    · rw [typeField_header, ← PduType.exists_code_iff (UInt8.lt_iff_toNat_lt.mp type.code_lt)]
      exact ⟨type, rfl⟩
    · rw [List.length_append, length_header, List.length_cons]
      omega

theorem PduOctets.exists_written {bytes : Octets} (fit : PduOctets bytes) :
    ∃ pdu : Pdu, pdu.Written bytes := by
  obtain ⟨headed, short, assigned, numbered⟩ := fit
  match bytes with
  | [] | [_] => simp at headed
  | b0 :: b1 :: rest =>
    have small : typeField (b0 :: b1 :: rest) < 16 := Nat.mod_lt _ (by decide)
    obtain ⟨type, code⟩ := (PduType.exists_code_iff small).mpr assigned
    have known : typeBits b0 b1 = type.code := by
      rw [← UInt8.toNat_inj, toNat_typeBits, code]
      rfl
    have split : b0 :: b1 :: rest =
        header (Sap.masked (b0 >>> 2)) type (Sap.masked b1) ++ rest := by
      rw [header_octets known]
      rfl
    rw [← code, ← PduType.isSequenced_code] at numbered
    simp only [List.length_cons] at short numbered
    rw [split]
    cases sequenced : type.isSequenced with
    | false => exact ⟨_, .plain sequenced (by omega)⟩
    | true =>
      cases rest with
      | nil => exact absurd (numbered sequenced) (by decide)
      | cons octet info =>
        rw [List.length_cons] at short
        exact ⟨_, .numbered octet sequenced (by omega)⟩

/-- The well formed PDUs and the octet strings that are PDUs are each other's image: writing and
reading take one to the other and back. Writing refuses what is too long and what has a sequence
too many or too few, and reading refuses every other octet string. -/
theorem Pdu.codec_bijective :
    (∀ pdu : Pdu, pdu.WellFormed ↔ ∃ bytes, pdu.encode = .ok bytes ∧
      bytes.length = pdu.encodedLength ∧ decode bytes = .ok pdu) ∧
    (∀ pdu : Pdu, (∃ e, pdu.encode = .error e) ↔
      maxPduLength < pdu.encodedLength ∨ ¬pdu.Sequenced) ∧
    (∀ bytes : Octets, (∃ pdu, decode bytes = .ok pdu) ↔ PduOctets bytes) ∧
    ∀ (bytes : Octets) (pdu : Pdu), decode bytes = .ok pdu → pdu.encode = .ok bytes := by
  refine ⟨fun pdu => ⟨fun formed => ?_, ?_⟩, fun pdu => ?_, fun bytes => ⟨?_, fun fit => ?_⟩,
    fun bytes pdu read => (written_of_decode read).encode⟩
  · obtain ⟨bytes, written⟩ := formed.exists_written
    exact ⟨bytes, written.encode, encode_length written.encode, written.decode⟩
  · rintro ⟨bytes, _, _, read⟩
    exact (written_of_decode read).wellFormed
  · rw [← Nat.not_le, ← not_and_or, ← encode_ok_iff]
    cases pdu.encode <;> simp
  · rintro ⟨pdu, read⟩
    exact (written_of_decode read).pduOctets
  · obtain ⟨pdu, written⟩ := fit.exists_written
    exact ⟨pdu, written.decode⟩

/-- The longest numbered frame, with every field at its upper bound. -/
theorem Pdu.longest_frame_read :
    let pdu : Pdu :=
      { dsap := ⟨0x3f, by decide⟩, type := .i, ssap := ⟨0x3f, by decide⟩
        sequence := some ⟨0x0f, 0x0f⟩, info := List.replicate 253 0xff }
    pdu.WellFormed ∧ ∃ bytes, pdu.encode = .ok bytes ∧ bytes.length = pdu.encodedLength ∧
      decode bytes = .ok pdu := by
  intro pdu
  have formed : pdu.WellFormed := by
    refine ⟨by simp [Sequenced, pdu], ?_, ?_⟩
    · rintro s ⟨⟩
      decide
    · change 2 + 1 + (List.replicate 253 (0xff : UInt8)).length ≤ 256
      rw [List.length_replicate]
  exact ⟨formed, (codec_bijective.1 pdu).mp formed⟩

end NearField.Llcp
