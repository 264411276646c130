import NearField.Llcp.Session
import NearField.Proofs.Llcp.Number
import NearField.Proofs.Octets
import Mathlib.Tactic.IntervalCases

/-!
What the octets of a PDU say when they are read again. Main statements: the header gives back its
two addresses and its type, and a frame that a session writes is read as the PDU it was written
for.
-/

namespace NearField.Llcp

private theorem bit_zero {octet : UInt8} (width : Nat) (narrow : octet.toNat < 2 ^ width)
    (i : Nat) (inside : i < 8) (high : width ≤ i) : octet.toBitVec[i] = false := by
  rw [← BitVec.getLsbD_eq_getElem, ← BitVec.testBit_toNat]
  exact Nat.testBit_lt_two_pow (lt_of_lt_of_le narrow (Nat.pow_le_pow_right (by decide) high))

private theorem Sap.bit_zero (sap : Sap) (i : Nat) (inside : i < 8) (high : 6 ≤ i) :
    sap.value.toBitVec[i] = false :=
  Llcp.bit_zero 6 sap.toNat_lt i inside high

private theorem PduType.bit_zero (type : PduType) (i : Nat) (inside : i < 8) (high : 4 ≤ i) :
    type.code.toBitVec[i] = false :=
  Llcp.bit_zero 4 (UInt8.lt_iff_toNat_lt.mp type.code_lt) i inside high

theorem typeBits_header (dsap ssap : Sap) (type : PduType) :
    typeBits ((dsap.value <<< 2) ||| (type.code >>> 2))
      (((type.code &&& 0x03) <<< 6) ||| ssap.value) = type.code := by
  apply octet_eq_of_bits
  intro i inside
  interval_cases i <;> simp [typeBits, ssap.bit_zero, type.bit_zero]

theorem masked_destination (dsap : Sap) (type : PduType) :
    Sap.masked (((dsap.value <<< 2) ||| (type.code >>> 2)) >>> 2) = dsap := by
  apply Sap.ext
  apply octet_eq_of_bits
  intro i inside
  interval_cases i <;> simp [Sap.masked, dsap.bit_zero, type.bit_zero]

theorem masked_source (ssap : Sap) (type : PduType) :
    Sap.masked (((type.code &&& 0x03) <<< 6) ||| ssap.value) = ssap := by
  apply Sap.ext
  apply octet_eq_of_bits
  intro i inside
  interval_cases i <;> simp [Sap.masked, ssap.bit_zero]

theorem decodeHeader_header (dsap ssap : Sap) (type : PduType) (rest : Octets) :
    decodeHeader (header dsap type ssap ++ rest) = .ok (dsap, type, ssap) := by
  have known : decodeType (header dsap type ssap ++ rest) = .ok type := by
    simp only [header, List.cons_append, decodeType, typeBits_header, PduType.ofCode?_code]
  rw [decodeHeader, known]
  change Except.ok (Sap.masked _, type, Sap.masked _) = _
  rw [masked_destination, masked_source]

@[simp] theorem length_header (dsap ssap : Sap) (type : PduType) :
    (header dsap type ssap).length = 2 := rfl

theorem decode_plain (dsap ssap : Sap) (type : PduType) (info : Octets)
    (plain : type.isSequenced = false) (fits : info.length ≤ 254) :
    Pdu.decode (header dsap type ssap ++ info) = .ok { dsap, type, ssap, info } := by
  have short : ¬maxPduLength < (header dsap type ssap ++ info).length := by
    simp only [maxPduLength, List.length_append, length_header]
    omega
  rw [Pdu.decode, if_neg short, decodeHeader_header]
  change (if type.isSequenced = true then _ else _) = _
  rw [plain]
  rfl

theorem decode_numbered (dsap ssap : Sap) (type : PduType) (octet : UInt8) (info : Octets)
    (numbered : type.isSequenced = true) (fits : info.length ≤ 253) :
    Pdu.decode (header dsap type ssap ++ octet :: info) =
      .ok { dsap, type, ssap, sequence := some (.ofOctet octet), info } := by
  have short : ¬maxPduLength < (header dsap type ssap ++ octet :: info).length := by
    simp only [maxPduLength, List.length_append, length_header, List.length_cons]
    omega
  rw [Pdu.decode, if_neg short, decodeHeader_header]
  change (if type.isSequenced = true then _ else _) = _
  rw [numbered]
  rfl

namespace Pdu

theorem encode_of_fits {pdu : Pdu} (fits : pdu.encodedLength ≤ maxPduLength) :
    pdu.encode = pdu.sequenceOctets.map fun sequence =>
      header pdu.dsap pdu.type pdu.ssap ++ sequence ++ pdu.info := by
  unfold encode
  rw [if_neg (Nat.not_lt.mpr fits)]
  cases pdu.sequenceOctets <;> rfl

theorem sequenceOctets_length (pdu : Pdu) {octets : Octets}
    (ok : pdu.sequenceOctets = .ok octets) :
    octets.length = if pdu.sequence.isSome then 1 else 0 := by
  unfold sequenceOctets at ok
  split at ok <;> rename_i sequence <;> cases ok <;> rw [sequence] <;> rfl

theorem encode_sequence {pdu : Pdu} {octets : Octets} (sequence : pdu.sequenceOctets = .ok octets) :
    pdu.encode = encodeWithInfo pdu.dsap pdu.type pdu.ssap (octets ++ pdu.info) := by
  have size : pdu.encodedLength =
      (header pdu.dsap pdu.type pdu.ssap ++ (octets ++ pdu.info)).length := by
    rw [encodedLength, List.length_append, List.length_append, length_header,
      sequenceOctets_length pdu sequence, headerLength, Nat.add_assoc]
  rw [encode, encodeWithInfo, bounded, size, sequence]
  split
  · rfl
  · exact congrArg Except.ok (List.append_assoc _ _ _)

theorem encode_plain {pdu : Pdu} (plain : pdu.type.isSequenced = false)
    (bare : pdu.sequence = none) :
    pdu.encode = encodeWithInfo pdu.dsap pdu.type pdu.ssap pdu.info := by
  have none : pdu.sequenceOctets = .ok [] := by
    rw [sequenceOctets, plain, bare]
  exact encode_sequence none

theorem encode_length {pdu : Pdu} {bytes : Octets} (encoded : pdu.encode = .ok bytes) :
    bytes.length = pdu.encodedLength := by
  by_cases fits : pdu.encodedLength ≤ maxPduLength
  · rw [encode_of_fits fits] at encoded
    cases octets : pdu.sequenceOctets with
    | error e => rw [octets] at encoded; cases encoded
    | ok sequence =>
      rw [octets] at encoded
      cases encoded
      rw [List.length_append, List.length_append, length_header, sequenceOctets_length pdu octets]
      rfl
  · unfold encode at encoded
    rw [if_pos (Nat.not_le.mp fits)] at encoded
    cases encoded

end Pdu

theorem ofOctet_toOctet {ns nr : UInt8} (send : ns < 16) (receive : nr < 16) :
    Sequence.ofOctet (Sequence.toOctet ⟨ns, nr⟩) = ⟨ns, nr⟩ := by
  rw [Sequence.ofOctet, Sequence.toOctet, highNibble_packNibbles, lowNibble_packNibbles,
    mod_of_lt send, mod_of_lt receive]

theorem toOctet_ofOctet (octet : UInt8) : (Sequence.ofOctet octet).toOctet = octet :=
  packNibbles_nibbles octet

theorem checked_ok {ns nr : UInt8} (send : ns < 16) (receive : nr < 16) :
    Sequence.checked ns nr = .ok ⟨ns, nr⟩ := by
  rw [UInt8.lt_iff_toNat_lt] at send receive
  have within : ¬(ns > 0x0f ∨ nr > 0x0f) := by
    simp only [gt_iff_lt, UInt8.lt_iff_toNat_lt, UInt8.reduceToNat] at send receive ⊢
    omega
  rw [Sequence.checked, if_neg within]

theorem checked_narrow {ns nr : UInt8} {sequence : Sequence}
    (ok : Sequence.checked ns nr = .ok sequence) : sequence = ⟨ns, nr⟩ ∧ ns < 16 ∧ nr < 16 := by
  rw [Sequence.checked] at ok
  split at ok
  · cases ok
  · rename_i within
    cases ok
    refine ⟨rfl, ?_⟩
    simp only [gt_iff_lt, UInt8.lt_iff_toNat_lt, UInt8.reduceToNat] at within ⊢
    omega

theorem bounded_ok_iff {bytes octets : Octets} :
    bounded bytes = .ok octets ↔ bytes.length ≤ maxPduLength ∧ octets = bytes := by
  rw [bounded]
  split
  · rename_i long
    constructor
    · rintro ⟨⟩
    · rintro ⟨short, -⟩
      exact absurd short (Nat.not_le.mpr long)
  · rename_i short
    rw [Except.ok.injEq, eq_comm]
    exact (and_iff_right (Nat.not_lt.mp short)).symm

theorem encodeWithInfo_ok (dsap ssap : Sap) (type : PduType) (info : Octets)
    (fits : info.length ≤ 254) :
    encodeWithInfo dsap type ssap info = .ok (header dsap type ssap ++ info) := by
  have short : ¬maxPduLength < (header dsap type ssap ++ info).length := by
    simp only [maxPduLength, List.length_append, length_header]
    omega
  rw [encodeWithInfo, bounded, if_neg short]

theorem encodeInformation_ok {ns nr : UInt8} (dsap ssap : Sap) (send : ns < 16)
    (receive : nr < 16) :
    encodeInformation dsap ssap ns nr =
      .ok (header dsap .i ssap ++ [Sequence.toOctet ⟨ns, nr⟩]) := by
  rw [encodeInformation, checked_ok send receive]
  exact encodeWithInfo_ok dsap ssap .i [Sequence.toOctet ⟨ns, nr⟩] (by simp)

theorem encodeReady_ok {nr : UInt8} (dsap ssap : Sap) (receive : nr < 16) :
    encodeReceiveReady .rr dsap ssap nr =
      .ok (header dsap .rr ssap ++ [Sequence.toOctet ⟨0, nr⟩]) := by
  rw [encodeReceiveReady, checked_ok (by decide) receive]
  exact encodeWithInfo_ok dsap ssap .rr [Sequence.toOctet ⟨0, nr⟩] (by simp)

theorem encodeReady_narrow {nr : UInt8} {dsap ssap : Sap} {frame : Octets}
    (encoded : encodeReceiveReady .rr dsap ssap nr = .ok frame) : nr < 16 := by
  cases checked : Sequence.checked 0 nr with
  | error e =>
    rw [encodeReceiveReady, checked] at encoded
    cases encoded
  | ok sequence => exact (checked_narrow checked).2.2

theorem decode_information {ns nr : UInt8} (dsap ssap : Sap) (data : Octets) (send : ns < 16)
    (receive : nr < 16) (fits : data.length ≤ 253) :
    Pdu.decode (header dsap .i ssap ++ [Sequence.toOctet ⟨ns, nr⟩] ++ data) =
      .ok { dsap, type := .i, ssap, sequence := some ⟨ns, nr⟩, info := data } := by
  rw [List.append_assoc]
  simp only [List.cons_append, List.nil_append]
  rw [decode_numbered _ _ _ _ _ rfl fits, ofOctet_toOctet send receive]

theorem decode_ready {nr : UInt8} (dsap ssap : Sap) (receive : nr < 16) :
    Pdu.decode (header dsap .rr ssap ++ [Sequence.toOctet ⟨0, nr⟩]) =
      .ok { dsap, type := .rr, ssap, sequence := some ⟨0, nr⟩ } := by
  rw [decode_numbered _ _ _ _ _ rfl (by simp), ofOctet_toOctet (by decide) receive]

namespace Session

theorem windowFrame_ok (s : Session) (address : LinkAddress) (type : PduType) :
    s.windowFrame address type =
      .ok (header address.remoteSap type address.localSap ++
        [0x05, 0x01, s.localWindow &&& 0x0f]) :=
  encodeWithInfo_ok _ _ _ [0x05, 0x01, s.localWindow &&& 0x0f] (by simp)

theorem disconnectedFrame_ok (address : LinkAddress) (reason : DisconnectReason) :
    disconnectedFrame address reason =
      .ok (header address.remoteSap .dm address.localSap ++ [reason.code]) :=
  encodeWithInfo_ok address.remoteSap address.localSap .dm [reason.code] (by simp)

theorem rejectFrame_ok (s : Session) (address : LinkAddress) (flags : UInt8) (pdu : Pdu) :
    s.rejectFrame address flags pdu =
      .ok (header address.remoteSap .frmr address.localSap ++ FrameReject.toOctets
        { flags, type := pdu.type, sequence := (pdu.sequence.map Sequence.toOctet).getD 0
          vs := s.vs, vr := s.vr, vsa := s.vsa, vra := s.vra }) :=
  encodeWithInfo_ok address.remoteSap address.localSap .frmr (FrameReject.toOctets _)
    (by simp [FrameReject.toOctets])

end Session

end NearField.Llcp
