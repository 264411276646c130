import NearField.Nci.Packet
import NearField.Proofs.Octets
import NearField.Proofs.Octets.Reader
import Mathlib.Tactic.IntervalCases

/-!
What the octets of a packet say when they are read again. Main statement: a packet is read back
from its encoding, whatever comes after it in the buffer.
-/

namespace NearField.Nci.Packet

theorem type_leadOctet (type : MessageType) (more : Bool) (number : UInt8) :
    MessageType.ofCode (leadOctet type more number >>> 5) = .ok type := by
  have code : leadOctet type more number >>> 5 = type.code := by
    apply octet_eq_of_bits
    intro i inside
    cases type <;> cases more <;> interval_cases i <;> simp [leadOctet, MessageType.code]
  rw [code]
  cases type <;> rfl

theorem more_leadOctet (type : MessageType) (more : Bool) (number : UInt8) :
    (leadOctet type more number &&& 0x10 != 0) = more := by
  have flag : leadOctet type more number &&& 0x10 = if more then 0x10 else 0x00 := by
    apply octet_eq_of_bits
    intro i inside
    cases type <;> cases more <;> interval_cases i <;> simp [leadOctet, MessageType.code]
  rw [flag]
  cases more <;> rfl

theorem number_leadOctet (type : MessageType) (more : Bool) (number : UInt8) :
    leadOctet type more number &&& 0x0f = number &&& 0x0f := by
  apply octet_eq_of_bits
  intro i inside
  cases type <;> cases more <;> interval_cases i <;> simp [leadOctet, MessageType.code]

def Narrow : Packet → Prop
  | control type _ group opcode _ =>
    type ≠ .data ∧ group &&& 0x0f = group ∧ opcode &&& 0x3f = opcode
  | data _ connection _ => connection &&& 0x0f = connection

theorem whole_narrow {type : MessageType} (control : type ≠ .data) (opcode : Opcode)
    (payload : Octets) : (whole type opcode payload).Narrow :=
  ⟨control, by rw [UInt8.and_assoc, UInt8.and_self], by rw [UInt8.and_assoc, UInt8.and_self]⟩

theorem ofData_narrow (connection : UInt8) (payload : Octets) :
    (ofData connection payload).Narrow := by
  rw [ofData, Narrow, UInt8.and_assoc, UInt8.and_self]

theorem bounds_of_decode {packet : Packet} {bytes : Octets} (read : decode bytes = .ok packet) :
    packet.Narrow ∧ packet.payload.length ≤ maxPayload := by
  match bytes with
  | [] | [_] | [_, _] => cases read
  | b0 :: b1 :: length :: rest =>
    have low : b0 &&& 0x0f &&& 0x0f = b0 &&& 0x0f := by rw [UInt8.and_assoc, UInt8.and_self]
    have code : b1 &&& 0x3f &&& 0x3f = b1 &&& 0x3f := by rw [UInt8.and_assoc, UInt8.and_self]
    have bound : length.toNat ≤ maxPayload := Nat.le_of_lt_succ length.toNat_lt
    have short := Nat.le_trans (List.length_take_le length.toNat rest) bound
    obtain ⟨type, _, read⟩ := bind_eq_ok read
    simp only at read
    split at read
    · cases read
    · cases type with
      | data =>
        cases read
        exact ⟨low, short⟩
      | _ =>
        cases read
        exact ⟨⟨by decide, low, code⟩, short⟩

theorem encode_ok {packet : Packet} {bytes : Octets} (encoded : packet.encode = .ok bytes) :
    packet.payload.length ≤ maxPayload ∧
      bytes = packet.lead.1 :: packet.lead.2 :: packet.payload.length.toUInt8 :: packet.payload := by
  unfold encode at encoded
  split at encoded
  · cases encoded
  · rename_i short
    exact ⟨Nat.not_lt.mp short, (Except.ok.inj encoded).symm⟩

theorem encode_fits {packet : Packet} (short : packet.payload.length ≤ maxPayload) :
    packet.encode = .ok
      (packet.lead.1 :: packet.lead.2 :: packet.payload.length.toUInt8 :: packet.payload) :=
  if_neg (Nat.not_lt.mpr short)

/-- A packet is read back from its encoding, whatever comes after it. -/
theorem decode_encode {packet : Packet} {bytes : Octets} (narrow : packet.Narrow)
    (encoded : packet.encode = .ok bytes) (tail : Octets) : decode (bytes ++ tail) = .ok packet := by
  obtain ⟨short, rfl⟩ := encode_ok encoded
  have count : packet.payload.length.toUInt8.toNat = packet.payload.length := by
    rw [maxPayload] at short
    simp only [Nat.toUInt8_eq, UInt8.toNat_ofNat']
    omega
  have enough : ¬(packet.payload ++ tail).length < packet.payload.length.toUInt8.toNat := by
    rw [count, List.length_append]
    omega
  have taken : (packet.payload ++ tail).take packet.payload.length.toUInt8.toNat =
      packet.payload := by
    rw [count, List.take_left']
    rfl
  simp only [List.cons_append, decode, if_neg enough, taken]
  cases packet with
  | control type more group opcode payload =>
    obtain ⟨control, group, opcode⟩ := narrow
    simp only [lead, type_leadOctet, more_leadOctet, number_leadOctet, group]
    rw [UInt8.and_assoc, UInt8.and_self, opcode]
    cases type with
    | data => exact absurd rfl control
    | _ => rfl
  | data more connection payload =>
    simp only [lead, type_leadOctet, more_leadOctet, number_leadOctet]
    rw [show connection &&& 0x0f = connection from narrow]
    rfl

end NearField.Nci.Packet
