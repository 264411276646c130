import NearField.Hci.Message
import NearField.Proofs.Octets
import NearField.Proofs.Octets.Reader
import Mathlib.Tactic.IntervalCases

/-!
What the octets of a message say when they are read again. Main statement: a message is read back
from its encoding, whatever comes after it in the buffer.
-/

namespace NearField.Hci.Message

variable {message : Message} {bytes : Octets}

theorem last_pipeOctet (message : Message) : (message.pipeOctet &&& 0x80 != 0) = message.last := by
  have flag : message.pipeOctet &&& 0x80 = if message.last then 0x80 else 0x00 := by
    apply octet_eq_of_bits
    intro i inside
    cases set : message.last <;> interval_cases i <;> simp [pipeOctet, set]
  rw [flag]
  cases message.last <;> rfl

theorem pipe_pipeOctet (message : Message) :
    message.pipeOctet &&& 0x7f = message.pipe &&& 0x7f := by
  apply octet_eq_of_bits
  intro i inside
  cases set : message.last <;> interval_cases i <;> simp [pipeOctet, set]

theorem type_instructionOctet (message : Message) :
    message.instructionOctet >>> 6 = message.type &&& 0x03 := by
  apply octet_eq_of_bits
  intro i inside
  interval_cases i <;> simp [instructionOctet]

theorem instruction_instructionOctet (message : Message) :
    message.instructionOctet &&& 0x3f = message.instruction &&& 0x3f := by
  apply octet_eq_of_bits
  intro i inside
  interval_cases i <;> simp [instructionOctet]

theorem upper_narrow (octet : UInt8) : octet >>> 6 &&& (0x03 : UInt8) = octet >>> 6 := by
  apply octet_eq_of_bits
  intro i inside
  interval_cases i <;> simp

structure Narrow (message : Message) : Prop where
  pipe : message.pipe &&& 0x7f = message.pipe
  type : message.type &&& 0x03 = message.type
  instruction : message.instruction &&& 0x3f = message.instruction

theorem response_narrow (pipe code : UInt8) (data : Octets) : (response pipe code data).Narrow where
  pipe := by rw [response, UInt8.and_assoc, UInt8.and_self]
  type := show responseType &&& 0x03 = responseType by decide
  instruction := by rw [response, UInt8.and_assoc, UInt8.and_self]

theorem decode_counted {counted first second : UInt8} {rest : Octets} {size : Nat}
    (count : counted.toNat = 2 + size) (enough : size ≤ rest.length) :
    decode (counted :: first :: second :: rest) =
      .ok ⟨first &&& 0x80 != 0, first &&& 0x7f, second >>> 6, second &&& 0x3f,
        rest.take size⟩ := by
  have long : ¬counted < 2 := by
    rw [UInt8.lt_iff_toNat_lt, count]
    exact Nat.not_lt.mpr (Nat.le_add_right 2 size)
  have whole : ¬(counted :: first :: second :: rest).length < 1 + counted.toNat := by
    simp only [List.length_cons, count]
    omega
  have content : ((counted :: first :: second :: rest).drop 1).take counted.toNat =
      first :: second :: rest.take size := by
    rw [count, Nat.add_comm]
    rfl
  have sliced : Octets.sliceAt (counted :: first :: second :: rest) 1 counted.toNat =
      .ok (first :: second :: rest.take size) := by
    rw [Octets.sliceAt, if_neg whole, content]
  rw [decode]
  change (if counted < 2 then throw _ else _) = _
  rw [if_neg long, sliced]
  rfl

theorem bounds_of_decode (read : decode bytes = .ok message) :
    message.Narrow ∧ message.data.length ≤ 253 := by
  obtain ⟨counted, _, read⟩ := bind_eq_ok read
  have bound : counted.toNat < 256 := counted.toNat_lt
  simp only at read
  split at read
  · cases read
  · obtain ⟨content, taken, read⟩ := bind_eq_ok read
    obtain ⟨first, _, read⟩ := bind_eq_ok read
    obtain ⟨second, _, read⟩ := bind_eq_ok read
    have size := (Octets.sliceAt_length taken).1
    cases read
    refine ⟨⟨?_, upper_narrow second, ?_⟩, ?_⟩
    · rw [UInt8.and_assoc, UInt8.and_self]
    · rw [UInt8.and_assoc, UInt8.and_self]
    · rw [List.length_drop]
      omega

theorem encode_fits (short : message.data.length ≤ 253) :
    message.encode = .ok
      ((2 + message.data.length).toUInt8 :: message.pipeOctet :: message.instructionOctet ::
        message.data) :=
  if_neg (by omega)

/-- A message is read back from its encoding, whatever comes after it. -/
theorem decode_encode (narrow : message.Narrow) (short : message.data.length ≤ 253)
    (tail : Octets) :
    ∃ bytes, message.encode = .ok bytes ∧ decode (bytes ++ tail) = .ok message := by
  refine ⟨_, encode_fits short, ?_⟩
  have count : (2 + message.data.length).toUInt8.toNat = 2 + message.data.length :=
    UInt8.toNat_ofNat_of_lt' (show _ < 256 by omega)
  have enough : message.data.length ≤ (message.data ++ tail).length := by
    rw [List.length_append]
    exact Nat.le_add_right _ _
  rw [List.cons_append, List.cons_append, List.cons_append, decode_counted count enough,
    last_pipeOctet, pipe_pipeOctet, type_instructionOctet, instruction_instructionOctet,
    narrow.pipe, narrow.type, narrow.instruction, List.take_left]

end NearField.Hci.Message
