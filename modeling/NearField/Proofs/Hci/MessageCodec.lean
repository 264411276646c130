import NearField.Proofs.Hci.Message

/-!
Messages and the octets they stand for. Main statement: a message whose numbers fit their fields is
read back from its encoding, whatever comes after it, and what was read is written as the octets
that the first of them counts; nothing else is written or read.
-/

namespace NearField.Hci.Message

structure InRange (message : Message) : Prop where
  pipe : message.pipe < 128
  type : message.type < 4
  instruction : message.instruction < 64

/-- How many octets the message at the start of a buffer takes: the one that counts, and as many as
it counts. -/
def extent (bytes : Octets) : Nat := 1 + (bytes.getD 0 0).toNat

/-- Octets that hold no message: there are none, they count less than a header, or they end before
what they count does. -/
def Unreadable (bytes : Octets) : Prop :=
  bytes = [] ∨ bytes.getD 0 0 < 2 ∨ bytes.length < extent bytes

variable {message : Message} {bytes : Octets}

theorem inRange_iff : message.InRange ↔ message.Narrow := by
  have pipe : message.pipe &&& 0x7f = message.pipe ↔ message.pipe < 128 :=
    keeps_low_iff message.pipe 7 rfl rfl
  have type : message.type &&& 0x03 = message.type ↔ message.type < 4 :=
    keeps_low_iff message.type 2 rfl rfl
  have instruction : message.instruction &&& 0x3f = message.instruction ↔
      message.instruction < 64 := keeps_low_iff message.instruction 6 rfl rfl
  constructor
  · intro inRange
    exact ⟨pipe.mpr inRange.pipe, type.mpr inRange.type, instruction.mpr inRange.instruction⟩
  · intro narrow
    exact ⟨pipe.mp narrow.pipe, type.mp narrow.type, instruction.mp narrow.instruction⟩

theorem encode_ok_iff (message : Message) :
    (∃ bytes, message.encode = .ok bytes) ↔ message.data.length ≤ 253 := by
  constructor
  · rintro ⟨bytes, encoded⟩
    by_contra long
    have refused : 255 < 2 + message.data.length := by omega
    rw [encode, if_pos refused] at encoded
    cases encoded
  · intro short
    exact ⟨_, encode_fits short⟩

theorem extent_cons (counted : UInt8) (rest : Octets) :
    extent (counted :: rest) = 1 + counted.toNat := rfl

theorem header_fields (first second : UInt8) (data : Octets) :
    let message : Message :=
      ⟨first &&& 0x80 != 0, first &&& 0x7f, second >>> 6, second &&& 0x3f, data⟩
    message.pipeOctet = first ∧ message.instructionOctet = second := by
  constructor
  · rw [pipeOctet, flag_kept first 7 (by decide) (by decide)]
    apply octet_eq_of_bits
    intro i inside
    interval_cases i <;> simp
  · rw [instructionOctet]
    apply octet_eq_of_bits
    intro i inside
    interval_cases i <;> simp

theorem readable_shape (readable : ¬Unreadable bytes) :
    ∃ counted first second rest size, bytes = counted :: first :: second :: rest ∧
      counted.toNat = 2 + size ∧ size ≤ rest.length := by
  rw [Unreadable, not_or, not_or] at readable
  obtain ⟨present, counts, whole⟩ := readable
  rcases bytes with _ | ⟨counted, rest⟩
  · exact absurd rfl present
  have least : 2 ≤ counted.toNat := Nat.not_lt.mp fun few => counts (UInt8.lt_iff_toNat_lt.mpr few)
  rw [extent_cons, List.length_cons] at whole
  -- The two octets of a header are there, since they are counted.
  rcases rest with _ | ⟨first, _ | ⟨second, rest⟩⟩
  iterate 2
    simp only [List.length_cons, List.length_nil] at whole
    omega
  refine ⟨counted, first, second, rest, counted.toNat - 2, rfl, by omega, ?_⟩
  simp only [List.length_cons] at whole
  omega

theorem decode_unreadable (unreadable : Unreadable bytes) : ∃ e, decode bytes = .error e := by
  rcases bytes with _ | ⟨counted, rest⟩
  · exact ⟨_, rfl⟩
  by_cases few : counted < 2
  · refine ⟨.frameFormat (.messageTooShort counted.toNat), ?_⟩
    rw [decode]
    change (if counted < 2 then throw _ else _) = _
    rw [if_pos few]
    rfl
  · have short : (counted :: rest).length < 1 + counted.toNat := by
      rcases unreadable with absent | less | short
      · cases absent
      · exact absurd less few
      · exact short
    refine ⟨.invalidLength (1 + counted.toNat) (counted :: rest).length, ?_⟩
    rw [decode]
    change (if counted < 2 then throw _ else _) = _
    rw [if_neg few, Octets.sliceAt, if_pos short]
    rfl

theorem decode_error_iff (bytes : Octets) :
    (∃ e, decode bytes = .error e) ↔ Unreadable bytes := by
  constructor
  · rintro ⟨e, failed⟩
    by_contra readable
    obtain ⟨counted, first, second, rest, size, rfl, count, enough⟩ := readable_shape readable
    rw [decode_counted count enough] at failed
    cases failed
  · exact decode_unreadable

/-- What is read is written as the octets it was read from. -/
theorem encode_of_decode (read : decode bytes = .ok message) :
    message.encode = .ok (bytes.take (extent bytes)) := by
  have readable : ¬Unreadable bytes := by
    intro unreadable
    obtain ⟨e, failed⟩ := decode_unreadable unreadable
    rw [read] at failed
    cases failed
  obtain ⟨counted, first, second, rest, size, rfl, count, enough⟩ := readable_shape readable
  rw [decode_counted count enough] at read
  cases read
  obtain ⟨pipe, instruction⟩ := header_fields first second (rest.take size)
  have exact_size : (rest.take size).length = size := by
    rw [List.length_take, Nat.min_eq_left enough]
  have bound : counted.toNat < 256 := counted.toNat_lt
  have same : (2 + (rest.take size).length).toUInt8 = counted := by
    rw [exact_size, ← count, Nat.toUInt8_eq, UInt8.ofNat_toNat]
  have whole : extent (counted :: first :: second :: rest) = size + 1 + 1 + 1 := by
    rw [extent_cons]
    omega
  rw [encode_fits (by simp only [exact_size]; omega), same, pipe, instruction, whole]
  rfl

/-- A message is written and read back, whatever comes after it, exactly if its numbers fit their
fields and one octet can count its data; writing refuses longer data. Octets are read unless they
hold no message, and what was read is written as the octets that the first of them counts. -/
theorem codec_counted :
    (∀ message : Message, message.InRange ∧ message.data.length ≤ 253 ↔
      ∃ bytes, message.encode = .ok bytes ∧ ∀ pad, decode (bytes ++ pad) = .ok message) ∧
    (∀ message : Message, (∃ e, message.encode = .error e) ↔ 253 < message.data.length) ∧
    (∀ bytes : Octets, (∃ e, decode bytes = .error e) ↔ Unreadable bytes) ∧
    ∀ (bytes : Octets) (message : Message), decode bytes = .ok message →
      message.encode = .ok (bytes.take (extent bytes)) := by
  refine ⟨fun message => ⟨?_, ?_⟩, fun message => ?_, decode_error_iff,
    fun bytes message => encode_of_decode⟩
  · rintro ⟨inRange, short⟩
    refine ⟨_, encode_fits short, fun pad => ?_⟩
    obtain ⟨bytes, encoded, read⟩ := decode_encode (inRange_iff.mp inRange) short pad
    rw [encode_fits short] at encoded
    cases encoded
    exact read
  · rintro ⟨bytes, _, read⟩
    obtain ⟨narrow, short⟩ := bounds_of_decode (read [])
    exact ⟨inRange_iff.mpr narrow, short⟩
  · rw [← Nat.not_le, ← encode_ok_iff]
    cases message.encode <;> simp

/-- A fragment with every field at its upper bound and as much data as can be counted, in a buffer
with octets left from before. -/
theorem longest_fragment_read :
    let message : Message := ⟨false, 0x7f, 0x03, 0x3f, List.replicate 253 0xaa⟩
    let bytes : Octets := 0xff :: 0x7f :: 0xff :: List.replicate 300 0xaa
    decode bytes = .ok message ∧ message.encode = .ok (bytes.take (extent bytes)) := by
  intro message bytes
  have read : decode bytes = .ok message := by decide +kernel
  exact ⟨read, codec_counted.2.2.2 bytes message read⟩

end NearField.Hci.Message
