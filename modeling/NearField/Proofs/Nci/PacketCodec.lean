import NearField.Proofs.Nci.Packet
import NearField.Proofs.Octets

/-!
Packets and the octets they stand for. Main statement: a packet whose numbers fit their fields is
read back from its encoding, whatever comes after it, and what was read is written as the octets it
was read from with the reserved bits blanked; nothing else is written or read.
-/

namespace NearField.Nci.Packet

def InRange : Packet → Prop
  | control type _ group opcode _ => type ≠ .data ∧ group < 16 ∧ opcode < 64
  | data _ connection _ => connection < 16

/-- How many octets the packet at the start of a buffer takes: its header and as many as that
counts. -/
def extent (bytes : Octets) : Nat := packetHeaderLength + (bytes.getD 2 0).toNat

/-- The part of the second octet that is read: in a control message the opcode below two reserved
bits, in data nothing. -/
def heeded (type : MessageType) (octet : UInt8) : UInt8 :=
  if type = .data then 0 else octet &&& 0x3f

/-- Octets that hold no packet: they end before the header or the payload does, or the message type
is reserved. -/
def Unreadable (bytes : Octets) : Prop :=
  bytes.length < packetHeaderLength ∨ bytes.length < extent bytes ∨
    (3 : UInt8) < bytes.getD 0 0 >>> 5

variable {packet : Packet} {bytes : Octets}

theorem inRange_iff : packet.InRange ↔ packet.Narrow := by
  have four (number : UInt8) : number &&& 0x0f = number ↔ number < 16 :=
    keeps_low_iff number 4 rfl rfl
  have six (number : UInt8) : number &&& 0x3f = number ↔ number < 64 :=
    keeps_low_iff number 6 rfl rfl
  cases packet with
  | control type more group opcode payload => rw [InRange, Narrow, four, six]
  | data more connection payload => rw [InRange, Narrow, four]

theorem code_of_ofCode {octet : UInt8} {type : MessageType}
    (known : MessageType.ofCode octet = .ok type) : octet = type.code := by
  unfold MessageType.ofCode at known
  split at known <;> cases known <;> rfl

theorem ofCode_error_iff (octet : UInt8) :
    (∃ e, MessageType.ofCode octet = .error e) ↔ 3 < octet := by
  constructor
  · rintro ⟨e, unknown⟩
    unfold MessageType.ofCode at unknown
    split at unknown
    iterate 4 cases unknown
    rename_i zero one two three
    rw [imp_false, ← UInt8.toNat_inj] at zero one two three
    rw [UInt8.lt_iff_toNat_lt]
    simp only [UInt8.reduceToNat] at zero one two three ⊢
    omega
  · intro above
    cases known : MessageType.ofCode octet with
    | error e => exact ⟨e, rfl⟩
    | ok type =>
      rw [code_of_ofCode known] at above
      cases type <;> exact absurd above (by decide)

theorem leadOctet_fields {octet : UInt8} {type : MessageType} (code : octet >>> 5 = type.code) :
    leadOctet type (octet &&& 0x10 != 0) (octet &&& 0x0f) = octet := by
  rw [leadOctet, flag_kept octet 4 (by decide) (by decide), ← code]
  apply octet_eq_of_bits
  intro i inside
  interval_cases i <;> simp

theorem encode_ok_iff (packet : Packet) :
    (∃ bytes, packet.encode = .ok bytes) ↔ packet.payload.length ≤ maxPayload := by
  constructor
  · rintro ⟨_, encoded⟩
    exact (encode_ok encoded).1
  · intro short
    exact ⟨_, encode_fits short⟩

theorem extent_cons (b0 b1 length : UInt8) (rest : Octets) :
    extent (b0 :: b1 :: length :: rest) = length.toNat + 3 := Nat.add_comm 3 _

theorem read_fields {b0 b1 length : UInt8} {rest : Octets}
    (read : decode (b0 :: b1 :: length :: rest) = .ok packet) :
    length.toNat ≤ rest.length ∧ packet.payload = rest.take length.toNat ∧
      b0 >>> 5 = packet.type.code ∧ packet.lead = (b0, heeded packet.type b1) := by
  have low : b0 &&& 0x0f &&& 0x0f = b0 &&& 0x0f := by rw [UInt8.and_assoc, UInt8.and_self]
  have code : b1 &&& 0x3f &&& 0x3f = b1 &&& 0x3f := by rw [UInt8.and_assoc, UInt8.and_self]
  obtain ⟨type, known, read⟩ := bind_eq_ok read
  have field := code_of_ofCode known
  have first := leadOctet_fields field
  simp only at read
  split at read
  · cases read
  · rename_i enough
    refine ⟨Nat.not_lt.mp enough, ?_⟩
    cases type with
    | data =>
      cases read
      exact ⟨rfl, field, Prod.ext first rfl⟩
    | _ =>
      cases read
      exact ⟨rfl, field, Prod.ext first code⟩

theorem encode_of_decode (read : decode bytes = .ok packet) :
    packet.encode = .ok ((bytes.take (extent bytes)).modify 1 (heeded packet.type)) := by
  match bytes with
  | [] | [_] | [_, _] => cases read
  | b0 :: b1 :: length :: rest =>
    obtain ⟨enough, payload, _, lead⟩ := read_fields read
    have size : packet.payload.length = length.toNat := by
      rw [payload, List.length_take, Nat.min_eq_left enough]
    have short : packet.payload.length ≤ maxPayload := by
      rw [size]
      exact Nat.le_of_lt_succ length.toNat_lt
    rw [encode_fits short, size, payload, lead, extent_cons, Nat.toUInt8_eq, UInt8.ofNat_toNat]
    rfl

theorem decode_of_whole {b0 length : UInt8} {type : MessageType} {rest : Octets}
    (known : MessageType.ofCode (b0 >>> 5) = .ok type) (enough : ¬rest.length < length.toNat)
    (b1 : UInt8) : ∃ packet, decode (b0 :: b1 :: length :: rest) = .ok packet := by
  simp only [decode, known, if_neg enough]
  cases type <;> exact ⟨_, rfl⟩

theorem decode_ok_iff (bytes : Octets) :
    (∃ packet, decode bytes = .ok packet) ↔ ¬Unreadable bytes := by
  match bytes with
  | [] | [_] | [_, _] =>
    refine ⟨?_, fun readable => absurd (.inl ?_) readable⟩
    · rintro ⟨_, ⟨⟩⟩
    · simp [packetHeaderLength]
  | b0 :: b1 :: length :: rest =>
    have headed : ¬(b0 :: b1 :: length :: rest).length < packetHeaderLength := by
      simp only [List.length_cons, packetHeaderLength]
      omega
    have sized : (b0 :: b1 :: length :: rest).length < extent (b0 :: b1 :: length :: rest) ↔
        rest.length < length.toNat := by
      rw [extent_cons]
      simp only [List.length_cons]
      omega
    rw [Unreadable, sized, not_or, not_or]
    constructor
    · rintro ⟨packet, read⟩
      obtain ⟨enough, _, code, _⟩ := read_fields read
      refine ⟨headed, Nat.not_lt.mpr enough, ?_⟩
      change ¬(3 : UInt8) < b0 >>> 5
      rw [code]
      cases packet.type <;> decide
    · rintro ⟨_, enough, assigned⟩
      cases known : MessageType.ofCode (b0 >>> 5) with
      | error e => exact absurd ((ofCode_error_iff _).mp ⟨e, known⟩) assigned
      | ok type => exact decode_of_whole known enough b1

/-- A packet is written and read back, whatever comes after it, exactly if its numbers fit their
fields and its payload one octet of length; writing refuses longer payloads. Octets are read unless
they hold no packet, and what was read is written as those octets with the reserved bits blanked. -/
theorem codec_canonical :
    (∀ packet : Packet, packet.InRange ∧ packet.payload.length ≤ 255 ↔
      ∃ bytes, packet.encode = .ok bytes ∧ ∀ pad, decode (bytes ++ pad) = .ok packet) ∧
    (∀ packet : Packet, (∃ e, packet.encode = .error e) ↔ 255 < packet.payload.length) ∧
    (∀ bytes : Octets, (∃ e, decode bytes = .error e) ↔ Unreadable bytes) ∧
    ∀ (bytes : Octets) (packet : Packet), decode bytes = .ok packet →
      packet.encode = .ok ((bytes.take (extent bytes)).modify 1 (heeded packet.type)) := by
  refine ⟨fun packet => ⟨?_, ?_⟩, fun packet => ?_, fun bytes => ?_,
    fun bytes packet => encode_of_decode⟩
  · rintro ⟨inRange, short⟩
    obtain ⟨bytes, encoded⟩ := (encode_ok_iff packet).mpr short
    exact ⟨bytes, encoded, decode_encode (inRange_iff.mp inRange) encoded⟩
  · rintro ⟨bytes, _, read⟩
    obtain ⟨narrow, short⟩ := bounds_of_decode (read [])
    exact ⟨inRange_iff.mpr narrow, short⟩
  · have written := encode_ok_iff packet
    rw [maxPayload] at written
    rw [← Nat.not_le, ← written]
    cases packet.encode <;> simp
  · have readable := decode_ok_iff bytes
    rw [← not_iff_not, ← readable]
    cases decode bytes <;> simp

/-- A command with every field at its upper bound, in a buffer with octets left from before; the
two reserved bits of the second octet are set. -/
theorem widest_command_read :
    let packet : Packet := .control .command true 0x0f 0x3f (List.replicate 255 0xaa)
    let bytes : Octets := 0x3f :: 0xff :: 0xff :: List.replicate 300 0xaa
    decode bytes = .ok packet ∧
      packet.encode = .ok ((bytes.take (extent bytes)).modify 1 (heeded packet.type)) := by
  intro packet bytes
  have read : decode bytes = .ok packet := by decide +kernel
  exact ⟨read, codec_canonical.2.2.2 bytes packet read⟩

end NearField.Nci.Packet
