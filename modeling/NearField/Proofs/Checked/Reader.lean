import NearField.Proofs.Checked.Memory

/-!
The readers of fields with every access and every sum checked, and what the writers of fields have
in common. Main statement: each reader asks for the length it needs before it touches an octet, so
it ends as the total reader does and never faults.
-/

namespace NearField.Octets

def checkedByteAt (bytes : Octets) (pos : Nat) : Attempt UInt8 := do
  let least ← Size.add pos 1
  settled (bytes.require least)
  bytes.checkedGet pos

def checkedSliceAt (bytes : Octets) (pos count : Nat) : Attempt Octets := do
  let stop ← Size.add pos count
  settled (bytes.require stop)
  bytes.checkedSlice pos stop

/-- Cuts octets into pieces of a width, the last one as long as the octets reach. -/
def chunks (width : Nat) (positive : 0 < width) (bytes : Octets) : List Octets :=
  match bytes with
  | [] => []
  | octet :: rest =>
    (octet :: rest).take width :: chunks width positive ((octet :: rest).drop width)
termination_by bytes.length
decreasing_by simp only [List.length_drop, List.length_cons]; omega

def checkedChunks (bytes : Octets) (width : Nat) : Checked (List Octets) :=
  if positive : 0 < width then pure (chunks width positive bytes) else throw .width

def checkedCountedEntries (bytes : Octets) (width : Nat) : Attempt (List Octets) := do
  let count ← bytes.checkedByteAt 0
  let total ← Size.mul count.toNat width
  let body ← bytes.checkedSliceAt 1 total
  body.checkedChunks width

def checkedTaggedEntries (bytes : Octets) (pos : Nat) : Nat → Attempt (List (UInt8 × Octets))
  | 0 => pure []
  | count + 1 => do
    let id ← bytes.checkedByteAt pos
    let lengthPos ← Size.add pos 1
    let length ← bytes.checkedByteAt lengthPos
    let valuePos ← Size.add pos 2
    let value ← bytes.checkedSliceAt valuePos length.toNat
    let entryLength ← Size.add 2 length.toNat
    let next ← Size.add pos entryLength
    let rest ← checkedTaggedEntries bytes next count
    return (id, value) :: rest

/-- Goes on to write into a buffer that has room for so many octets, and leaves another alone. -/
def withRoom (buffer : Octets) (total : Nat) (writing : Checked (Except Error Nat × Octets)) :
    Checked (Except Error Nat × Octets) :=
  match buffer.require total with
  | .error e => return (.error e, buffer)
  | .ok () => writing

theorem place_ok (buffer bytes : Octets) :
    buffer.place (.ok bytes) =
      if buffer.length < bytes.length then
        (.error (.invalidLength bytes.length buffer.length), buffer)
      else (.ok bytes.length, buffer.overlay 0 bytes) := by
  have bounded : within buffer.length (.ok bytes) =
      if buffer.length < bytes.length then
        .error (.invalidLength bytes.length buffer.length)
      else .ok bytes := rfl
  rw [place, bounded]
  by_cases short : buffer.length < bytes.length
  · rw [if_pos short, if_pos short]
  · rw [if_neg short, if_neg short]

theorem length_place (buffer : Octets) (encoding : Except Error Octets) :
    (buffer.place encoding).2.length = buffer.length := by
  cases encoding with
  | error e => rfl
  | ok bytes =>
    rw [place_ok]
    split
    · rfl
    · exact length_overlay buffer 0 bytes

theorem place_cases (buffer : Octets) (encoding : Except Error Octets) :
    (∃ e, buffer.place encoding = (.error e, buffer)) ∨
      ∃ bytes, encoding = .ok bytes ∧ bytes.length ≤ buffer.length := by
  cases encoding with
  | error e => exact .inl ⟨e, rfl⟩
  | ok bytes =>
    by_cases fits : bytes.length ≤ buffer.length
    · exact .inr ⟨bytes, rfl, fits⟩
    · rw [place_ok, if_pos (Nat.not_le.mp fits)]
      exact .inl ⟨_, rfl⟩

theorem place_within (buffer : Octets) (encoding : Except Error Octets) :
    buffer.place (within buffer.length encoding) = buffer.place encoding := by
  cases fits : within buffer.length encoding with
  | error e =>
    rw [place, place, fits]
    rfl
  | ok bytes => rw [(within_ok fits).1]

theorem withRoom_eq {buffer bytes : Octets} {total : Nat}
    {writing : Checked (Except Error Nat × Octets)} (size : total = bytes.length)
    (laid : bytes.length ≤ buffer.length → writing = pure (.ok total, buffer.overlay 0 bytes)) :
    buffer.withRoom total writing = pure (buffer.place (.ok bytes)) := by
  subst size
  rw [withRoom, require, place_ok]
  by_cases short : buffer.length < bytes.length
  · rw [if_pos short, if_pos short]
  · rw [if_neg short, if_neg short]
    exact laid (Nat.not_lt.mp short)

/-- Lets a writer fill memory of its own and keeps what it wrote. -/
def checkedOwned (room : Nat) (write : Octets → Checked (Except Error Nat × Octets)) :
    Attempt Octets := do
  let (written, memory) ← write (zeros room)
  let count ← settled written
  return memory.take count

theorem checkedOwned_eq {room : Nat} {write : Octets → Checked (Except Error Nat × Octets)}
    {encoding : Except Error Octets}
    (writes : write (zeros room) = pure ((zeros room).place encoding))
    (fits : ∀ bytes, encoding = .ok bytes → bytes.length ≤ room) :
    checkedOwned room write = settled encoding := by
  rw [checkedOwned, writes, lift_pure, pure_bind]
  cases encoding with
  | error e => rfl
  | ok bytes =>
    have inside : bytes.length ≤ (zeros room).length := by
      rw [length_zeros]
      exact fits bytes rfl
    rw [place_ok, if_neg (Nat.not_lt.mpr inside)]
    simp only [settled_ok, pure_bind, overlay_zero inside, List.take_left]

theorem checkedByteAt_eq (bytes : Octets) {pos : Nat} (near : pos < 65535) :
    bytes.checkedByteAt pos = settled (bytes.byteAt pos) := by
  rw [checkedByteAt, Size.add_small (by omega), lift_pure, pure_bind, require, byteAt]
  by_cases short : bytes.length < pos + 1
  · rw [if_pos short, List.getElem?_eq_none (by omega)]
    rfl
  · rw [if_neg short, settled_ok, pure_bind, checkedGet_lt (by omega),
      List.getElem?_eq_getElem (by omega)]
    rfl

theorem checkedSliceAt_eq (bytes : Octets) {pos count : Nat} (near : pos + count < 65536) :
    bytes.checkedSliceAt pos count = settled (bytes.sliceAt pos count) := by
  rw [checkedSliceAt, Size.add_small (by omega), lift_pure, pure_bind, require, sliceAt]
  by_cases short : bytes.length < pos + count
  · rw [if_pos short, if_pos short]
    rfl
  · rw [if_neg short, if_neg short, settled_ok, pure_bind,
      checkedSlice_le (by omega) (by omega), Nat.add_sub_cancel_left]
    rfl

theorem chunks_eq_pieces {width : Nat} (positive : 0 < width) (count : Nat) {bytes : Octets}
    (whole : bytes.length = count * width) :
    chunks width positive bytes = pieces width count bytes := by
  induction count generalizing bytes with
  | zero =>
    rw [Nat.zero_mul] at whole
    rw [List.eq_nil_of_length_eq_zero whole, chunks, pieces]
  | succ count ih =>
    rw [Nat.succ_mul] at whole
    cases bytes with
    | nil => rw [List.length_nil] at whole; omega
    | cons octet rest =>
      rw [chunks, pieces, ih (by rw [List.length_drop]; omega)]

theorem checkedCountedEntries_eq (bytes : Octets) {width : Nat} (positive : 0 < width)
    (narrow : width ≤ 16) :
    bytes.checkedCountedEntries width = settled (bytes.countedEntries width) := by
  rw [checkedCountedEntries, countedEntries, checkedByteAt_eq _ (by omega), settled_bind]
  congr 1
  funext count
  have bound : count.toNat * width ≤ 255 * 16 :=
    Nat.mul_le_mul (Nat.le_of_lt_succ count.toNat_lt) narrow
  rw [Size.mul_small (by omega), lift_pure, pure_bind, checkedSliceAt_eq _ (by omega)]
  cases read : bytes.sliceAt 1 (count.toNat * width) with
  | error e => rfl
  | ok body =>
    rw [settled_ok, pure_bind, checkedChunks, dif_pos positive,
      chunks_eq_pieces positive _ (sliceAt_length read).1]
    rfl

theorem checkedTaggedEntries_eq {bytes : Octets} (short : bytes.length < 32768) (count : Nat)
    {pos : Nat} (inside : pos ≤ bytes.length) :
    bytes.checkedTaggedEntries pos count = settled (bytes.taggedEntries pos count) := by
  induction count generalizing pos with
  | zero => rfl
  | succ count ih =>
    rw [checkedTaggedEntries, taggedEntries, checkedByteAt_eq _ (by omega), settled_bind]
    congr 1
    funext id
    rw [Size.add_small (by omega), lift_pure, pure_bind, checkedByteAt_eq _ (by omega),
      settled_bind]
    congr 1
    funext length
    have bound : length.toNat < 256 := length.toNat_lt
    rw [Size.add_small (by omega), lift_pure, pure_bind, checkedSliceAt_eq _ (by omega)]
    cases read : bytes.sliceAt (pos + 2) length.toNat with
    | error e => rfl
    | ok value =>
      have next : pos + 2 + length.toNat ≤ bytes.length := (sliceAt_length read).2
      rw [settled_ok, pure_bind, Size.add_small (by omega), lift_pure, pure_bind,
        Size.add_small (by omega), lift_pure, pure_bind, ← Nat.add_assoc, ih next]
      cases taggedEntries bytes (pos + 2 + length.toNat) count <;> rfl

end NearField.Octets
