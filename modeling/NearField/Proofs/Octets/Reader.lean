import NearField.Octets.Reader

/-!
What a successful read says about the octets. Main statements: a read stays inside, a list of entries
has as many as its count says, and is read from nothing but its count and its entries in order.
-/

namespace NearField

section Except

variable {α β : Type}

theorem bind_eq_ok {result : Except Error α} {next : α → Except Error β} {value : β}
    (done : result >>= next = .ok value) :
    ∃ first, result = .ok first ∧ next first = .ok value := by
  cases result with
  | error e => cases done
  | ok first => exact ⟨first, rfl, done⟩

theorem bind_eq_ok_iff {result : Except Error α} {next : α → Except Error β} {value : β} :
    result >>= next = .ok value ↔
      ∃ first, result = .ok first ∧ next first = .ok value := by
  refine ⟨bind_eq_ok, ?_⟩
  rintro ⟨first, rfl, done⟩
  exact done

theorem mapM_count {f : α → Except Error β} {items : List α} {values : List β}
    (all : items.mapM f = .ok values) : values.length = items.length := by
  induction items generalizing values with
  | nil => cases all; rfl
  | cons item items ih =>
    rw [List.mapM_cons] at all
    obtain ⟨value, _, all⟩ := bind_eq_ok all
    obtain ⟨rest, others, all⟩ := bind_eq_ok all
    cases all
    rw [List.length_cons, List.length_cons, ih others]

end Except

namespace Octets

theorem byteAt_inside {bytes : Octets} {pos : Nat} {octet : UInt8}
    (ok : bytes.byteAt pos = .ok octet) : pos < bytes.length := by
  unfold byteAt at ok
  split at ok
  · rename_i found
    exact (List.getElem?_eq_some_iff.mp found).1
  · cases ok

theorem byteAt_append (before : Octets) (octet : UInt8) (after : Octets) :
    (before ++ octet :: after).byteAt before.length = .ok octet := by
  rw [byteAt, List.getElem?_append_right (Nat.le_refl _), Nat.sub_self]
  rfl

theorem sliceAt_append (before slice after : Octets) :
    (before ++ (slice ++ after)).sliceAt before.length slice.length = .ok slice := by
  have enough : ¬(before ++ (slice ++ after)).length < before.length + slice.length := by
    simp only [List.length_append]
    omega
  rw [sliceAt, if_neg enough, List.drop_left, List.take_left]

theorem sliceAt_length {bytes slice : Octets} {pos count : Nat}
    (ok : bytes.sliceAt pos count = .ok slice) :
    slice.length = count ∧ pos + count ≤ bytes.length := by
  unfold sliceAt at ok
  split at ok
  · cases ok
  · cases ok
    rw [List.length_take, List.length_drop]
    omega

theorem pieces_count (width count : Nat) (bytes : Octets) :
    (pieces width count bytes).length = count := by
  induction count generalizing bytes with
  | zero => rfl
  | succ count ih => rw [pieces, List.length_cons, ih]

theorem pieces_length {width count : Nat} {bytes : Octets} (whole : bytes.length = count * width) :
    ∀ piece ∈ pieces width count bytes, piece.length = width := by
  induction count generalizing bytes with
  | zero => exact fun _ inside => by cases inside
  | succ count ih =>
    rw [Nat.succ_mul] at whole
    rw [pieces, List.forall_mem_cons]
    exact ⟨by rw [List.length_take]; omega, ih (by rw [List.length_drop]; omega)⟩

theorem countedEntries_shape {bytes : Octets} {width : Nat} {entries : List Octets}
    (read : bytes.countedEntries width = .ok entries) :
    entries.length < 256 ∧ ∀ entry ∈ entries, entry.length = width := by
  obtain ⟨count, _, read⟩ := bind_eq_ok read
  obtain ⟨body, taken, read⟩ := bind_eq_ok read
  cases read
  rw [pieces_count]
  exact ⟨count.toNat_lt, pieces_length (sliceAt_length taken).1⟩

theorem taggedEntries_count {bytes : Octets} {count : Nat} {pos : Nat}
    {entries : List (UInt8 × Octets)} (read : bytes.taggedEntries pos count = .ok entries) :
    entries.length = count := by
  induction count generalizing pos entries with
  | zero => cases read; rfl
  | succ count ih =>
    obtain ⟨id, _, read⟩ := bind_eq_ok read
    obtain ⟨length, _, read⟩ := bind_eq_ok read
    obtain ⟨value, _, read⟩ := bind_eq_ok read
    obtain ⟨rest, others, read⟩ := bind_eq_ok read
    cases read
    rw [List.length_cons, ih others]

theorem taggedEntries_sized {bytes : Octets} {count pos : Nat} {entries : List (UInt8 × Octets)}
    (inside : pos ≤ bytes.length) (read : bytes.taggedEntries pos count = .ok entries) :
    pos + 2 * count ≤ bytes.length := by
  induction count generalizing pos entries with
  | zero => exact inside
  | succ count ih =>
    obtain ⟨id, _, read⟩ := bind_eq_ok read
    obtain ⟨length, _, read⟩ := bind_eq_ok read
    obtain ⟨value, taken, read⟩ := bind_eq_ok read
    obtain ⟨rest, others, read⟩ := bind_eq_ok read
    have after := ih (sliceAt_length taken).2 others
    omega

theorem byteAt_behind_iff (before : Octets) {after : Octets} {octet : UInt8} :
    (before ++ after).byteAt before.length = .ok octet ↔ ∃ rest, after = octet :: rest := by
  constructor
  · intro read
    cases after with
    | nil => exact absurd (byteAt_inside read) (by simp)
    | cons head rest =>
      rw [byteAt_append] at read
      cases read
      exact ⟨rest, rfl⟩
  · rintro ⟨rest, rfl⟩
    exact byteAt_append before octet rest

theorem sliceAt_behind_iff (before : Octets) {after : Octets} {count : Nat} {slice : Octets} :
    (before ++ after).sliceAt before.length count = .ok slice ↔
      slice.length = count ∧ ∃ rest, after = slice ++ rest := by
  constructor
  · intro read
    have size := (sliceAt_length read).1
    refine ⟨size, after.drop count, ?_⟩
    unfold sliceAt at read
    split at read
    · cases read
    · rw [List.drop_left] at read
      cases read
      exact (List.take_append_drop count after).symm
  · rintro ⟨rfl, rest, rfl⟩
    exact sliceAt_append before slice rest

theorem pieces_flatten {width count : Nat} {bytes : Octets} (whole : bytes.length = count * width) :
    (pieces width count bytes).flatten = bytes := by
  induction count generalizing bytes with
  | zero =>
    rw [Nat.zero_mul] at whole
    exact (List.eq_nil_of_length_eq_zero whole).symm
  | succ count ih =>
    rw [Nat.succ_mul] at whole
    rw [pieces, List.flatten_cons, ih (by rw [List.length_drop]; omega), List.take_append_drop]

theorem pieces_of_flatten {width : Nat} {entries : List Octets}
    (whole : ∀ entry ∈ entries, entry.length = width) :
    pieces width entries.length entries.flatten = entries := by
  induction entries with
  | nil => rfl
  | cons entry entries ih =>
    obtain ⟨first, others⟩ := List.forall_mem_cons.mp whole
    rw [List.length_cons, pieces, List.flatten_cons, List.take_left' first, List.drop_left' first,
      ih others]

theorem flatten_length {width : Nat} {entries : List Octets}
    (whole : ∀ entry ∈ entries, entry.length = width) :
    entries.flatten.length = entries.length * width := by
  induction entries with
  | nil => rw [List.flatten_nil, List.length_nil, List.length_nil, Nat.zero_mul]
  | cons entry entries ih =>
    obtain ⟨first, others⟩ := List.forall_mem_cons.mp whole
    rw [List.flatten_cons, List.length_append, List.length_cons, first, ih others, Nat.succ_mul,
      Nat.add_comm]

/-- A counted list is read from its count and its entries, whatever comes after them. -/
theorem countedEntries_ok_iff {bytes : Octets} {width : Nat} {entries : List Octets} :
    bytes.countedEntries width = .ok entries ↔
      (∀ entry ∈ entries, entry.length = width) ∧
      ∃ count rest, count.toNat = entries.length ∧
        bytes = count :: (entries.flatten ++ rest) := by
  constructor
  · intro read
    have whole := (countedEntries_shape read).2
    obtain ⟨count, first, read⟩ := bind_eq_ok read
    obtain ⟨body, taken, read⟩ := bind_eq_ok read
    cases read
    obtain ⟨others, rfl⟩ := (byteAt_behind_iff []).mp first
    obtain ⟨size, rest, rfl⟩ := (sliceAt_behind_iff [count]).mp taken
    refine ⟨whole, count, rest, (pieces_count _ _ _).symm, ?_⟩
    rw [pieces_flatten size]
  · rintro ⟨whole, count, rest, counted, rfl⟩
    have size : entries.flatten.length = count.toNat * width := by
      rw [flatten_length whole, counted]
    have first : byteAt (count :: (entries.flatten ++ rest)) 0 = .ok count := rfl
    have body : sliceAt (count :: (entries.flatten ++ rest)) 1 (count.toNat * width) =
        .ok entries.flatten := (sliceAt_behind_iff [count]).mpr ⟨size, rest, rfl⟩
    rw [countedEntries, first]
    change sliceAt _ 1 (count.toNat * width) >>= _ = _
    rw [body, counted]
    change Except.ok (pieces width entries.length entries.flatten) = _
    rw [pieces_of_flatten whole]

end Octets

end NearField
