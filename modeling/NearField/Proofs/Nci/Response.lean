import NearField.Nci.Response
import NearField.Proofs.Octets.Reader

/-!
Parameter entries in a response. Main statement: entries are read back as they were listed, and from
nothing else.
-/

namespace NearField.Nci.Response

theorem entries_cons (id : UInt8) (value : Octets) (rest : List (UInt8 × Octets)) :
    entries ((id, value) :: rest) = id :: value.length.toUInt8 :: (value ++ entries rest) := rfl

theorem entries_sized (params : List (UInt8 × Octets)) :
    2 * params.length ≤ (entries params).length ∧
      ∀ param ∈ params, param.2.length ≤ (entries params).length := by
  induction params with
  | nil => exact ⟨Nat.le_refl 0, by rintro _ ⟨⟩⟩
  | cons param rest ih =>
    obtain ⟨id, value⟩ := param
    obtain ⟨two, within⟩ := ih
    rw [entries_cons, List.forall_mem_cons]
    simp only [List.length_cons, List.length_append]
    refine ⟨by omega, by omega, fun other listed => ?_⟩
    have := within other listed
    omega

theorem taggedEntries_entries {params : List (UInt8 × Octets)} (before after : Octets)
    (short : ∀ param ∈ params, param.2.length < 256) :
    (before ++ (entries params ++ after)).taggedEntries before.length params.length =
      .ok params := by
  induction params generalizing before with
  | nil => rfl
  | cons param rest ih =>
    obtain ⟨id, value⟩ := param
    obtain ⟨little, short⟩ := List.forall_mem_cons.mp short
    have count : value.length.toUInt8.toNat = value.length := UInt8.toNat_ofNat_of_lt' little
    have first := Octets.byteAt_append before id
      (value.length.toUInt8 :: (value ++ (entries rest ++ after)))
    have second := Octets.byteAt_append (before ++ [id]) value.length.toUInt8
      (value ++ (entries rest ++ after))
    have third := Octets.sliceAt_append (before ++ [id, value.length.toUInt8]) value
      (entries rest ++ after)
    have others := ih (before ++ id :: value.length.toUInt8 :: value) short
    simp only [List.append_assoc, List.cons_append, List.nil_append, List.length_append,
      List.length_cons, List.length_nil, Nat.zero_add] at second third others
    have next : before.length + 2 + value.length = before.length + (value.length + 1 + 1) := by
      omega
    simp only [entries_cons, List.cons_append, List.append_assoc, List.length_cons,
      Octets.taggedEntries, first, second, count, bind, Except.bind]
    rw [third]
    simp only [next, others]
    rfl

/-- Entries are read from where they start, and nothing else is. -/
theorem taggedEntries_ok_iff (before : Octets) {after : Octets} {count : Nat}
    {params : List (UInt8 × Octets)} :
    (before ++ after).taggedEntries before.length count = .ok params ↔
      params.length = count ∧ (∀ param ∈ params, param.2.length < 256) ∧
      ∃ rest, after = entries params ++ rest := by
  constructor
  · intro read
    induction count generalizing before after params with
    | zero =>
      cases read
      exact ⟨rfl, by rintro _ ⟨⟩, after, rfl⟩
    | succ count ih =>
      obtain ⟨id, first, read⟩ := bind_eq_ok read
      obtain ⟨length, second, read⟩ := bind_eq_ok read
      obtain ⟨value, third, read⟩ := bind_eq_ok read
      obtain ⟨others, later, read⟩ := bind_eq_ok read
      cases read
      -- each read moves what it took from the octets ahead to those behind
      obtain ⟨after, rfl⟩ := (Octets.byteAt_behind_iff _).mp first
      have second : ((before ++ [id]) ++ after).byteAt (before ++ [id]).length = .ok length := by
        simpa using second
      obtain ⟨after, rfl⟩ := (Octets.byteAt_behind_iff _).mp second
      have third : ((before ++ [id, length]) ++ after).sliceAt (before ++ [id, length]).length
          length.toNat = .ok value := by simpa using third
      obtain ⟨size, after, rfl⟩ := (Octets.sliceAt_behind_iff _).mp third
      have next : before.length + 2 + length.toNat =
          (before ++ id :: length :: value).length := by
        simp only [List.length_append, List.length_cons]
        omega
      have later : ((before ++ id :: length :: value) ++ after).taggedEntries
          (before ++ id :: length :: value).length count = .ok others := by
        rw [← next]
        simpa using later
      obtain ⟨counted, short, rest, rfl⟩ := ih _ later
      have small : value.length < 256 := by
        rw [size]
        exact length.toNat_lt
      have octet : value.length.toUInt8 = length := by
        rw [size]
        exact UInt8.ofNat_toNat
      refine ⟨by rw [List.length_cons, counted], List.forall_mem_cons.mpr ⟨small, short⟩, rest, ?_⟩
      rw [entries_cons, octet]
      simp
  · rintro ⟨rfl, short, rest, rfl⟩
    exact taggedEntries_entries before rest short

end NearField.Nci.Response
