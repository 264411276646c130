import NearField.Table

/-!
More about tables: what a look-up says about the entries, and what storing a value leaves as it was.
-/

namespace NearField.Table

open TableKey (rank rank_inj)

variable {κ α : Type} [TableKey κ] {table : Table κ α}

theorem lookup_mem {key : κ} {value : α} {entries : List (κ × α)}
    (found : lookup key entries = some value) : (key, value) ∈ entries := by
  induction entries with
  | nil => cases found
  | cons head rest ih =>
    obtain ⟨k, v⟩ := head
    rw [lookup] at found
    split at found
    · rename_i same
      cases found
      rw [rank_inj same]
      exact List.mem_cons_self
    · exact List.mem_cons_of_mem _ (ih found)

theorem lookup_of_mem {key : κ} {value : α} {entries : List (κ × α)}
    (ascending : entries.Pairwise fun a b => rank a.1 < rank b.1)
    (inside : (key, value) ∈ entries) : lookup key entries = some value := by
  induction entries with
  | nil => cases inside
  | cons head rest ih =>
    obtain ⟨k, v⟩ := head
    obtain ⟨above, tail⟩ := List.pairwise_cons.mp ascending
    rw [lookup]
    rcases List.mem_cons.mp inside with here | later
    · cases here
      exact if_pos rfl
    · have lower := above _ later
      rw [if_neg (Nat.ne_of_lt lower)]
      exact ih tail later

theorem mem_entries_iff {key : κ} {value : α} :
    (key, value) ∈ table.entries ↔ table.get? key = some value :=
  ⟨lookup_of_mem table.ascending, lookup_mem⟩

theorem first?_get? {test : α → Bool} {key : κ} {value : α}
    (found : table.first? test = some (key, value)) :
    table.get? key = some value ∧ test value = true := by
  rw [first?] at found
  exact ⟨mem_entries_iff.mp (List.mem_of_find?_eq_some found), by simpa using List.find?_some found⟩

theorem get?_insert_self (table : Table κ α) (key : κ) (value : α) :
    (table.insert key value).get? key = some value := by
  rw [get?_insert, if_pos rfl]

theorem get?_insert_of_ne {key other : κ} (value : α) (apart : key ≠ other) :
    (table.insert key value).get? other = table.get? other := by
  rw [get?_insert, if_neg fun same => apart (rank_inj same)]

theorem lookup_filter (keep : κ → Bool) (key : κ) (entries : List (κ × α)) :
    lookup key (entries.filter fun e => keep e.1) =
      if keep key then lookup key entries else none := by
  induction entries with
  | nil => simp [lookup]
  | cons head rest ih =>
    obtain ⟨k, v⟩ := head
    by_cases here : rank k = rank key
    · rw [rank_inj here]
      cases kept : keep key <;> simp_all [lookup]
    · cases kept : keep k <;> simp [lookup, kept, here, ih]

theorem get?_filterKeys (table : Table κ α) (keep : κ → Bool) (key : κ) :
    (table.filterKeys keep).get? key = if keep key then table.get? key else none :=
  lookup_filter keep key table.entries

theorem insert_comm {key other : κ} (apart : key ≠ other) (value different : α) :
    (table.insert key value).insert other different =
      (table.insert other different).insert key value := by
  apply ext_get?
  intro third
  simp only [get?_insert]
  split
  · rename_i here
    rw [if_neg fun there => apart (rank_inj (there.trans here.symm))]
  · rfl

theorem insert_same {key : κ} {value : α} (found : table.get? key = some value) :
    table.insert key value = table := by
  apply ext_get?
  intro other
  by_cases same : key = other
  · rw [← same, get?_insert_self, found]
  · exact get?_insert_of_ne value same

theorem insertEntry_replace {key : κ} {before after : List (κ × α)} {old : α} (value : α)
    (ascending : (before ++ (key, old) :: after).Pairwise fun a b => rank a.1 < rank b.1) :
    insertEntry key value (before ++ (key, old) :: after) = before ++ (key, value) :: after := by
  induction before with
  | nil => simp [insertEntry]
  | cons head before ih =>
    obtain ⟨k, v⟩ := head
    obtain ⟨above, tail⟩ := List.pairwise_cons.mp ascending
    have lower : rank k < rank key := above (key, old) (by simp)
    rw [List.cons_append, insertEntry, if_neg (by omega), if_neg (by omega), ih tail]
    rfl

theorem first?_entries {test : α → Bool} {key : κ} {old : α}
    (found : table.first? test = some (key, old)) :
    ∃ before after, table.entries = before ++ (key, old) :: after ∧
      (∀ entry ∈ before, test entry.2 = false) ∧
        ∀ value, (table.insert key value).entries = before ++ (key, value) :: after := by
  obtain ⟨_, before, after, eq, failed⟩ := List.find?_eq_some_iff_append.mp found
  have others (entry : κ × α) (inside : entry ∈ before) : test entry.2 = false := by
    simpa using failed entry inside
  refine ⟨before, after, eq, others, fun value => ?_⟩
  have ascending := table.ascending
  rw [eq] at ascending
  change insertEntry key value table.entries = _
  rw [eq]
  exact insertEntry_replace value ascending

/-- Storing a value puts it in the place of the one that was found, the order aside. -/
theorem insert_values (table : Table κ α) (key : κ) (value : α) :
    ∃ others, table.values.Perm ((table.get? key).toList ++ others) ∧
      (table.insert key value).values.Perm (value :: others) := by
  obtain ⟨entries, ascending⟩ := table
  change ∃ others, (entries.map (·.2)).Perm ((lookup key entries).toList ++ others) ∧
    ((insertEntry key value entries).map (·.2)).Perm (value :: others)
  induction entries with
  | nil => exact ⟨[], .rfl, .rfl⟩
  | cons head rest ih =>
    obtain ⟨k, v⟩ := head
    obtain ⟨above, tail⟩ := List.pairwise_cons.mp ascending
    rw [insertEntry]
    rcases Nat.lt_trichotomy (rank key) (rank k) with lower | same | higher
    · have absent : lookup key ((k, v) :: rest) = none := by
        apply lookup_eq_none
        intro entry inside
        rcases List.mem_cons.mp inside with here | later
        · rw [here]
          exact lower
        · exact Nat.lt_trans lower (above entry later)
      rw [if_pos lower, absent]
      exact ⟨v :: rest.map (·.2), .rfl, .rfl⟩
    · rw [if_neg (by omega), if_pos same, lookup, if_pos same.symm]
      exact ⟨rest.map (·.2), .rfl, .rfl⟩
    · obtain ⟨others, found, stored⟩ := ih tail
      rw [if_neg (by omega), if_neg (by omega), lookup, if_neg (by omega)]
      refine ⟨v :: others, ?_, ?_⟩
      · exact (found.cons v).trans List.perm_middle.symm
      · exact (stored.cons v).trans (.swap value v others)

theorem first?_least {test : α → Bool} {key other : κ} {found value : α}
    (first : table.first? test = some (key, found)) (stored : table.get? other = some value)
    (before : rank other < rank key) : test value = false := by
  obtain ⟨earlier, later, entries, failed, _⟩ := first?_entries first
  have ascending := table.ascending
  have inside := mem_entries_iff.mpr stored
  rw [entries] at ascending inside
  rcases List.mem_append.mp inside with here | there
  · exact failed _ here
  · have above := (List.pairwise_cons.mp (List.pairwise_append.mp ascending).2.1).1
    rcases List.mem_cons.mp there with same | after
    · cases same
      exact absurd before (Nat.lt_irrefl _)
    · exact absurd before (Nat.lt_asymm (above _ after))

end NearField.Table
