/-!
Finite tables whose entries are kept in the order of their keys. The order is part of the type, so
two tables that answer every look-up alike are equal, whatever was inserted first. Main statements:
what a look-up finds after an insertion, and the extensionality of tables.
-/

namespace NearField

/-- Keys of a table: each has a rank, and the rank tells keys apart. -/
class TableKey (κ : Type) where
  rank : κ → Nat
  rank_inj : ∀ {a b : κ}, rank a = rank b → a = b

open TableKey (rank rank_inj)

instance : TableKey UInt32 where
  rank := UInt32.toNat
  rank_inj := UInt32.toNat_inj.mp

/-- A finite table from `κ` to `α`, its entries in strictly ascending order of their keys. -/
structure Table (κ α : Type) [TableKey κ] where
  entries : List (κ × α)
  ascending : entries.Pairwise fun a b => rank a.1 < rank b.1

namespace Table

variable {κ α : Type} [TableKey κ]

def lookup (key : κ) : List (κ × α) → Option α
  | [] => none
  | (k, v) :: rest => if rank k = rank key then some v else lookup key rest

def insertEntry (key : κ) (value : α) : List (κ × α) → List (κ × α)
  | [] => [(key, value)]
  | (k, v) :: rest =>
    if rank key < rank k then (key, value) :: (k, v) :: rest
    else if rank key = rank k then (key, value) :: rest
    else (k, v) :: insertEntry key value rest

theorem mem_insertEntry {key : κ} {value : α} {entries : List (κ × α)} {e : κ × α}
    (h : e ∈ insertEntry key value entries) : e = (key, value) ∨ e ∈ entries := by
  induction entries with
  | nil => simpa [insertEntry] using h
  | cons head rest ih =>
    obtain ⟨k, v⟩ := head
    rw [insertEntry] at h
    split at h
    · simpa using h
    · split at h
      · rcases List.mem_cons.mp h with h | h
        · exact .inl h
        · exact .inr (List.mem_cons_of_mem _ h)
      · rcases List.mem_cons.mp h with h | h
        · exact .inr (h ▸ List.mem_cons_self)
        · exact (ih h).imp_right (List.mem_cons_of_mem _)

theorem insertEntry_ascending {key : κ} {value : α} {entries : List (κ × α)}
    (h : entries.Pairwise fun a b => rank a.1 < rank b.1) :
    (insertEntry key value entries).Pairwise fun a b => rank a.1 < rank b.1 := by
  induction entries with
  | nil => simp [insertEntry]
  | cons head rest ih =>
    obtain ⟨k, v⟩ := head
    obtain ⟨above, tail⟩ := List.pairwise_cons.mp h
    rw [insertEntry]
    split
    · rename_i lt
      refine List.pairwise_cons.mpr ⟨fun e he => ?_, h⟩
      rcases List.mem_cons.mp he with rfl | he
      · exact lt
      · exact Nat.lt_trans lt (above e he)
    · split
      · rename_i eq
        exact List.pairwise_cons.mpr ⟨fun e he => eq ▸ above e he, tail⟩
      · refine List.pairwise_cons.mpr ⟨fun e he => ?_, ih tail⟩
        rcases mem_insertEntry he with rfl | he
        · simp only; omega
        · exact above e he

def empty : Table κ α := ⟨[], .nil⟩

instance : EmptyCollection (Table κ α) := ⟨empty⟩

def get? (table : Table κ α) (key : κ) : Option α := lookup key table.entries

def contains (table : Table κ α) (key : κ) : Bool := (table.get? key).isSome

def insert (table : Table κ α) (key : κ) (value : α) : Table κ α :=
  ⟨insertEntry key value table.entries, insertEntry_ascending table.ascending⟩

def filterKeys (table : Table κ α) (keep : κ → Bool) : Table κ α :=
  ⟨table.entries.filter fun e => keep e.1, table.ascending.filter _⟩

def erase (table : Table κ α) (key : κ) : Table κ α :=
  table.filterKeys fun k => rank k ≠ rank key

def keys (table : Table κ α) : List κ := table.entries.map (·.1)

def values (table : Table κ α) : List α := table.entries.map (·.2)

def size (table : Table κ α) : Nat := table.entries.length

def first? (table : Table κ α) (test : α → Bool) : Option (κ × α) :=
  table.entries.find? fun e => test e.2

theorem lookup_insertEntry (key other : κ) (value : α) (entries : List (κ × α)) :
    lookup other (insertEntry key value entries) =
      if rank key = rank other then some value else lookup other entries := by
  induction entries with
  | nil => simp [insertEntry, lookup]
  | cons head rest ih =>
    obtain ⟨k, v⟩ := head
    rw [insertEntry]
    split
    · simp [lookup]
    · split
      · rename_i eq
        by_cases h : rank key = rank other
        · simp [lookup, h]
        · simp [lookup, h, eq ▸ h]
      · rename_i ne
        by_cases h : rank k = rank other
        · have other_ne : ¬rank key = rank other := fun e => ne (e.trans h.symm)
          simp [lookup, h, other_ne]
        · simp [lookup, h, ih]

theorem get?_insert (table : Table κ α) (key other : κ) (value : α) :
    (table.insert key value).get? other =
      if rank key = rank other then some value else table.get? other :=
  lookup_insertEntry key other value table.entries

theorem lookup_eq_none {key : κ} {entries : List (κ × α)}
    (above : ∀ e ∈ entries, rank key < rank e.1) : lookup key entries = none := by
  induction entries with
  | nil => rfl
  | cons head rest ih =>
    have h := above head List.mem_cons_self
    rw [lookup, if_neg (by omega)]
    exact ih fun e he => above e (List.mem_cons_of_mem _ he)

theorem ext_get? {a b : Table κ α} (same : ∀ key, a.get? key = b.get? key) : a = b := by
  obtain ⟨as, ha⟩ := a
  obtain ⟨bs, hb⟩ := b
  simp only [get?] at same
  suffices as = bs by subst this; rfl
  induction as generalizing bs with
  | nil =>
    cases bs with
    | nil => rfl
    | cons head rest => simpa [lookup] using same head.1
  | cons head rest ih =>
    obtain ⟨k, v⟩ := head
    obtain ⟨above, tail⟩ := List.pairwise_cons.mp ha
    cases bs with
    | nil => simpa [lookup] using same k
    | cons head' rest' =>
      obtain ⟨k', v'⟩ := head'
      obtain ⟨above', tail'⟩ := List.pairwise_cons.mp hb
      have heads : k = k' ∧ v = v' := by
        have h := same k
        have h' := same k'
        rcases Nat.lt_trichotomy (rank k) (rank k') with lt | eq | gt
        · rw [lookup, if_pos rfl, lookup, if_neg (by omega),
            lookup_eq_none fun e he => Nat.lt_trans lt (above' e he)] at h
          cases h
        · rw [lookup, if_pos rfl, lookup, if_pos eq.symm] at h
          exact ⟨rank_inj eq, Option.some.inj h⟩
        · rw [lookup, if_neg (by omega), lookup, if_pos rfl,
            lookup_eq_none fun e he => Nat.lt_trans gt (above e he)] at h'
          cases h'
      obtain ⟨rfl, rfl⟩ := heads
      rw [ih tail rest' tail' fun key => ?_]
      have h := same key
      by_cases eq : rank k = rank key
      · rw [lookup_eq_none fun e he => eq ▸ above e he, lookup_eq_none fun e he => eq ▸ above' e he]
      · simpa [lookup, eq] using h

end Table

end NearField
