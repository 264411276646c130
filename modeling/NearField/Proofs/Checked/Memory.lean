import Mathlib.Algebra.Ring.Nat
import NearField.Octets.Block
import NearField.Proofs.Octets
import NearField.Proofs.Octets.Reader

/-!
Memory and machine numbers that check every use. An access outside of its octets, a copy between
stretches of different lengths and a number that its type has no room for are faults, and a fault
ends the computation. Main statements: under the bounds that make a use legal it gives what the
total operation gives.
-/

namespace NearField

/-- Why a checked computation ends without a result. -/
inductive Fault where
  | position (pos length : Nat)
  | range (start stop length : Nat)
  | lengths (target source : Nat)
  | number
  | width
  | queue
deriving DecidableEq, Repr

abbrev Checked := Except Fault

/-- A checked computation that may also end in an error of the domain. -/
abbrev Attempt := ExceptT Error Checked

/-- A result that no check stands in the way of. -/
def settled {α : Type} (result : Except Error α) : Attempt α := ExceptT.mk (pure result)

section Settled

variable {α β : Type}

@[simp] theorem settled_ok (value : α) : settled (.ok value) = pure value := rfl

@[simp] theorem run_settled (result : Except Error α) : (settled result).run = pure result := rfl

@[simp] theorem settled_error_bind (e : Error) (next : α → Attempt β) :
    settled (.error e) >>= next = settled (.error e) := rfl

@[simp] theorem settled_error_map (e : Error) (f : α → β) :
    f <$> settled (.error e) = settled (.error e) := rfl

@[simp] theorem throw_eq_settled (e : Error) : (throw e : Attempt α) = settled (.error e) := rfl

@[simp] theorem lift_pure (value : α) :
    (liftM (pure value : Checked α) : Attempt α) = pure value := rfl

theorem settled_bind (result : Except Error α) (next : α → Except Error β) :
    settled (result >>= next) = settled result >>= fun value => settled (next value) := by
  cases result <;> rfl

theorem settled_map (result : Except Error α) (f : α → β) :
    settled (result.map f) = settled result >>= fun value => pure (f value) := by
  cases result <;> rfl

variable {p : Prop} [Decidable p] {f : α → β} {yes no : Attempt β}

theorem settled_ite {x y : Except Error α} (holds : p → yes = settled (x.map f))
    (fails : ¬p → no = settled (y.map f)) :
    (if p then yes else no) = settled ((if p then x else y).map f) := by
  by_cases h : p
  · rw [if_pos h, if_pos h, holds h]
  · rw [if_neg h, if_neg h, fails h]

theorem settled_dite {x : p → Except Error α} {y : ¬p → Except Error α}
    (holds : ∀ h, yes = settled ((x h).map f)) (fails : ∀ h, no = settled ((y h).map f)) :
    (if p then yes else no) = settled ((if h : p then x h else y h).map f) := by
  by_cases h : p
  · rw [if_pos h, dif_pos h, holds h]
  · rw [if_neg h, dif_neg h, fails h]

end Settled

namespace Size

def limit : Nat := 2 ^ 64

def add (a b : Nat) : Checked Nat := if a + b < limit then pure (a + b) else throw .number

def sub (a b : Nat) : Checked Nat := if b ≤ a then pure (a - b) else throw .number

def mul (a b : Nat) : Checked Nat := if a * b < limit then pure (a * b) else throw .number

def sum (sizes : List Nat) : Checked Nat := sizes.foldlM add 0

theorem small_lt {n : Nat} (small : n < 65536) : n < limit :=
  Nat.lt_trans small (by decide)

theorem add_small {a b : Nat} (small : a + b < 2 ^ 64) : add a b = pure (a + b) :=
  if_pos small

theorem sub_of_le {a b : Nat} (le : b ≤ a) : sub a b = pure (a - b) := if_pos le

theorem mul_small {a b : Nat} (small : a * b < 65536) : mul a b = pure (a * b) :=
  if_pos (small_lt small)

theorem sum_small {sizes : List Nat} (small : sizes.sum < 65536) :
    sum sizes = pure sizes.sum := by
  -- the running total is at most the whole
  suffices from_ : ∀ total, total + sizes.sum < 65536 →
      sizes.foldlM add total = (pure (total + sizes.sum) : Checked Nat) by
    simpa [sum] using from_ 0 (by omega)
  clear small
  induction sizes with
  | nil => exact fun total _ => rfl
  | cons size rest ih =>
    intro total bound
    rw [List.sum_cons] at bound ⊢
    rw [List.foldlM_cons, add_small (by omega), pure_bind, ih (total + size) (by omega),
      Nat.add_assoc]

end Size

def Octet.add (a b : UInt8) : Checked UInt8 :=
  if a.toNat + b.toNat < 256 then pure (a + b) else throw .number

theorem Octet.add_small {a b : UInt8} (small : a.toNat + b.toNat < 256) :
    Octet.add a b = pure (a + b) := if_pos small

def Word.add (a b : UInt16) : Checked UInt16 :=
  if a.toNat + b.toNat < 65536 then pure (a + b) else throw .number

theorem Word.add_small {a b : UInt16} (small : a.toNat + b.toNat < 65536) :
    Word.add a b = pure (a + b) := if_pos small

namespace Octets

def checkedGet (bytes : Octets) (pos : Nat) : Checked UInt8 :=
  match bytes[pos]? with
  | some octet => pure octet
  | none => throw (.position pos bytes.length)

def checkedSet (bytes : Octets) (pos : Nat) (octet : UInt8) : Checked Octets :=
  if pos < bytes.length then pure (bytes.set pos octet) else throw (.position pos bytes.length)

def checkedSlice (bytes : Octets) (start stop : Nat) : Checked Octets :=
  if start ≤ stop ∧ stop ≤ bytes.length then pure ((bytes.drop start).take (stop - start))
  else throw (.range start stop bytes.length)

def checkedCopy (bytes : Octets) (start stop : Nat) (source : Octets) : Checked Octets :=
  if start ≤ stop ∧ stop ≤ bytes.length then
    if source.length = stop - start then pure (bytes.overlay start source)
    else throw (.lengths (stop - start) source.length)
  else throw (.range start stop bytes.length)

section

variable {bytes source : Octets} {pos start stop : Nat}

theorem checkedGet_lt (inside : pos < bytes.length) : bytes.checkedGet pos = pure bytes[pos] := by
  rw [checkedGet, List.getElem?_eq_getElem inside]

@[simp] theorem checkedGet_zero (octet : UInt8) (rest : Octets) :
    checkedGet (octet :: rest) 0 = pure octet := rfl

theorem checkedSet_lt (inside : pos < bytes.length) (octet : UInt8) :
    bytes.checkedSet pos octet = pure (bytes.set pos octet) := if_pos inside

theorem checkedSlice_le (order : start ≤ stop) (inside : stop ≤ bytes.length) :
    bytes.checkedSlice start stop = pure ((bytes.drop start).take (stop - start)) :=
  if_pos ⟨order, inside⟩

example : checkedSlice [0x10, 0x20] 1 3 = .error (.range 1 3 2) := rfl

theorem checkedCopy_eq (whole : start + source.length = stop) (inside : stop ≤ bytes.length) :
    bytes.checkedCopy start stop source = pure (bytes.overlay start source) := by
  rw [checkedCopy, if_pos ⟨by omega, inside⟩, if_pos (by omega)]

theorem checkedCopy_ok {filled : Octets} (copied : bytes.checkedCopy start stop source = pure filled) :
    start + source.length = stop ∧ stop ≤ bytes.length ∧ filled = bytes.overlay start source := by
  rw [checkedCopy] at copied
  split at copied
  · split at copied
    · cases copied
      exact ⟨by omega, by omega, rfl⟩
    · cases copied
  · cases copied

end

end Octets

namespace Block

variable {size : Nat}

def checkedGet (block : Block size) (pos : Nat) : Checked UInt8 := block.octets.checkedGet pos

def checkedSet (block : Block size) (pos : Nat) (octet : UInt8) : Checked (Block size) :=
  if inside : pos < size then pure (block.set ⟨pos, inside⟩ octet)
  else throw (.position pos size)

def checkedSlice (block : Block size) (start stop : Nat) : Checked Octets :=
  block.octets.checkedSlice start stop

def checkedCopy (block : Block size) (start stop : Nat) (source : Octets) :
    Checked (Block size) := do
  let _ ← block.octets.checkedCopy start stop source
  return block.overlay start source

def checkedBlank (block : Block size) (start stop : Nat) : Checked (Block size) := do
  let stretch ← block.octets.checkedSlice start stop
  return block.overlay start (Octets.zeros stretch.length)

theorem checkedGet_fin (block : Block size) (i : Fin size) :
    block.checkedGet i = pure (block.get i) := by
  have inside : i.val < block.octets.length := by
    rw [block.length_octets]
    exact i.isLt
  exact Octets.checkedGet_lt inside

theorem checkedSet_fin (block : Block size) (i : Fin size) (octet : UInt8) :
    block.checkedSet i octet = pure (block.set i octet) := dif_pos i.isLt

theorem checkedSlice_le {start stop : Nat} (block : Block size) (order : start ≤ stop)
    (inside : stop ≤ size) :
    block.checkedSlice start stop = pure (block.extract start (stop - start)) :=
  Octets.checkedSlice_le order (by rw [block.length_octets]; exact inside)

theorem checkedCopy_eq {start stop : Nat} {source : Octets} (block : Block size)
    (whole : start + source.length = stop) (inside : stop ≤ size) :
    block.checkedCopy start stop source = pure (block.overlay start source) := by
  rw [checkedCopy, Octets.checkedCopy_eq whole (by rw [block.length_octets]; exact inside),
    pure_bind]

theorem checkedBlank_le {start stop : Nat} (block : Block size) (order : start ≤ stop)
    (inside : stop ≤ size) :
    block.checkedBlank start stop = pure (block.overlay start (Octets.zeros (stop - start))) := by
  have whole := block.length_octets
  rw [checkedBlank, Octets.checkedSlice_le order (by omega), pure_bind,
    List.length_take, List.length_drop, whole, Nat.min_eq_left (by omega)]

end Block

end NearField
