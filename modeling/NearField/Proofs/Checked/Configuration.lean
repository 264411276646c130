import NearField.Proofs.Checked.Memory
import NearField.Proofs.Device.Configuration

/-!
The configuration store with every access checked. Main statement: every parameter has its place
inside of the store, so storing and reading parameters never faults.
-/

namespace NearField.Device

namespace Configuration

/-- Where a range of the store ends. A sum that no size has room for is out of range as well. -/
def rangeEnd (offset length : Nat) : Except Error Nat :=
  if configurationSize < offset + length then .error (.configOutOfRange offset length)
  else .ok (offset + length)

def checkedWrite (configuration : Configuration) (offset : Nat) (bytes : Octets) :
    Attempt Configuration := do
  let stop ← settled (rangeEnd offset bytes.length)
  let memory ← configuration.memory.checkedCopy offset stop bytes
  return ⟨memory⟩

def checkedRead (configuration : Configuration) (offset length : Nat) : Attempt Octets := do
  let stop ← settled (rangeEnd offset length)
  configuration.memory.checkedSlice offset stop

def checkedSetParam (configuration : Configuration) (id : UInt8) (value : Octets) :
    Attempt Configuration :=
  match paramPlace? id with
  | none => throw (.invalidParameter id value.length)
  | some place =>
    if place.maxLength < value.length then throw (.invalidParameter id value.length)
    else do
      let size ← Size.add 1 place.maxLength
      let slot ← (Octets.zeros size).checkedSet 0 value.length.toUInt8
      let stop ← Size.add 1 value.length
      let slot ← slot.checkedCopy 1 stop value
      configuration.checkedWrite place.offset slot

def checkedParam (configuration : Configuration) (id : UInt8) : Checked (Option Octets) :=
  match paramPlace? id with
  | none => return none
  | some place => do
    let stored ← configuration.memory.checkedGet place.offset
    let start ← Size.add place.offset 1
    let value ← (configuration.checkedRead start (min stored.toNat place.maxLength)).run
    return value.toOption

theorem checkedWrite_eq (configuration : Configuration) (offset : Nat) (bytes : Octets) :
    configuration.checkedWrite offset bytes = settled (configuration.write offset bytes) := by
  unfold checkedWrite write rangeEnd requireRange
  split
  · rfl
  · rename_i inside
    rw [settled_ok, pure_bind, Block.checkedCopy_eq _ rfl (Nat.not_lt.mp inside)]
    rfl

theorem checkedRead_eq (configuration : Configuration) (offset length : Nat) :
    configuration.checkedRead offset length = settled (configuration.read offset length) := by
  unfold checkedRead read rangeEnd requireRange
  split
  · rfl
  · rename_i inside
    rw [settled_ok, pure_bind,
      Block.checkedSlice_le _ (Nat.le_add_right _ _) (Nat.not_lt.mp inside),
      Nat.add_sub_cancel_left]
    rfl

theorem checkedSetParam_eq (configuration : Configuration) (id : UInt8) (value : Octets) :
    configuration.checkedSetParam id value = settled (configuration.setParam id value) := by
  unfold checkedSetParam setParam
  cases found : paramPlace? id with
  | none => rfl
  | some place =>
    have small := (paramPlace?_fits found).2
    simp only
    by_cases long : place.maxLength < value.length
    · rw [if_pos long, if_pos long]
      rfl
    · have short := Nat.not_lt.mp long
      have slot : (Octets.zeros (1 + place.maxLength)).overlay 0 (value.length.toUInt8 :: value) =
          value.length.toUInt8 :: value ++ Octets.zeros (place.maxLength - value.length) := by
        rw [Octets.overlay_zero (by rw [List.length_cons, Octets.length_zeros]; omega),
          Octets.zeros, List.drop_replicate, List.length_cons, Octets.zeros]
        congr 2
        omega
      rw [if_neg long, if_neg long, Size.add_small (by omega), lift_pure, pure_bind,
        Octets.checkedSet_lt (by rw [Octets.length_zeros]; omega), lift_pure, pure_bind,
        Size.add_small (by omega), lift_pure, pure_bind,
        Octets.checkedCopy_eq rfl (by rw [List.length_set, Octets.length_zeros]; omega), lift_pure,
        pure_bind, Octets.overlay_cons _ _ (by rw [Octets.length_zeros]; omega), slot,
        checkedWrite_eq]

theorem checkedParam_eq (configuration : Configuration) (id : UInt8) :
    configuration.checkedParam id = pure (configuration.param id) := by
  unfold checkedParam param
  cases found : paramPlace? id with
  | none => rfl
  | some place =>
    have fits := (paramPlace?_fits found).1
    have store : configurationSize = 128 := rfl
    have size := configuration.memory.length_octets
    have inside : place.offset < configuration.memory.octets.length := by omega
    have head : (configuration.memory.extract place.offset 1).headD 0 =
        configuration.memory.octets[place.offset] := by
      rw [Block.extract, List.drop_eq_getElem_cons inside]
      rfl
    simp only
    rw [Block.checkedGet, Octets.checkedGet_lt inside, pure_bind, Size.add_small (by omega),
      pure_bind, checkedRead_eq, run_settled, pure_bind, head]

end Configuration

end NearField.Device
