import NearField.Device.Configuration
import NearField.Proofs.Octets

/-!
The configuration store as a map from identifiers to values. Main statements: the places of
different parameters lie apart, so a parameter that is stored has its new value and every other one
the value it had.
-/

namespace NearField.Device

theorem mem_paramPlaces {id : UInt8} {place : ParamPlace} (found : paramPlace? id = some place) :
    (id, place) ∈ paramPlaces := by
  obtain ⟨before, after, eq, _⟩ := List.lookup_eq_some_iff.mp found
  rw [eq]
  exact List.mem_append_right _ List.mem_cons_self

theorem paramPlace?_fits {id : UInt8} {place : ParamPlace} (found : paramPlace? id = some place) :
    place.offset + (1 + place.maxLength) ≤ configurationSize ∧ place.maxLength ≤ 20 := by
  have all : ∀ entry ∈ paramPlaces,
      entry.2.offset + (1 + entry.2.maxLength) ≤ configurationSize ∧ entry.2.maxLength ≤ 20 := by
    decide
  exact all _ (mem_paramPlaces found)

theorem paramPlace?_apart {id other : UInt8} {place distant : ParamPlace}
    (found : paramPlace? id = some place) (elsewhere : paramPlace? other = some distant)
    (apart : id ≠ other) :
    place.offset + (1 + place.maxLength) ≤ distant.offset ∨
      distant.offset + (1 + distant.maxLength) ≤ place.offset := by
  have all : ∀ first ∈ paramPlaces, ∀ second ∈ paramPlaces, first.1 ≠ second.1 →
      first.2.offset + (1 + first.2.maxLength) ≤ second.2.offset ∨
        second.2.offset + (1 + second.2.maxLength) ≤ first.2.offset := by
    decide
  exact all _ (mem_paramPlaces found) _ (mem_paramPlaces elsewhere) apart

/-- What a value is stored as: its length, the value, and zeros for what its place has beyond it. -/
def ParamPlace.slot (place : ParamPlace) (value : Octets) : Octets :=
  value.length.toUInt8 :: value ++ Octets.zeros (place.maxLength - value.length)

theorem ParamPlace.length_slot {place : ParamPlace} {value : Octets}
    (short : value.length ≤ place.maxLength) : (place.slot value).length = 1 + place.maxLength := by
  rw [slot, List.length_append, List.length_cons, Octets.length_zeros]
  omega

namespace Configuration

variable {configuration : Configuration} {id : UInt8} {place : ParamPlace} {value : Octets}

theorem param_known (configuration : Configuration) (found : paramPlace? id = some place) :
    configuration.param id = some (configuration.memory.extract (place.offset + 1)
      (min ((configuration.memory.extract place.offset 1).headD 0).toNat place.maxLength)) := by
  have fits := (paramPlace?_fits found).1
  have inside : ∀ count, ¬configurationSize < place.offset + 1 + min count place.maxLength := by
    intro count
    omega
  rw [param, found]
  simp only [read, requireRange, if_neg (inside _)]
  rfl

theorem param_unknown (configuration : Configuration) (unknown : paramPlace? id = none) :
    configuration.param id = none := by
  rw [param, unknown]

theorem setParam_ok (configuration : Configuration) (found : paramPlace? id = some place)
    (short : value.length ≤ place.maxLength) :
    configuration.setParam id value =
      .ok ⟨configuration.memory.overlay place.offset (place.slot value)⟩ := by
  have fits : ¬configurationSize < place.offset + (place.slot value).length := by
    have bound := (paramPlace?_fits found).1
    rw [ParamPlace.length_slot short]
    omega
  rw [setParam, found]
  simp only [if_neg (Nat.not_lt.mpr short)]
  change configuration.write place.offset (place.slot value) = _
  rw [write, requireRange, if_neg fits]
  rfl

theorem setParam_error_iff (configuration : Configuration) :
    (∃ e, configuration.setParam id value = .error e) ↔
      ∀ place, paramPlace? id = some place → place.maxLength < value.length := by
  constructor
  · rintro ⟨e, failed⟩ place found
    by_contra short
    rw [setParam_ok configuration found (Nat.not_lt.mp short)] at failed
    cases failed
  · intro refused
    refine ⟨.invalidParameter id value.length, ?_⟩
    rw [setParam]
    cases found : paramPlace? id with
    | none => rfl
    | some place => exact if_pos (refused place found)

theorem memory_fits (configuration : Configuration) (found : paramPlace? id = some place)
    (short : value.length ≤ place.maxLength) :
    place.offset + (place.slot value).length ≤ configuration.memory.octets.length := by
  rw [ParamPlace.length_slot short, configuration.memory.length_octets]
  exact (paramPlace?_fits found).1

theorem param_stored (configuration : Configuration) (found : paramPlace? id = some place)
    (short : value.length ≤ place.maxLength) :
    param ⟨configuration.memory.overlay place.offset (place.slot value)⟩ id = some value := by
  have fits := configuration.memory_fits found short
  have size := ParamPlace.length_slot short
  have length : ((configuration.memory.overlay place.offset (place.slot value)).extract
      place.offset 1).headD 0 = value.length.toUInt8 := by
    have first : 0 + 1 ≤ (place.slot value).length := by omega
    have head := Octets.extract_overlay_within fits first
    rw [Nat.add_zero] at head
    rw [Block.extract, Block.overlay, head]
    rfl
  have counted : value.length.toUInt8.toNat = value.length := by
    have small := (paramPlace?_fits found).2
    exact UInt8.toNat_ofNat_of_lt' (show _ < 256 by omega)
  have body : (configuration.memory.overlay place.offset (place.slot value)).extract
      (place.offset + 1) value.length = value := by
    rw [Block.extract, Block.overlay, Octets.extract_overlay_within fits (by omega)]
    rw [ParamPlace.slot, List.cons_append, List.drop_succ_cons, List.drop_zero]
    exact List.take_left' rfl
  rw [param_known _ found, length, counted, Nat.min_eq_left short, body]

theorem param_other (configuration : Configuration) (found : paramPlace? id = some place)
    (short : value.length ≤ place.maxLength) {other : UInt8} (apart : id ≠ other) :
    param ⟨configuration.memory.overlay place.offset (place.slot value)⟩ other =
      configuration.param other := by
  cases elsewhere : paramPlace? other with
  | none => rw [param_unknown _ elsewhere, param_unknown _ elsewhere]
  | some distant =>
    have fits := configuration.memory_fits found short
    have size := ParamPlace.length_slot short
    have between := paramPlace?_apart found elsewhere apart
    have same (start count : Nat) (first : distant.offset ≤ start)
        (last : start + count ≤ distant.offset + (1 + distant.maxLength)) :
        (configuration.memory.overlay place.offset (place.slot value)).extract start count =
          configuration.memory.extract start count := by
      exact Octets.extract_overlay_apart fits (by omega)
    rw [param_known _ elsewhere, param_known _ elsewhere, same _ _ (Nat.le_refl _) (by omega),
      same _ _ (by omega) (by omega)]

theorem param_blank (found : paramPlace? id = some place) : blank.param id = some [] := by
  have zero : (blank.memory.extract place.offset 1).headD 0 = 0 := by
    have inside := (paramPlace?_fits found).1
    rw [configurationSize] at inside
    change (((List.replicate 128 (0 : UInt8)).drop place.offset).take 1).headD 0 = 0
    rw [List.drop_replicate, List.take_replicate, Nat.min_eq_left (by omega)]
    rfl
  rw [param_known _ found, zero]
  simp [Block.extract]

theorem param_fits (ok : configuration.param id = some value) :
    ∃ place, paramPlace? id = some place ∧ value.length ≤ place.maxLength := by
  cases found : paramPlace? id with
  | none =>
    rw [param_unknown _ found] at ok
    cases ok
  | some place =>
    rw [param_known _ found] at ok
    cases ok
    exact ⟨place, rfl, Nat.le_trans (List.length_take_le _ _) (Nat.min_le_right _ _)⟩

theorem param_length (ok : configuration.param id = some value) : value.length ≤ 20 := by
  obtain ⟨place, found, short⟩ := param_fits ok
  exact Nat.le_trans short (paramPlace?_fits found).2

end Configuration

end NearField.Device
