import NearField.Llcp.Sequence
import Mathlib.Tactic.IntervalCases

/-!
Sequence numbers as counters that are seen modulo sixteen. Main statements: the next number and the
distance of two numbers are those of the counters behind them, as long as the counters are less
than sixteen apart.
-/

namespace NearField.Llcp

/-- The sequence number that stands for a count. -/
def number (count : Nat) : UInt8 := UInt8.ofNat (count % 16)

theorem toNat_number (count : Nat) : (number count).toNat = count % 16 := by
  have small : count % 16 < 16 := Nat.mod_lt _ (by omega)
  rw [number, UInt8.toNat_ofNat']
  exact Nat.mod_eq_of_lt (by omega)

theorem number_eq_iff (a b : Nat) : number a = number b ↔ a % 16 = b % 16 := by
  rw [← UInt8.toNat_inj, toNat_number, toNat_number]

theorem number_lt (count : Nat) : number count < 16 := by
  rw [UInt8.lt_iff_toNat_lt, toNat_number]
  exact Nat.mod_lt _ (by decide)

theorem number_toNat {v : UInt8} (small : v < 16) : number v.toNat = v := by
  have bound : v.toNat < 16 := UInt8.lt_iff_toNat_lt.mp small
  rw [← UInt8.toNat_inj, toNat_number, Nat.mod_eq_of_lt bound]

theorem toNat_nextNumber {v : UInt8} (small : v < 16) :
    (nextNumber v).toNat = (v.toNat + 1) % 16 := by
  have bound : v.toNat < 16 := UInt8.lt_iff_toNat_lt.mp small
  simp only [nextNumber, UInt8.toNat_mod, UInt8.toNat_add, UInt8.reduceToNat]
  omega

theorem nextNumber_number (count : Nat) : nextNumber (number count) = number (count + 1) := by
  rw [← UInt8.toNat_inj, toNat_nextNumber (number_lt count), toNat_number, toNat_number]
  omega

theorem nextNumber_lt (v : UInt8) : nextNumber v < 16 := by
  rw [UInt8.lt_iff_toNat_lt, nextNumber, UInt8.toNat_mod]
  exact Nat.mod_lt _ (by decide)

theorem nextNumber_ne (v : UInt8) : nextNumber v ≠ v := by
  intro same
  have small : v < 16 := same ▸ nextNumber_lt v
  have bound : v.toNat < 16 := UInt8.lt_iff_toNat_lt.mp small
  have counted := congrArg UInt8.toNat same
  rw [toNat_nextNumber small] at counted
  omega

theorem toNat_numberDistance (start stop : UInt8) :
    (numberDistance start stop).toNat = (stop.toNat + 256 - start.toNat) % 16 := by
  have first : start.toNat < 256 := start.toNat_lt
  have second : stop.toNat < 256 := stop.toNat_lt
  simp only [numberDistance, UInt8.toNat_mod, UInt8.toNat_sub, UInt8.reduceToNat]
  omega

theorem numberDistance_self (v : UInt8) : numberDistance v v = 0 := by
  rw [← UInt8.toNat_inj, toNat_numberDistance]
  have bound : v.toNat < 256 := v.toNat_lt
  simp

/-- Counters less than sixteen apart are as far apart as their numbers. -/
theorem toNat_numberDistance_number {a b : Nat} (ordered : a ≤ b) (near : b < a + 16) :
    (numberDistance (number a) (number b)).toNat = b - a := by
  rw [toNat_numberDistance, toNat_number, toNat_number]
  omega

theorem number_add_distance (start : UInt8) {stop : UInt8} (small : stop < 16) :
    number (start.toNat + (numberDistance start stop).toNat) = stop := by
  have bound : stop.toNat < 16 := UInt8.lt_iff_toNat_lt.mp small
  have first : start.toNat < 256 := start.toNat_lt
  rw [← UInt8.toNat_inj, toNat_number, toNat_numberDistance]
  omega

end NearField.Llcp
