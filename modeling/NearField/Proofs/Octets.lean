import NearField.Octets.Reader
import Mathlib.Algebra.Ring.Nat
import Mathlib.Tactic.IntervalCases

/-!
Laying octets over a buffer piece by piece, and taking packed octets apart. Main statements: what
is laid in two adjoining pieces could have been laid in one, a range is as it was laid or as it was
before, and half octets and octets come out of what they were packed into as they went in.
-/

namespace NearField

theorem octet_eq_of_bits {octet other : UInt8}
    (same : ∀ (i : Nat) (inside : i < 8), octet.toBitVec[i] = other.toBitVec[i]) : octet = other :=
  UInt8.toBitVec_inj.mp (BitVec.eq_of_getElem_eq same)

theorem and_eq_mod (octet : UInt8) {mask bound : UInt8} (width : Nat)
    (ones : mask.toNat = 2 ^ width - 1) (power : bound.toNat = 2 ^ width) :
    octet &&& mask = octet % bound := by
  rw [← UInt8.toNat_inj, UInt8.toNat_and, UInt8.toNat_mod, ones, power]
  exact Nat.and_two_pow_sub_one_eq_mod _ _

theorem keeps_low_iff (octet : UInt8) {mask bound : UInt8} (width : Nat)
    (ones : mask.toNat = 2 ^ width - 1) (power : bound.toNat = 2 ^ width) :
    octet &&& mask = octet ↔ octet < bound := by
  rw [and_eq_mod octet width ones power, ← UInt8.toNat_inj, UInt8.toNat_mod,
    UInt8.lt_iff_toNat_lt, power]
  exact Nat.mod_eq_iff_lt (Nat.ne_of_gt (Nat.two_pow_pos width))

theorem and_flag (octet : UInt8) {mask : UInt8} (bit : Nat) (inside : bit < 8)
    (one : ∀ (i : Nat) (near : i < 8), mask.toBitVec[i] = decide (i = bit)) :
    octet &&& mask = if octet.toBitVec[bit] then mask else 0 := by
  apply octet_eq_of_bits
  intro i near
  by_cases here : i = bit
  · subst here
    cases set : octet.toBitVec[i] <;> simp [set]
  · cases octet.toBitVec[bit] <;> simp [one i near, here]

theorem flag_kept (octet : UInt8) {mask : UInt8} (bit : Nat) (inside : bit < 8)
    (one : ∀ (i : Nat) (near : i < 8), mask.toBitVec[i] = decide (i = bit)) :
    (if octet &&& mask != 0 then mask else 0) = octet &&& mask := by
  rw [and_flag octet bit inside one]
  cases octet.toBitVec[bit] with
  | true => by_cases zero : mask = 0 <;> simp [zero]
  | false => rfl

theorem highNibble_packNibbles (high low : UInt8) :
    highNibble (packNibbles high low) = high % 16 := by
  have cut : high &&& 0x0f = high % 16 := and_eq_mod high 4 rfl rfl
  rw [← cut]
  apply octet_eq_of_bits
  intro i inside
  interval_cases i <;> simp [highNibble, packNibbles]

theorem lowNibble_packNibbles (high low : UInt8) :
    lowNibble (packNibbles high low) = low % 16 := by
  have cut : low &&& 0x0f = low % 16 := and_eq_mod low 4 rfl rfl
  rw [← cut]
  apply octet_eq_of_bits
  intro i inside
  interval_cases i <;> simp [lowNibble, packNibbles]

theorem packNibbles_nibbles (octet : UInt8) :
    packNibbles (highNibble octet) (lowNibble octet) = octet := by
  apply octet_eq_of_bits
  intro i inside
  interval_cases i <;> simp [highNibble, lowNibble, packNibbles]

theorem mod_of_lt {octet bound : UInt8} (small : octet < bound) : octet % bound = octet := by
  rw [← UInt8.toNat_inj, UInt8.toNat_mod]
  exact Nat.mod_eq_of_lt (UInt8.lt_iff_toNat_lt.mp small)

theorem mod_mod (octet bound : UInt8) : octet % bound % bound = octet % bound := by
  rw [← UInt8.toNat_inj, UInt8.toNat_mod, UInt8.toNat_mod, Nat.mod_mod]

namespace Octets

theorem toNat_word16 (high low : UInt8) :
    (word16 high low).toNat = 256 * high.toNat + low.toNat := by
  have above : high.toNat < 256 := high.toNat_lt
  have below : low.toNat < 2 ^ 8 := low.toNat_lt
  have shifted : high.toNat <<< 8 % 65536 = high.toNat <<< 8 := by
    rw [Nat.shiftLeft_eq]
    omega
  simp only [word16, UInt16.toNat_or, UInt16.toNat_shiftLeft, UInt8.toNat_toUInt16,
    UInt16.reduceToNat, Nat.reduceMod, Nat.reducePow]
  rw [shifted, ← Nat.shiftLeft_add_eq_or_of_lt below, Nat.shiftLeft_eq]
  omega

theorem word16_octets (word : UInt16) : word16 (word >>> 8).toUInt8 word.toUInt8 = word := by
  have bound : word.toNat < 65536 := word.toNat_lt
  rw [← UInt16.toNat_inj, toNat_word16]
  simp only [UInt16.toNat_toUInt8, UInt16.toNat_shiftRight, UInt16.reduceToNat, Nat.reduceMod,
    Nat.shiftRight_eq_div_pow, Nat.reducePow]
  omega

theorem toNat_word32 (b0 b1 b2 b3 : UInt8) : (word32 b0 b1 b2 b3).toNat =
    2 ^ 24 * b3.toNat + (2 ^ 16 * b2.toNat + (2 ^ 8 * b1.toNat + b0.toNat)) := by
  have first : b0.toNat < 2 ^ 8 := b0.toNat_lt
  have second : b1.toNat < 2 ^ 8 := b1.toNat_lt
  have third : b2.toNat < 2 ^ 8 := b2.toNat_lt
  have fourth : b3.toNat < 2 ^ 8 := b3.toNat_lt
  have low : 2 ^ 8 * b1.toNat + b0.toNat < 2 ^ 16 := by omega
  have middle : 2 ^ 16 * b2.toNat + (2 ^ 8 * b1.toNat + b0.toNat) < 2 ^ 24 := by omega
  have shifted (octet : UInt8) (places : Nat) (fits : 2 ^ places * octet.toNat < 2 ^ 32) :
      octet.toNat <<< places % 2 ^ 32 = 2 ^ places * octet.toNat := by
    rw [Nat.shiftLeft_eq, Nat.mul_comm, Nat.mod_eq_of_lt fits]
  simp only [word32, UInt32.toNat_or, UInt32.toNat_shiftLeft, UInt8.toNat_toUInt32,
    UInt32.reduceToNat, Nat.reduceMod]
  rw [shifted b1 8 (by omega), shifted b2 16 (by omega), shifted b3 24 (by omega)]
  rw [Nat.or_comm b0.toNat, ← Nat.two_pow_add_eq_or_of_lt first, Nat.or_comm _ (2 ^ 16 * b2.toNat),
    ← Nat.two_pow_add_eq_or_of_lt low, Nat.or_comm _ (2 ^ 24 * b3.toNat),
    ← Nat.two_pow_add_eq_or_of_lt middle]

theorem word32_ofWord32 (word : UInt32) :
    word32 word.toUInt8 (word >>> 8).toUInt8 (word >>> 16).toUInt8 (word >>> 24).toUInt8 = word := by
  have bound : word.toNat < 2 ^ 32 := word.toNat_lt
  rw [← UInt32.toNat_inj, toNat_word32]
  simp only [UInt32.toNat_toUInt8, UInt32.toNat_shiftRight, UInt32.reduceToNat, Nat.reduceMod,
    Nat.shiftRight_eq_div_pow]
  omega

theorem ofWord32_word32 (b0 b1 b2 b3 : UInt8) : ofWord32 (word32 b0 b1 b2 b3) = [b0, b1, b2, b3] := by
  have first : b0.toNat < 2 ^ 8 := b0.toNat_lt
  have second : b1.toNat < 2 ^ 8 := b1.toNat_lt
  have third : b2.toNat < 2 ^ 8 := b2.toNat_lt
  have fourth : b3.toNat < 2 ^ 8 := b3.toNat_lt
  simp only [ofWord32, List.cons.injEq, ← UInt8.toNat_inj, UInt32.toNat_toUInt8,
    UInt32.toNat_shiftRight, UInt32.reduceToNat, Nat.reduceMod, Nat.shiftRight_eq_div_pow,
    toNat_word32, and_true]
  omega

theorem overlay_cons {buffer : Octets} {pos : Nat} (octet : UInt8) (rest : Octets)
    (inside : pos < buffer.length) :
    overlay (buffer.set pos octet) (pos + 1) rest = buffer.overlay pos (octet :: rest) := by
  have room : buffer.length - pos = (buffer.length - (pos + 1)) + 1 := by omega
  have after : pos + (rest.length + 1) = pos + 1 + rest.length := by omega
  have beyond : (buffer.set pos octet).drop (pos + 1 + rest.length) =
      buffer.drop (pos + 1 + rest.length) := List.drop_set_of_lt (by omega)
  have before : (buffer.set pos octet).take (pos + 1) = buffer.take pos ++ [octet] := by
    rw [List.take_set, List.take_succ_eq_append_getElem inside,
      List.set_append_right _ _ (List.length_take_le _ _), List.length_take,
      Nat.min_eq_left (by omega)]
    simp
  rw [overlay, overlay, before, beyond, List.length_set, List.length_cons, room,
    List.take_succ_cons, after]
  simp

theorem overlay_nil (buffer : Octets) (pos : Nat) : buffer.overlay pos [] = buffer := by
  simp [overlay]

theorem overlay_append (buffer : Octets) (pos : Nat) (first second : Octets)
    (inside : pos + first.length ≤ buffer.length) :
    (buffer.overlay pos first).overlay (pos + first.length) second =
      buffer.overlay pos (first ++ second) := by
  induction first generalizing buffer pos with
  | nil => rw [overlay_nil, List.length_nil, Nat.add_zero, List.nil_append]
  | cons octet rest ih =>
    rw [List.length_cons] at inside ⊢
    have rest_inside : pos + 1 + rest.length ≤ (buffer.set pos octet).length := by
      rw [List.length_set]
      omega
    rw [← overlay_cons octet rest (by omega), List.cons_append,
      ← overlay_cons octet (rest ++ second) (by omega), ← ih _ (pos + 1) rest_inside]
    congr 1
    omega

theorem set_eq_overlay {buffer : Octets} {pos : Nat} (octet : UInt8)
    (inside : pos < buffer.length) : buffer.set pos octet = buffer.overlay pos [octet] := by
  rw [← overlay_cons octet [] inside, overlay_nil]

theorem getElem?_overlay {buffer : Octets} {pos : Nat} {bytes : Octets}
    (fits : pos + bytes.length ≤ buffer.length) (i : Nat) :
    (buffer.overlay pos bytes)[i]? =
      if pos ≤ i ∧ i < pos + bytes.length then bytes[i - pos]? else buffer[i]? := by
  have whole : bytes.take (buffer.length - pos) = bytes := List.take_of_length_le (by omega)
  have before : (buffer.take pos).length = pos := by
    rw [List.length_take]
    omega
  rw [overlay, whole, List.append_assoc]
  by_cases left : i < pos
  · rw [List.getElem?_append_left (by omega), List.getElem?_take, if_pos left, if_neg (by omega)]
  · rw [List.getElem?_append_right (by omega), before]
    by_cases inside : i < pos + bytes.length
    · rw [List.getElem?_append_left (by omega), if_pos (by omega)]
    · rw [List.getElem?_append_right (by omega), List.getElem?_drop, if_neg (by omega)]
      congr 1
      omega

theorem extract_overlay_within {buffer : Octets} {pos : Nat} {bytes : Octets}
    (fits : pos + bytes.length ≤ buffer.length) {skip count : Nat}
    (within : skip + count ≤ bytes.length) :
    ((buffer.overlay pos bytes).drop (pos + skip)).take count = (bytes.drop skip).take count := by
  apply List.ext_getElem?
  intro i
  rw [List.getElem?_take, List.getElem?_take, List.getElem?_drop, List.getElem?_drop,
    getElem?_overlay fits]
  by_cases near : i < count
  · rw [if_pos near, if_pos near, if_pos (by omega)]
    congr 1
    omega
  · rw [if_neg near, if_neg near]

theorem extract_overlay_apart {buffer : Octets} {pos : Nat} {bytes : Octets}
    (fits : pos + bytes.length ≤ buffer.length) {start count : Nat}
    (apart : start + count ≤ pos ∨ pos + bytes.length ≤ start) :
    ((buffer.overlay pos bytes).drop start).take count = (buffer.drop start).take count := by
  apply List.ext_getElem?
  intro i
  rw [List.getElem?_take, List.getElem?_take, List.getElem?_drop, List.getElem?_drop,
    getElem?_overlay fits]
  by_cases near : i < count
  · rw [if_pos near, if_pos near, if_neg (by omega)]
  · rw [if_neg near, if_neg near]

theorem take_overlay {buffer : Octets} {pos : Nat} {bytes : Octets}
    (fits : pos + bytes.length ≤ buffer.length) :
    (buffer.overlay pos bytes).take (pos + bytes.length) = buffer.take pos ++ bytes := by
  have whole : bytes.take (buffer.length - pos) = bytes := List.take_of_length_le (by omega)
  have front : (buffer.take pos ++ bytes).length = pos + bytes.length := by
    rw [List.length_append, List.length_take]
    omega
  rw [overlay, whole]
  exact List.take_left' front

theorem place_fits {buffer bytes : Octets} (fits : bytes.length ≤ buffer.length) :
    buffer.place (.ok bytes) = (.ok bytes.length, bytes ++ buffer.drop bytes.length) := by
  have within : within buffer.length (.ok bytes) = .ok bytes := if_neg (Nat.not_lt.mpr fits)
  rw [place, within]
  simp only [overlay_zero fits]

end Octets

end NearField
