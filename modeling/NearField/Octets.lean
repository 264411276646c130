/-!
Octet strings and the ways the library packs bits into them. Main statements: laying bytes over a
buffer keeps its length, and a packed pair of half octets splits into the pair again.
-/

namespace NearField

abbrev Octets := List UInt8

namespace Octets

def zeros (n : Nat) : Octets := List.replicate n 0

/-- `buffer` with `bytes` written from position `pos` on. What would fall past the end is dropped,
so the length never changes. -/
def overlay (buffer : Octets) (pos : Nat) (bytes : Octets) : Octets :=
  buffer.take pos ++ bytes.take (buffer.length - pos) ++ buffer.drop (pos + bytes.length)

@[simp] theorem length_zeros (n : Nat) : (zeros n).length = n := by simp [zeros]

@[simp] theorem length_overlay (buffer : Octets) (pos : Nat) (bytes : Octets) :
    (buffer.overlay pos bytes).length = buffer.length := by
  simp only [overlay, List.length_append, List.length_take, List.length_drop]
  omega

theorem overlay_zero {buffer bytes : Octets} (fits : bytes.length ≤ buffer.length) :
    buffer.overlay 0 bytes = bytes ++ buffer.drop bytes.length := by
  simp [overlay, List.take_of_length_le fits]

def word16 (high low : UInt8) : UInt16 := high.toUInt16 <<< 8 ||| low.toUInt16

def ofWord16 (word : UInt16) : Octets := [(word >>> 8).toUInt8, word.toUInt8]

def word32 (b0 b1 b2 b3 : UInt8) : UInt32 :=
  b0.toUInt32 ||| b1.toUInt32 <<< 8 ||| b2.toUInt32 <<< 16 ||| b3.toUInt32 <<< 24

def ofWord32 (word : UInt32) : Octets :=
  [word.toUInt8, (word >>> 8).toUInt8, (word >>> 16).toUInt8, (word >>> 24).toUInt8]

end Octets

/-- Two half octets in one octet: `high` is shifted up, `low` is cut to its lower four bits. -/
def packNibbles (high low : UInt8) : UInt8 := (high <<< 4) ||| (low &&& 0x0f)

def highNibble (octet : UInt8) : UInt8 := octet >>> 4

def lowNibble (octet : UInt8) : UInt8 := octet &&& 0x0f

theorem highNibble_lt (octet : UInt8) : highNibble octet < 16 := by
  have h : octet.toNat < 256 := octet.toNat_lt
  rw [UInt8.lt_iff_toNat_lt]
  simp only [highNibble, UInt8.toNat_shiftRight, UInt8.reduceToNat, Nat.reduceMod,
    Nat.shiftRight_eq_div_pow]
  omega

theorem lowNibble_lt (octet : UInt8) : lowNibble octet < 16 := by
  rw [UInt8.lt_iff_toNat_lt]
  simp only [lowNibble, UInt8.toNat_and, UInt8.reduceToNat]
  exact Nat.lt_succ_of_le Nat.and_le_right

end NearField
