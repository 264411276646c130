import NearField.Octets

/-!
Blocks of memory: octet strings whose length is part of their type. Every operation here keeps it,
so a register buffer, a configuration store or a packet buffer never changes size.
-/

namespace NearField

structure Block (size : Nat) where
  octets : Octets
  length_octets : octets.length = size
deriving DecidableEq, Repr

namespace Block

variable {size : Nat}

def zero (size : Nat) : Block size := ⟨Octets.zeros size, Octets.length_zeros size⟩

def get (block : Block size) (i : Fin size) : UInt8 :=
  block.octets.get (i.cast block.length_octets.symm)

def set (block : Block size) (i : Fin size) (value : UInt8) : Block size :=
  ⟨block.octets.set i value, by simp [block.length_octets]⟩

def overlay (block : Block size) (pos : Nat) (bytes : Octets) : Block size :=
  ⟨block.octets.overlay pos bytes, by simp [block.length_octets]⟩

def clearFirst (block : Block size) (count : Nat) : Block size :=
  block.overlay 0 (Octets.zeros count)

def extract (block : Block size) (pos count : Nat) : Octets :=
  (block.octets.drop pos).take count

@[ext] theorem ext {a b : Block size} (h : a.octets = b.octets) : a = b := by
  cases a; cases b; simp_all

theorem octets_overlay_all (block : Block size) {bytes : Octets} (whole : bytes.length = size) :
    (block.overlay 0 bytes).octets = bytes := by
  have len := block.length_octets
  simp only [overlay]
  rw [Octets.overlay_zero (by omega), List.drop_of_length_le (by omega), List.append_nil]

end Block

end NearField
