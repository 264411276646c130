import NearField.Octets.Block
import NearField.Octets.Reader

/-!
The configuration store: 128 octets, in which each parameter has a place for a length octet and as
many octets of value as it may have.
-/

namespace NearField.Device

def configurationSize : Nat := 128

/-- Where a parameter is kept: its length octet is at `offset`, its value follows. -/
structure ParamPlace where
  offset : Nat
  maxLength : Nat
deriving DecidableEq, Repr

def paramPlaces : List (UInt8 × ParamPlace) :=
  [(0x00, ⟨0, 2⟩), -- total duration
    (0x01, ⟨3, 1⟩), -- limit of devices
    (0x08, ⟨5, 1⟩), -- polling A: bail out
    (0x11, ⟨7, 1⟩), -- polling B: bail out
    (0x18, ⟨9, 1⟩), -- polling F: bit rate
    (0x28, ⟨11, 1⟩), -- polling peer: speed
    (0x29, ⟨13, 20⟩), -- polling peer: general octets of the attribute request
    (0x30, ⟨34, 1⟩), -- listening A: bit frame
    (0x32, ⟨36, 1⟩), -- listening A: selection
    (0x50, ⟨38, 1⟩), -- listening F: protocols
    (0x58, ⟨40, 1⟩), -- listening I: frame waiting
    (0x60, ⟨42, 1⟩), -- listening peer: waiting time
    (0x61, ⟨44, 20⟩), -- listening peer: general octets of the attribute response
    (0x80, ⟨65, 1⟩), -- field information
    (0x81, ⟨67, 1⟩), -- action of secure elements
    (0x82, ⟨69, 1⟩)] -- operation of peers

def paramPlace? (id : UInt8) : Option ParamPlace := paramPlaces.lookup id

structure Configuration where
  memory : Block configurationSize
deriving DecidableEq, Repr

namespace Configuration

def blank : Configuration := ⟨.zero configurationSize⟩

def requireRange (offset length : Nat) : Except Error Unit :=
  if configurationSize < offset + length then .error (.configOutOfRange offset length) else .ok ()

def write (configuration : Configuration) (offset : Nat) (bytes : Octets) :
    Except Error Configuration := do
  requireRange offset bytes.length
  return ⟨configuration.memory.overlay offset bytes⟩

def read (configuration : Configuration) (offset length : Nat) : Except Error Octets := do
  requireRange offset length
  return configuration.memory.extract offset length

/-- Stores a parameter; what its place has beyond the value is blanked. An unknown identifier and
a value that is too long are refused. -/
def setParam (configuration : Configuration) (id : UInt8) (value : Octets) :
    Except Error Configuration :=
  match paramPlace? id with
  | none => .error (.invalidParameter id value.length)
  | some place =>
    if place.maxLength < value.length then .error (.invalidParameter id value.length)
    else
      configuration.write place.offset
        (value.length.toUInt8 :: value ++ Octets.zeros (place.maxLength - value.length))

/-- The value of a parameter; `none` for an unknown identifier. A length octet beyond the place
counts as its size. -/
def param (configuration : Configuration) (id : UInt8) : Option Octets :=
  match paramPlace? id with
  | none => none
  | some place =>
    let stored := (configuration.memory.extract place.offset 1).headD 0
    (configuration.read (place.offset + 1) (min stored.toNat place.maxLength)).toOption

end Configuration

end NearField.Device
