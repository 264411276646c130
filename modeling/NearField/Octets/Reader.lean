import NearField.Error

/-!
Reading fields from octet strings with their bounds checked, and placing an encoding into a buffer.
A read past the end reports the length that would have been enough. Placing writes everything or
nothing.
-/

namespace NearField.Octets

def require (bytes : Octets) (least : Nat) : Except Error Unit :=
  if bytes.length < least then .error (.invalidLength least bytes.length) else .ok ()

def byteAt (bytes : Octets) (pos : Nat) : Except Error UInt8 :=
  match bytes[pos]? with
  | some octet => .ok octet
  | none => .error (.invalidLength (pos + 1) bytes.length)

def sliceAt (bytes : Octets) (pos count : Nat) : Except Error Octets :=
  if bytes.length < pos + count then .error (.invalidLength (pos + count) bytes.length)
  else .ok ((bytes.drop pos).take count)

def pieces (width : Nat) : Nat → Octets → List Octets
  | 0, _ => []
  | count + 1, bytes => bytes.take width :: pieces width count (bytes.drop width)

/-- A counted list: the first octet is the number of entries, each `width` octets long. -/
def countedEntries (bytes : Octets) (width : Nat) : Except Error (List Octets) := do
  let count ← bytes.byteAt 0
  let body ← bytes.sliceAt 1 (count.toNat * width)
  return pieces width count.toNat body

/-- From `pos` on, `count` entries of an identifier, a length octet and as many octets of value. -/
def taggedEntries (bytes : Octets) (pos : Nat) : Nat → Except Error (List (UInt8 × Octets))
  | 0 => .ok []
  | count + 1 => do
    let id ← bytes.byteAt pos
    let length ← bytes.byteAt (pos + 1)
    let value ← bytes.sliceAt (pos + 2) length.toNat
    let rest ← taggedEntries bytes (pos + 2 + length.toNat) count
    return (id, value) :: rest

def within (room : Nat) (encoding : Except Error Octets) : Except Error Octets := do
  let bytes ← encoding
  if room < bytes.length then .error (.invalidLength bytes.length room) else return bytes

/-- Puts an encoding at the start of a buffer: its length and the buffer afterwards. A failed
encoding, or one that does not fit, leaves the buffer as it was. -/
def place (buffer : Octets) (encoding : Except Error Octets) : Except Error Nat × Octets :=
  match within buffer.length encoding with
  | .error e => (.error e, buffer)
  | .ok bytes => (.ok bytes.length, buffer.overlay 0 bytes)

theorem within_ok {room : Nat} {encoding : Except Error Octets} {bytes : Octets}
    (h : within room encoding = .ok bytes) : encoding = .ok bytes ∧ bytes.length ≤ room := by
  cases encoding with
  | error e => cases h
  | ok content =>
    change (if room < content.length then _ else Except.ok content) = Except.ok bytes at h
    split at h
    · cases h
    · cases h
      exact ⟨rfl, by omega⟩

end NearField.Octets
