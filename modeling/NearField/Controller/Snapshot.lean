import NearField.Controller.Register

/-!
Snapshots of the register window with the version of their format, in memory and as octets: four
octets of version, least significant first, then the window.
-/

namespace NearField

/-- A window and the version of its format. The window of a snapshot from elsewhere may have any
length. -/
structure Snapshot where
  version : UInt32
  window : Octets
deriving DecidableEq, Repr

namespace Snapshot

def currentVersion : UInt32 := 2

def capture (regs : RegisterFile) : Snapshot := ⟨currentVersion, regs.window⟩

/-- The registers in a snapshot. Another version is refused before a window of another size. -/
def registers (snapshot : Snapshot) : Except Error RegisterFile :=
  if snapshot.version ≠ currentVersion then
    .error (.snapshotVersion currentVersion snapshot.version)
  else RegisterFile.ofWindow snapshot.window

def toOctets (snapshot : Snapshot) : Octets :=
  Octets.ofWord32 snapshot.version ++ snapshot.window

def ofOctets : Octets → Except Error Snapshot
  | b0 :: b1 :: b2 :: b3 :: window => .ok ⟨Octets.word32 b0 b1 b2 b3, window⟩
  | short => .error (.invalidLength (4 + windowSize) short.length)

end Snapshot

end NearField
