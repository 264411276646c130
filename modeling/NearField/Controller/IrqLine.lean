/-!
The interrupt line of a controller: not wired, or wired to a recorder that keeps every level it was
driven to.
-/

namespace NearField

inductive IrqLine where
  | unwired
  | recorded (levels : List Bool)
deriving DecidableEq, Repr

namespace IrqLine

def recorder : IrqLine := recorded []

def drive (line : IrqLine) (level : Bool) : IrqLine :=
  match line with
  | unwired => unwired
  | recorded levels => recorded (levels ++ [level])

def levels : IrqLine → List Bool
  | unwired => []
  | recorded levels => levels

/-- The present level; low if the line was never driven. -/
def level (line : IrqLine) : Bool := line.levels.getLast?.getD false

def raised (line : IrqLine) : Nat := line.levels.countP id

def clear : IrqLine → IrqLine
  | unwired => unwired
  | recorded _ => recorded []

end IrqLine

end NearField
