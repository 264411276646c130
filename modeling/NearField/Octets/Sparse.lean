import NearField.Octets

/-!
Sparse views of octet strings that are mostly zero: the string without its trailing zeros, and its
maximal runs of octets other than zero with their offsets.
-/

namespace NearField.Octets

def trimmed : Octets → Octets
  | [] => []
  | octet :: rest =>
    match trimmed rest with
    | [] => if octet = 0 then [] else [octet]
    | tail => octet :: tail

/-- The runs in the octets from offset `pos` on, where `run` is what came before them without a
zero between, last octet first. -/
def runsFrom (pos : Nat) (run : Octets) : Octets → List (Nat × Octets)
  | [] => close
  | octet :: rest =>
    if octet = 0 then close ++ runsFrom (pos + 1) [] rest
    else runsFrom (pos + 1) (octet :: run) rest
where
  close : List (Nat × Octets) :=
    if run.isEmpty then [] else [(pos - run.length, run.reverse)]

def runs (bytes : Octets) : List (Nat × Octets) := runsFrom 0 [] bytes

end NearField.Octets
