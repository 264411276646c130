import NearField.Llcp.Session
import Mathlib.Tactic.Common

/-!
What reading parameters can give. Main statements: every parameter that is read keeps to the width
of its field, and the parameter of a connection frame is read as the window that was offered.
-/

namespace NearField.Llcp

/-- A parameter whose value keeps to the width of its field, where a session makes use of it. -/
def Param.Narrow : Param → Prop
  | .rw window => window < 16
  | .miux extension => extension.toNat ≤ 2047
  | _ => True

namespace Param

theorem miux_narrow (word : UInt16) : (Param.miux (word &&& 0x07ff)).Narrow := by
  simp only [Narrow, UInt16.toNat_and, UInt16.reduceToNat]
  exact Nat.and_le_right

theorem decode_narrow {kind : UInt8} {value : Octets} {param : Param}
    (ok : decode kind value = .ok (some param)) : param.Narrow := by
  unfold decode at ok
  split at ok <;> try split at ok
  all_goals cases ok
  all_goals first
    | exact miux_narrow _
    | exact lowNibble_lt _
    | exact True.intro

/-- What every value of at most 255 octets is read as holds of all the parameters of a field. -/
theorem forall_parseAll {holds : Param → Prop}
    (each : ∀ (kind : UInt8) (value : Octets) (param : Param), value.length ≤ 255 →
      decode kind value = .ok (some param) → holds param)
    {bytes : Octets} {params : List Param} (ok : parseAll bytes = .ok params) :
    ∀ param ∈ params, holds param := by
  induction bytes using parseAll.induct generalizing params with
  | case1 =>
    rw [parseAll] at ok
    cases ok
    simp
  | case2 =>
    rw [parseAll] at ok
    cases ok
  | case3 kind length rest short =>
    rw [parseAll, if_pos short] at ok
    cases ok
  | case4 kind length rest long e unread =>
    rw [parseAll, if_neg long, unread] at ok
    cases ok
  | case5 kind length rest long read decoded ih =>
    rw [parseAll, if_neg long, decoded] at ok
    cases tail : parseAll (rest.drop length.toNat) with
    | error e =>
      rw [tail] at ok
      cases ok
    | ok others =>
      rw [tail] at ok
      cases ok
      intro param inside
      rcases List.mem_append.mp inside with first | later
      · rw [Option.mem_toList.mp first] at decoded
        have one : length.toNat < 256 := length.toNat_lt
        have size : (rest.take length.toNat).length ≤ 255 := by
          rw [List.length_take]
          omega
        exact each kind _ param size decoded
      · exact ih tail param later

theorem parseAll_narrow {bytes : Octets} {params : List Param} (ok : parseAll bytes = .ok params) :
    ∀ param ∈ params, param.Narrow := by
  refine forall_parseAll ?_ ok
  intro kind value param _ decoded
  exact decode_narrow decoded

theorem parseAll_window (octet : UInt8) :
    parseAll [0x05, 0x01, octet] = .ok [.rw (octet &&& 0x0f)] := by
  rw [parseAll]
  simp [decode, parseAll, Except.map]

end Param

end NearField.Llcp
