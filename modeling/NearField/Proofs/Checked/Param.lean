import NearField.Llcp.Param
import NearField.Proofs.Checked.Reader

/-!
Link layer parameters, read and written with every access and every sum checked. Main statement:
walking a parameter field never faults, whatever length octets it holds.
-/

namespace NearField.Llcp.Param

def checkedLength (kind : UInt8) (value : Octets) (count : Nat) : Attempt Unit :=
  if value.length ≠ count then throw (.invalidParameter kind value.length) else pure ()

def checkedDecode (kind : UInt8) (value : Octets) : Attempt (Option Param) :=
  match kind with
  | 0x01 => do
    checkedLength kind value 1
    let octet ← value.checkedGet 0
    return some (.version (highNibble octet) (lowNibble octet))
  | 0x02 => do
    checkedLength kind value 2
    let high ← value.checkedGet 0
    let low ← value.checkedGet 1
    return some (.miux (Octets.word16 high low &&& 0x07ff))
  | 0x03 => do
    checkedLength kind value 2
    let high ← value.checkedGet 0
    let low ← value.checkedGet 1
    return some (.wks (Octets.word16 high low))
  | 0x04 => do
    checkedLength kind value 1
    return some (.lto (← value.checkedGet 0))
  | 0x05 => do
    checkedLength kind value 1
    return some (.rw ((← value.checkedGet 0) &&& 0x0f))
  | 0x06 => return some (.sn value)
  | 0x07 => do
    checkedLength kind value 1
    return some (.opt ((← value.checkedGet 0) &&& 0x03))
  | 0x08 =>
    if value.isEmpty then throw (.invalidParameter kind 0)
    else do
      let tid ← value.checkedGet 0
      let uri ← value.checkedSlice 1 value.length
      return some (.sdreq tid uri)
  | 0x09 => do
    checkedLength kind value 2
    let tid ← value.checkedGet 0
    let sap ← value.checkedGet 1
    return some (.sdres tid (sap &&& 0x3f))
  | _ => return none

def checkedEntry (bytes : Octets) : Attempt (Option Param × Octets) :=
  if bytes.length < 2 then throw (.invalidLength 2 bytes.length)
  else do
    let kind ← bytes.checkedGet 0
    let length ← bytes.checkedGet 1
    let stop ← Size.add 2 length.toNat
    settled (bytes.require stop)
    let value ← bytes.checkedSlice 2 stop
    let param ← checkedDecode kind value
    let rest ← bytes.checkedSlice stop bytes.length
    return (param, rest)

/-- Walks over the entries of a field. Each takes at least two octets, so there are fewer entries
than octets. -/
def checkedParse : Nat → Octets → Attempt (List Param)
  | 0, _ => pure []
  | turns + 1, bytes =>
    if bytes.isEmpty then pure []
    else do
      let (param, rest) ← checkedEntry bytes
      let params ← checkedParse turns rest
      return param.toList ++ params

def checkedParseAll (bytes : Octets) : Attempt (List Param) := checkedParse bytes.length bytes

theorem checkedDecode_eq (kind : UInt8) (value : Octets) :
    checkedDecode kind value = settled (decode kind value) := by
  unfold checkedDecode decode
  split
  case h_10 unknown =>
    -- the kinds that are known were all split off
    simp_all
  all_goals
    rcases value with _ | ⟨_, _ | ⟨_, _ | ⟨_, _⟩⟩⟩
    · rfl
    · rfl
    · rfl
    · simp [checkedLength, Octets.checkedSlice]

theorem checkedEntry_cons (kind length : UInt8) (rest : Octets) :
    checkedEntry (kind :: length :: rest) =
      settled (if rest.length < length.toNat then
        .error (.invalidLength (2 + length.toNat) (2 + rest.length))
      else (decode kind (rest.take length.toNat)).map (·, rest.drop length.toNat)) := by
  have bound : length.toNat < 256 := length.toNat_lt
  have size : (kind :: length :: rest).length = 2 + rest.length := by
    rw [List.length_cons, List.length_cons]
    omega
  have kind_read : Octets.checkedGet (kind :: length :: rest) 0 = pure kind := rfl
  have length_read : Octets.checkedGet (kind :: length :: rest) 1 = pure length := rfl
  rw [checkedEntry, size, if_neg (by omega), kind_read, length_read, lift_pure, pure_bind,
    lift_pure, pure_bind, Size.add_small (by omega), lift_pure, pure_bind, Octets.require, size]
  by_cases short : rest.length < length.toNat
  · rw [if_pos (by omega), if_pos short]
    rfl
  · have value_read : Octets.checkedSlice (kind :: length :: rest) 2 (2 + length.toNat) =
        pure (rest.take length.toNat) := by
      rw [Octets.checkedSlice_le (by omega) (by omega), Nat.add_sub_cancel_left]
      rfl
    have rest_read : Octets.checkedSlice (kind :: length :: rest) (2 + length.toNat)
        (2 + rest.length) = pure (rest.drop length.toNat) := by
      have tail : (kind :: length :: rest).drop (2 + length.toNat) = rest.drop length.toNat := by
        rw [Nat.add_comm]
        rfl
      rw [Octets.checkedSlice_le (by omega) (by omega), tail,
        List.take_of_length_le (by rw [List.length_drop]; omega)]
    rw [if_neg (by omega), if_neg short, settled_ok, pure_bind, value_read, lift_pure, pure_bind,
      checkedDecode_eq, rest_read]
    cases decode kind (rest.take length.toNat) <;> rfl

theorem checkedParse_eq {turns : Nat} {bytes : Octets} (enough : bytes.length ≤ turns) :
    checkedParse turns bytes = settled (parseAll bytes) := by
  induction turns generalizing bytes with
  | zero =>
    rw [List.eq_nil_of_length_eq_zero (Nat.le_zero.mp enough), parseAll]
    rfl
  | succ turns ih =>
    rcases bytes with _ | ⟨kind, _ | ⟨length, rest⟩⟩
    · rw [parseAll]
      rfl
    · rw [parseAll]
      rfl
    · rw [List.length_cons, List.length_cons] at enough
      have step := checkedEntry_cons kind length rest
      rw [checkedParse, if_neg (by simp), step, parseAll]
      by_cases short : rest.length < length.toNat
      · rw [if_pos short, if_pos short]
        rfl
      · rw [if_neg short, if_neg short]
        cases decode kind (rest.take length.toNat) with
        | error e => rfl
        | ok param =>
          have later : checkedParse turns (rest.drop length.toNat) =
              settled (parseAll (rest.drop length.toNat)) :=
            ih (by rw [List.length_drop]; omega)
          change checkedParse turns (rest.drop length.toNat) >>= _ = _
          rw [later, settled_map]

theorem checkedParseAll_eq (bytes : Octets) :
    checkedParseAll bytes = settled (parseAll bytes) := checkedParse_eq (Nat.le_refl _)

theorem parseAll_length {bytes : Octets} {params : List Param} (ok : parseAll bytes = .ok params) :
    params.length ≤ bytes.length := by
  fun_induction parseAll bytes generalizing params with
  | case1 => cases ok; exact Nat.le_refl 0
  | case2 => cases ok
  | case3 => cases ok
  | case4 => cases ok
  | case5 kind length rest enough param read ih =>
    obtain ⟨others, later, ok⟩ := bind_eq_ok ok
    cases ok
    have shorter := ih later
    have one : param.toList.length ≤ 1 := by cases param <;> simp
    rw [List.length_drop] at shorter
    rw [List.length_append, List.length_cons, List.length_cons]
    omega

def checkedValue : Param → Checked Octets
  | sdreq tid uri => do
    let _ ← Size.add 1 uri.length
    return tid :: uri
  | param => pure param.value

def checkedEncode (param : Param) : Attempt Octets := do
  let value ← param.checkedValue
  if 255 < value.length then throw (.invalidParameter param.kind value.length)
  else return param.kind :: value.length.toUInt8 :: value

def checkedEncodeAll : List Param → Attempt Octets
  | [] => pure []
  | param :: rest => do
    let head ← param.checkedEncode
    let tail ← checkedEncodeAll rest
    return head ++ tail

def checkedActivationTail : Checked Octets := do
  let version ← (version 1 1).checkedValue
  let services ← (wks 0x0013).checkedValue
  let timeout ← (lto 100).checkedValue
  return [0x46, 0x66, 0x6d] ++ ([Param.version 1 1, .wks 0x0013, .lto 100].zip
    [version, services, timeout]).flatMap fun entry =>
      entry.1.kind :: entry.2.length.toUInt8 :: entry.2

theorem checkedValue_eq {param : Param} (short : param.value.length < 65536) :
    param.checkedValue = pure param.value := by
  cases param with
  | sdreq tid uri =>
    rw [value, List.length_cons] at short
    rw [checkedValue, Size.add_small (by omega), pure_bind, value]
  | _ => rfl

theorem checkedEncode_eq {param : Param} (short : param.value.length < 65536) :
    param.checkedEncode = settled param.encode := by
  rw [checkedEncode, checkedValue_eq short, lift_pure, pure_bind, encode]
  split <;> rfl

theorem checkedEncodeAll_eq {params : List Param}
    (short : ∀ param ∈ params, param.value.length < 65536) :
    checkedEncodeAll params = settled (encodeAll params) := by
  induction params with
  | nil => rfl
  | cons param rest ih =>
    obtain ⟨first, others⟩ := List.forall_mem_cons.mp short
    rw [checkedEncodeAll, encodeAll, checkedEncode_eq first, ih others, settled_bind]
    congr 1
    funext head
    rw [settled_bind]
    rfl

theorem checkedActivationTail_eq : checkedActivationTail = pure activationTail := rfl

end NearField.Llcp.Param
