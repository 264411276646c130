import NearField.Proofs.Llcp.ParamCodec
import Mathlib.Data.List.Basic

/-!
Which octets are a field of parameters. Main statement: a field is read exactly when it is entries
laid one after the other, each as long as its length octet says and as its kind asks for. What is
read are the known entries, in order. A field that was read may be followed by any other octets, and
these are read as if they stood alone.
-/

namespace NearField.Llcp.Param

/-- An entry of a field: the kind of a parameter and the octets of its value. -/
structure Entry where
  kind : UInt8
  value : Octets
deriving DecidableEq, Repr

def knownKinds : List UInt8 := [0x01, 0x02, 0x03, 0x04, 0x05, 0x06, 0x07, 0x08, 0x09]

namespace Entry

def octets (entry : Entry) : Octets :=
  entry.kind :: entry.value.length.toUInt8 :: entry.value

/-- A value as long as its kind asks for. A service name and the value of an unknown kind only have
to fit their length octet. -/
structure Formed (entry : Entry) : Prop where
  counted : entry.value.length ≤ 255
  single : entry.kind ∈ [0x01, 0x04, 0x05, 0x07] → entry.value.length = 1
  double : entry.kind ∈ [0x02, 0x03, 0x09] → entry.value.length = 2
  asked : entry.kind = 0x08 → 1 ≤ entry.value.length

/-- The parameter an entry says, as numbers; none when its kind is not known. -/
def param? (entry : Entry) : Option Param :=
  match entry.kind, entry.value with
  | 0x01, [octet] => some (.version (octet / 16) (octet % 16))
  | 0x02, [high, low] => some (.miux ((256 * high.toUInt16 + low.toUInt16) % 2048))
  | 0x03, [high, low] => some (.wks (256 * high.toUInt16 + low.toUInt16))
  | 0x04, [octet] => some (.lto octet)
  | 0x05, [octet] => some (.rw (octet % 16))
  | 0x06, name => some (.sn name)
  | 0x07, [octet] => some (.opt (octet % 4))
  | 0x08, tid :: uri => some (.sdreq tid uri)
  | 0x09, [tid, sap] => some (.sdres tid (sap % 64))
  | _, _ => none

end Entry

theorem highNibble_eq_div (octet : UInt8) : highNibble octet = octet / 16 := by
  rw [← UInt8.toNat_inj, UInt8.toNat_div, highNibble, UInt8.toNat_shiftRight]
  exact Nat.shiftRight_eq_div_pow _ _

theorem word16_eq_sum (high low : UInt8) :
    Octets.word16 high low = 256 * high.toUInt16 + low.toUInt16 := by
  have above : high.toNat < 256 := high.toNat_lt
  have below : low.toNat < 256 := low.toNat_lt
  rw [← UInt16.toNat_inj, Octets.toNat_word16, UInt16.toNat_add, UInt16.toNat_mul,
    UInt8.toNat_toUInt16, UInt8.toNat_toUInt16]
  change _ = (256 * high.toNat % 2 ^ 16 + low.toNat) % 2 ^ 16
  omega

theorem decode_formed {entry : Entry} (formed : entry.Formed) :
    decode entry.kind entry.value = .ok entry.param? := by
  obtain ⟨kind, value⟩ := entry
  obtain ⟨-, single, double, asked⟩ := formed
  have one (known : kind ∈ [0x01, 0x04, 0x05, 0x07]) : ∃ octet, value = [octet] :=
    List.length_eq_one_iff.mp (single known)
  have two (known : kind ∈ [0x02, 0x03, 0x09]) : ∃ high low, value = [high, low] :=
    List.length_eq_two.mp (double known)
  change decode kind value = .ok (Entry.param? ⟨kind, value⟩)
  unfold decode
  split
  · obtain ⟨octet, rfl⟩ := one (by decide)
    change Except.ok (some (version (highNibble octet) (octet &&& 0x0f))) = _
    rw [highNibble_eq_div, fourBits]
    rfl
  · obtain ⟨high, low, rfl⟩ := two (by decide)
    change Except.ok (some (miux (Octets.word16 high low &&& 0x07ff))) = _
    rw [elevenBits, word16_eq_sum]
    rfl
  · obtain ⟨high, low, rfl⟩ := two (by decide)
    change Except.ok (some (wks (Octets.word16 high low))) = _
    rw [word16_eq_sum]
    rfl
  · obtain ⟨octet, rfl⟩ := one (by decide)
    rfl
  · obtain ⟨octet, rfl⟩ := one (by decide)
    change Except.ok (some (rw (octet &&& 0x0f))) = _
    rw [fourBits]
    rfl
  · rfl
  · obtain ⟨octet, rfl⟩ := one (by decide)
    change Except.ok (some (opt (octet &&& 0x03))) = _
    rw [twoBits]
    rfl
  · obtain ⟨tid, uri, rfl⟩ := List.exists_cons_of_length_pos (asked rfl)
    rfl
  · obtain ⟨tid, sap, rfl⟩ := two (by decide)
    change Except.ok (some (sdres tid (sap &&& 0x3f))) = _
    rw [sixBits]
    rfl
  · unfold Entry.param?
    split <;> simp_all

theorem formed_of_decode {kind : UInt8} {value : Octets} {read : Option Param}
    (short : value.length ≤ 255) (decoded : decode kind value = .ok read) :
    Entry.Formed ⟨kind, value⟩ := by
  unfold decode at decoded
  split at decoded <;> try split at decoded
  -- one case for each kind that is known, and one for all others
  all_goals cases decoded
  all_goals constructor <;> simp_all

theorem param?_none_iff {entry : Entry} (formed : entry.Formed) :
    entry.param? = none ↔ entry.kind ∉ knownKinds := by
  constructor
  · intro silent known
    have read := decode_formed formed
    rw [silent] at read
    unfold decode at read
    split at read <;> try split at read
    -- a known kind is read as some parameter, so only the others are left
    all_goals cases read
    simp_all [knownKinds]
  · intro unknown
    have read := decode_formed formed
    unfold decode at read
    split at read
    all_goals simp_all [knownKinds]

theorem entry_front (kind length : UInt8) (rest : Octets) (enough : length.toNat ≤ rest.length) :
    kind :: length :: rest =
      Entry.octets ⟨kind, rest.take length.toNat⟩ ++ rest.drop length.toNat := by
  have size : (rest.take length.toNat).length = length.toNat := List.length_take_of_le enough
  have count : length.toNat.toUInt8 = length := UInt8.ofNat_toNat
  change _ = kind :: (rest.take length.toNat).length.toUInt8 ::
    (rest.take length.toNat ++ rest.drop length.toNat)
  rw [size, count, List.take_append_drop]

theorem parseAll_entries {entries : List Entry} (formed : ∀ entry ∈ entries, entry.Formed)
    (rest : Octets) :
    parseAll (entries.flatMap Entry.octets ++ rest) =
      (parseAll rest).map (entries.filterMap Entry.param? ++ ·) := by
  induction entries with
  | nil =>
    change parseAll rest = (parseAll rest).map id
    rw [Except.map_id]
    rfl
  | cons entry others ih =>
    obtain ⟨first, later⟩ := List.forall_mem_cons.mp formed
    have said : (entry :: others).filterMap Entry.param? =
        entry.param?.toList ++ others.filterMap Entry.param? := by
      rw [List.filterMap_eq_flatMap_toList, List.filterMap_eq_flatMap_toList, List.flatMap_cons]
    calc parseAll ((entry :: others).flatMap Entry.octets ++ rest)
        = parseAll (entry.octets ++ (others.flatMap Entry.octets ++ rest)) := by
          rw [List.flatMap_cons, List.append_assoc]
      _ = (parseAll (others.flatMap Entry.octets ++ rest)).map (entry.param?.toList ++ ·) :=
          parseAll_entry _ first.counted (decode_formed first)
      _ = (parseAll rest).map ((entry :: others).filterMap Entry.param? ++ ·) := by
          rw [ih later, said]
          cases parseAll rest with
          | error e => rfl
          | ok params => exact congrArg Except.ok (List.append_assoc _ _ _).symm

theorem entries_of_parseAll {bytes : Octets} {params : List Param}
    (read : parseAll bytes = .ok params) :
    ∃ entries : List Entry, bytes = entries.flatMap Entry.octets ∧
      ∀ entry ∈ entries, entry.Formed := by
  induction bytes using parseAll.induct generalizing params with
  | case1 => exact ⟨[], rfl, List.forall_mem_nil _⟩
  | case2 =>
    rw [parseAll] at read
    cases read
  | case3 kind length rest short =>
    rw [parseAll, if_pos short] at read
    cases read
  | case4 kind length rest long e unread =>
    rw [parseAll, if_neg long, unread] at read
    cases read
  | case5 kind length rest long param decoded ih =>
    rw [parseAll, if_neg long, decoded] at read
    cases tail : parseAll (rest.drop length.toNat) with
    | error e =>
      rw [tail] at read
      cases read
    | ok others =>
      obtain ⟨entries, laid, formed⟩ := ih tail
      have one : length.toNat < 256 := length.toNat_lt
      have size : (rest.take length.toNat).length ≤ 255 := by
        rw [List.length_take]
        omega
      have first := formed_of_decode size decoded
      refine ⟨⟨kind, rest.take length.toNat⟩ :: entries, ?_,
        List.forall_mem_cons.mpr ⟨first, formed⟩⟩
      rw [entry_front kind length rest (Nat.not_lt.mp long), laid]
      rfl

theorem parseAll_formed {entries : List Entry} (formed : ∀ entry ∈ entries, entry.Formed) :
    parseAll (entries.flatMap Entry.octets) = .ok (entries.filterMap Entry.param?) := by
  have read := parseAll_entries formed []
  rw [List.append_nil, parseAll] at read
  rw [read]
  exact congrArg Except.ok (List.append_nil _)

/-- A field is read exactly when it is entries laid one after the other, each of the length its kind
asks for, and the parameters read are what the entries say. An entry of the right length is read as
what it says, and says nothing only if its kind is unknown. What follows a field that was read is
read as if it stood alone, and is refused as if it stood alone. -/
theorem parseAll_grammar :
    (∀ (bytes : Octets) (params : List Param), parseAll bytes = .ok params ↔
      ∃ entries : List Entry, bytes = entries.flatMap Entry.octets ∧
        (∀ entry ∈ entries, entry.Formed) ∧ params = entries.filterMap Entry.param?) ∧
    (∀ entry : Entry, entry.Formed → decode entry.kind entry.value = .ok entry.param? ∧
      (entry.param? = none ↔ entry.kind ∉ knownKinds)) ∧
    ∀ (front : Octets) (params : List Param), parseAll front = .ok params →
      ∀ back : Octets, parseAll (front ++ back) = (parseAll back).map (params ++ ·) := by
  refine ⟨?_, ?_, ?_⟩
  · intro bytes params
    constructor
    · intro read
      obtain ⟨entries, laid, formed⟩ := entries_of_parseAll read
      rw [laid, parseAll_formed formed] at read
      cases read
      exact ⟨entries, laid, formed, rfl⟩
    · rintro ⟨entries, rfl, formed, rfl⟩
      exact parseAll_formed formed
  · intro entry formed
    exact ⟨decode_formed formed, param?_none_iff formed⟩
  · intro front params read back
    obtain ⟨entries, rfl, formed⟩ := entries_of_parseAll read
    rw [parseAll_formed formed] at read
    cases read
    exact parseAll_entries formed back

/-- A version, an entry that nobody knows and a name without octets, before a window and before the
beginning of one. -/
theorem parseAll_grammar_unknown :
    let front : Octets := [0x01, 0x01, 0x11, 0x42, 0x02, 0xaa, 0xbb, 0x06, 0x00]
    parseAll front = .ok [.version 1 1, .sn []] ∧
      parseAll (front ++ [0x05, 0x01, 0xf2]) = .ok [.version 1 1, .sn [], .rw 2] ∧
      parseAll (front ++ [0x05, 0x01]) = .error (.invalidLength 3 2) ∧
      decode 0x42 [0xaa, 0xbb] = .ok none := by
  intro front
  obtain ⟨reads, single, continues⟩ := parseAll_grammar
  let entries : List Entry := [⟨0x01, [0x11]⟩, ⟨0x42, [0xaa, 0xbb]⟩, ⟨0x06, []⟩]
  have first : Entry.Formed ⟨0x01, [0x11]⟩ := ⟨by decide, by decide, by decide, by decide⟩
  have second : Entry.Formed ⟨0x42, [0xaa, 0xbb]⟩ := ⟨by decide, by decide, by decide, by decide⟩
  have third : Entry.Formed ⟨0x06, []⟩ := ⟨by decide, by decide, by decide, by decide⟩
  have formed : ∀ entry ∈ entries, entry.Formed := by
    simp only [entries, List.forall_mem_cons]
    exact ⟨first, second, third, List.forall_mem_nil _⟩
  have read := (reads front [.version 1 1, .sn []]).mpr ⟨entries, rfl, formed, rfl⟩
  refine ⟨read, ?_, ?_, (single _ second).1⟩
  · rw [continues front _ read, parseAll_window]
    rfl
  · rw [continues front _ read, parseAll, if_pos (by decide)]
    rfl

end NearField.Llcp.Param
