import NearField.Proofs.Llcp.Param
import NearField.Proofs.Octets

/-!
Parameters written and read again. Main statement: what is written is read as the same parameters
in the same order, each with its fields cut to their width, and what was read once is written and
read again without a change.
-/

namespace NearField.Llcp.Param

/-- The parameter with every field cut to the bits that are written of it. -/
def normal : Param → Param
  | version major minor => version (major % 16) (minor % 16)
  | miux extension => miux (extension % 2048)
  | wks services => wks services
  | lto timeout => lto timeout
  | rw window => rw (window % 16)
  | sn name => sn name
  | opt serviceClass => opt (serviceClass % 4)
  | sdreq tid uri => sdreq tid uri
  | sdres tid sap => sdres tid (sap % 64)

/-- Names have no more octets than the length octet can count; it counts the transaction identifier
of a question too. -/
def Encodable : Param → Prop
  | sn name => name.length ≤ 255
  | sdreq _ uri => uri.length ≤ 254
  | _ => True

theorem encodable_iff (param : Param) : param.Encodable ↔ param.value.length ≤ 255 := by
  cases param with
  | sn name => exact Iff.rfl
  | sdreq tid uri => exact Nat.succ_le_succ_iff.symm
  | _ => simp [Encodable, value, Octets.ofWord16]

theorem elevenBits (word : UInt16) : word &&& 0x07ff = word % 2048 := by
  rw [← UInt16.toNat_inj, UInt16.toNat_and, UInt16.toNat_mod]
  exact Nat.and_two_pow_sub_one_eq_mod _ 11

theorem sixBits (octet : UInt8) : octet &&& 0x3f = octet % 64 := and_eq_mod octet 6 rfl rfl

theorem fourBits (octet : UInt8) : octet &&& 0x0f = octet % 16 := and_eq_mod octet 4 rfl rfl

theorem twoBits (octet : UInt8) : octet &&& 0x03 = octet % 4 := and_eq_mod octet 2 rfl rfl

theorem decode_value (param : Param) : decode param.kind param.value = .ok (some param.normal) := by
  cases param with
  | version major minor =>
    change Except.ok (some (version (highNibble _) (lowNibble _))) = _
    rw [highNibble_packNibbles, lowNibble_packNibbles, normal]
  | miux extension =>
    change Except.ok (some (miux (Octets.word16 _ _ &&& 0x07ff))) = _
    rw [Octets.word16_octets, UInt16.and_assoc, UInt16.and_self, elevenBits, normal]
  | wks services =>
    change Except.ok (some (wks (Octets.word16 _ _))) = _
    rw [Octets.word16_octets, normal]
  | lto timeout => rfl
  | rw window =>
    change Except.ok (some (rw (window &&& 0x0f &&& 0x0f))) = _
    rw [UInt8.and_assoc, UInt8.and_self, fourBits, normal]
  | sn name => rfl
  | opt serviceClass =>
    change Except.ok (some (opt (serviceClass &&& 0x03 &&& 0x03))) = _
    rw [UInt8.and_assoc, UInt8.and_self, twoBits, normal]
  | sdreq tid uri => rfl
  | sdres tid sap =>
    change Except.ok (some (sdres tid (sap &&& 0x3f &&& 0x3f))) = _
    rw [UInt8.and_assoc, UInt8.and_self, sixBits, normal]

theorem of_decode {kind : UInt8} {value : Octets} {param : Param}
    (read : decode kind value = .ok (some param)) :
    param.value.length = value.length ∧ param.normal = param := by
  unfold decode at read
  split at read <;> try split at read
  -- one case for each kind that is known, in the order of the kinds
  all_goals cases read
  · rename_i octet
    refine ⟨rfl, ?_⟩
    rw [normal, mod_of_lt (highNibble_lt octet), mod_of_lt (lowNibble_lt octet)]
  · refine ⟨rfl, ?_⟩
    rw [normal, ← elevenBits, UInt16.and_assoc, UInt16.and_self]
  · exact ⟨rfl, rfl⟩
  · exact ⟨rfl, rfl⟩
  · rename_i octet
    refine ⟨rfl, ?_⟩
    rw [normal, fourBits, mod_mod]
  · exact ⟨rfl, rfl⟩
  · rename_i octet
    refine ⟨rfl, ?_⟩
    rw [normal, twoBits, mod_mod]
  · exact ⟨rfl, rfl⟩
  · rename_i tid sap
    refine ⟨rfl, ?_⟩
    rw [normal, sixBits, mod_mod]

theorem decode_encodable {kind : UInt8} {value : Octets} {param : Param}
    (short : value.length ≤ 255) (read : decode kind value = .ok (some param)) :
    param.Encodable ∧ param.normal = param := by
  obtain ⟨size, settled⟩ := of_decode read
  rw [encodable_iff, size]
  exact ⟨short, settled⟩

theorem encode_of_encodable {param : Param} (short : param.Encodable) :
    param.encode = .ok (param.kind :: param.value.length.toUInt8 :: param.value) := by
  rw [encodable_iff] at short
  rw [encode, if_neg (by omega)]

theorem parseAll_entry {kind : UInt8} {value : Octets} (rest : Octets)
    (short : value.length ≤ 255) {param : Option Param} (read : decode kind value = .ok param) :
    parseAll (kind :: value.length.toUInt8 :: (value ++ rest)) =
      (parseAll rest).map (param.toList ++ ·) := by
  have count : value.length.toUInt8.toNat = value.length := by
    simp only [Nat.toUInt8_eq, UInt8.toNat_ofNat']
    omega
  have enough : ¬(value ++ rest).length < value.length := by
    rw [List.length_append]
    omega
  rw [parseAll, count, if_neg enough, List.take_left, List.drop_left, read]

theorem encodeAll_ok_iff (params : List Param) :
    (∃ bytes, encodeAll params = .ok bytes) ↔ ∀ param ∈ params, param.Encodable := by
  induction params with
  | nil =>
    rw [encodeAll]
    simp
  | cons param rest ih =>
    rw [List.forall_mem_cons, ← ih, encodeAll]
    constructor
    · rintro ⟨bytes, encoded⟩
      cases head : param.encode with
      | error e =>
        rw [head] at encoded
        cases encoded
      | ok first =>
        rw [head] at encoded
        cases tail : encodeAll rest with
        | error e =>
          rw [tail] at encoded
          cases encoded
        | ok others =>
          refine ⟨?_, others, rfl⟩
          rw [encodable_iff]
          by_contra long
          rw [encode, if_pos (Nat.not_le.mp long)] at head
          cases head
    · rintro ⟨short, others, tail⟩
      rw [encode_of_encodable short, tail]
      exact ⟨_, rfl⟩

/-- What is written is read as it was, parameter by parameter. -/
theorem parseAll_encodeAll {params : List Param} {bytes : Octets}
    (encoded : encodeAll params = .ok bytes) : parseAll bytes = .ok (params.map normal) := by
  induction params generalizing bytes with
  | nil =>
    cases encoded
    rw [parseAll]
    rfl
  | cons param rest ih =>
    obtain ⟨short, others⟩ := List.forall_mem_cons.mp ((encodeAll_ok_iff _).mp ⟨bytes, encoded⟩)
    obtain ⟨tail, later⟩ := (encodeAll_ok_iff rest).mpr others
    rw [encodeAll, encode_of_encodable short, later] at encoded
    cases encoded
    have size := (encodable_iff param).mp short
    have first := parseAll_entry tail size param.decode_value
    rw [ih later] at first
    exact first

theorem activationTail_read : ∃ params,
    activationTail = [0x46, 0x66, 0x6d] ++ params ∧
      parseAll params = .ok [.version 1 1, .wks 0x0013, .lto 100] := by
  have encoded : encodeAll [.version 1 1, .wks 0x0013, .lto 100] =
      .ok [0x01, 0x01, 0x11, 0x03, 0x02, 0x00, 0x13, 0x04, 0x01, 0x64] := rfl
  exact ⟨_, rfl, parseAll_encodeAll encoded⟩

theorem parseAll_encodable {bytes : Octets} {params : List Param}
    (read : parseAll bytes = .ok params) :
    ∀ param ∈ params, param.Encodable ∧ param.normal = param := by
  refine forall_parseAll ?_ read
  intro kind value param short decoded
  exact decode_encodable short decoded

/-- A list of parameters is written unless a name in it is too long, and what is written is read as
the same list with every field cut to its width. A list that was read is written and read again as
it is. -/
theorem codec_normalises :
    (∀ params : List Param,
      (∃ bytes, encodeAll params = .ok bytes) ↔ ∀ param ∈ params, param.Encodable) ∧
    (∀ (params : List Param) (bytes : Octets), encodeAll params = .ok bytes →
      parseAll bytes = .ok (params.map normal)) ∧
    ∀ (bytes : Octets) (params : List Param), parseAll bytes = .ok params →
      ∃ again, encodeAll params = .ok again ∧ parseAll again = .ok params := by
  refine ⟨encodeAll_ok_iff, fun params bytes => parseAll_encodeAll, ?_⟩
  intro bytes params read
  have settled := parseAll_encodable read
  obtain ⟨again, encoded⟩ :=
    (encodeAll_ok_iff params).mpr fun param inside => (settled param inside).1
  have same : params.map normal = params :=
    List.map_congr_left (fun param inside => (settled param inside).2) |>.trans params.map_id
  refine ⟨again, encoded, ?_⟩
  rw [parseAll_encodeAll encoded, same]

/-- The longest names there are, between parameters that lose bits. -/
theorem longest_names_read :
    let params : List Param := [.miux 0xffff, .sn (List.replicate 255 0x61), .version 0x11 0x22,
      .sdreq 0x01 (List.replicate 254 0x62), .sdres 0x01 0xff]
    ∃ bytes, encodeAll params = .ok bytes ∧
      parseAll bytes = .ok [.miux 0x07ff, .sn (List.replicate 255 0x61), .version 0x01 0x02,
        .sdreq 0x01 (List.replicate 254 0x62), .sdres 0x01 0x3f] := by
  intro params
  have short : ∀ param ∈ params, param.Encodable := by
    simp only [params, List.forall_mem_cons, Encodable, List.length_replicate]
    simp
  obtain ⟨bytes, encoded⟩ := (codec_normalises.1 params).mpr short
  exact ⟨bytes, encoded, codec_normalises.2.1 params bytes encoded⟩

end NearField.Llcp.Param
