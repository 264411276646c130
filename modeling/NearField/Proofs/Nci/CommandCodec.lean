import NearField.Proofs.Nci.Command
import NearField.Proofs.Nci.Response

/-!
Commands and the payloads they are read from. Main statement: a command that is a list is read from
exactly the payloads that start with the number of its entries and the entries in order, whatever
comes after them, so a payload that ends before its last entry does is refused.
-/

namespace NearField

namespace Rf

theorem find_code_iff {α : Type} {all : List α} {code : α → UInt8}
    (own : ∀ value, all.find? (code · == code value) = some value) {octet : UInt8} {value : α} :
    all.find? (code · == octet) = some value ↔ octet = code value := by
  constructor
  · intro found
    have test := List.find?_some found
    exact (eq_of_beq test).symm
  · rintro rfl
    exact own value

theorem Protocol.ofCode_ok_iff {octet : UInt8} {protocol : Protocol} :
    ofCode octet = .ok protocol ↔ octet = protocol.code := by
  have known : ofCode? octet = some protocol ↔ octet = protocol.code := find_code_iff ofCode?_code
  rw [← known, ofCode]
  cases ofCode? octet <;> simp

theorem TechMode.ofCode_ok_iff {octet : UInt8} {mode : TechMode} :
    ofCode octet = .ok mode ↔ octet = mode.code := by
  have known : ofCode? octet = some mode ↔ octet = mode.code := find_code_iff ofCode?_code
  rw [← known, ofCode]
  cases ofCode? octet <;> simp

theorem Interface.ofCode_ok_iff {octet : UInt8} {interface : Interface} :
    ofCode octet = .ok interface ↔ octet = interface.code := by
  have known : ofCode? octet = some interface ↔ octet = interface.code := find_code_iff ofCode?_code
  rw [← known, ofCode]
  cases ofCode? octet <;> simp

end Rf

namespace Nci

def DiscoverMapping.octets (mapping : DiscoverMapping) : Octets :=
  [mapping.protocol.code, mapping.mode, mapping.interface.code]

def DiscoverConfig.octets (config : DiscoverConfig) : Octets :=
  [config.techMode.code, config.frequency]

theorem DiscoverMapping.ofOctets_ok_iff {entry : Octets} (whole : entry.length = 3)
    (mapping : DiscoverMapping) : ofOctets entry = .ok mapping ↔ entry = mapping.octets := by
  match entry, whole with
  | [b0, b1, b2], _ =>
    change (Rf.Protocol.ofCode b0 >>= fun protocol => Rf.Interface.ofCode b2 >>= fun interface =>
      Except.ok (DiscoverMapping.mk protocol b1 interface)) = _ ↔ _
    simp only [bind_eq_ok_iff, Rf.Protocol.ofCode_ok_iff, Rf.Interface.ofCode_ok_iff]
    constructor
    · rintro ⟨protocol, rfl, interface, rfl, made⟩
      cases made
      rfl
    · intro written
      cases written
      exact ⟨_, rfl, _, rfl, rfl⟩

theorem DiscoverConfig.ofOctets_ok_iff {entry : Octets} (whole : entry.length = 2)
    (config : DiscoverConfig) : ofOctets entry = .ok config ↔ entry = config.octets := by
  match entry, whole with
  | [b0, b1], _ =>
    change (Rf.TechMode.ofCode b0 >>= fun techMode =>
      Except.ok (DiscoverConfig.mk techMode b1)) = _ ↔ _
    simp only [bind_eq_ok_iff, Rf.TechMode.ofCode_ok_iff]
    constructor
    · rintro ⟨techMode, rfl, made⟩
      cases made
      rfl
    · intro written
      cases written
      exact ⟨_, rfl, rfl⟩

theorem mapM_ok_iff {α : Type} {width : Nat} {read : Octets → Except Error α} {write : α → Octets}
    (reads : ∀ entry value, entry.length = width → (read entry = .ok value ↔ entry = write value))
    {entries : List Octets} (whole : ∀ entry ∈ entries, entry.length = width) {values : List α} :
    entries.mapM read = .ok values ↔ entries = values.map write := by
  induction entries generalizing values with
  | nil =>
    rw [List.mapM_nil, eq_comm (a := ([] : List Octets)), List.map_eq_nil_iff]
    change Except.ok [] = Except.ok values ↔ _
    rw [Except.ok.injEq, eq_comm]
  | cons entry entries ih =>
    obtain ⟨first, others⟩ := List.forall_mem_cons.mp whole
    rw [List.mapM_cons]
    change (read entry >>= fun value => entries.mapM read >>= fun rest =>
      Except.ok (value :: rest)) = _ ↔ _
    simp only [bind_eq_ok_iff, reads _ _ first, ih others]
    constructor
    · rintro ⟨value, rfl, rest, rfl, made⟩
      cases made
      rfl
    · intro written
      cases values with
      | nil => cases written
      | cons value rest =>
        cases written
        exact ⟨value, rfl, rest, rfl, rfl⟩

/-- A list of entries of one width is read from its count and the entries as they are written. -/
theorem entries_ok_iff {α : Type} {width : Nat} {read : Octets → Except Error α}
    {write : α → Octets}
    (reads : ∀ entry value, entry.length = width → (read entry = .ok value ↔ entry = write value))
    (sized : ∀ value, (write value).length = width)
    (listing : List α → Command) {payload : Octets} {command : Command} :
    (do
      let entries ← payload.countedEntries width
      return listing (← entries.mapM read)) = .ok command ↔
    ∃ values, command = listing values ∧ ∃ count rest,
      count.toNat = values.length ∧ payload = count :: (values.flatMap write ++ rest) := by
  change (payload.countedEntries width >>= fun entries => entries.mapM read >>= fun values =>
    Except.ok (listing values)) = _ ↔ _
  simp only [bind_eq_ok_iff, Octets.countedEntries_ok_iff]
  constructor
  · rintro ⟨entries, ⟨whole, count, rest, counted, rfl⟩, values, each, made⟩
    obtain rfl := (mapM_ok_iff reads whole).mp each
    cases made
    rw [List.length_map] at counted
    exact ⟨values, rfl, count, rest, counted, rfl⟩
  · rintro ⟨values, rfl, count, rest, counted, rfl⟩
    have whole : ∀ entry ∈ values.map write, entry.length = width := by
      simpa using fun value _ => sized value
    refine ⟨values.map write, ⟨whole, count, rest, ?_, rfl⟩, values,
      (mapM_ok_iff reads whole).mpr rfl, rfl⟩
    rw [counted, List.length_map]

namespace Command

def listing : List Opcode := [.coreSetConfig, .coreGetConfig, .rfDiscoverMap, .rfDiscover]

/-- A command that is a list and the octets that announce it: the number of its entries, then the
entries in order. -/
inductive Announced : Command → Octets → Prop where
  | params {count : UInt8} {params : List (UInt8 × Octets)} (counted : count.toNat = params.length)
      (short : ∀ param ∈ params, param.2.length < 256) :
      Announced (.coreSetConfig params)
        (count :: params.flatMap fun param => param.1 :: param.2.length.toUInt8 :: param.2)
  | ids {count : UInt8} {ids : List UInt8} (counted : count.toNat = ids.length) :
      Announced (.coreGetConfig ids) (count :: ids)
  | mappings {count : UInt8} {mappings : List DiscoverMapping}
      (counted : count.toNat = mappings.length) :
      Announced (.rfDiscoverMap mappings) (count :: mappings.flatMap DiscoverMapping.octets)
  | configs {count : UInt8} {configs : List DiscoverConfig}
      (counted : count.toNat = configs.length) :
      Announced (.rfDiscover configs) (count :: configs.flatMap DiscoverConfig.octets)

variable {opcode : Opcode} {command : Command} {payload octets : Octets}

theorem Announced.listed (announced : Announced command octets) : command.opcode ∈ listing := by
  cases announced <;> simp [listing, Command.opcode]

theorem Announced.unique {other : Octets} (announced : Announced command octets)
    (again : Announced command other) : octets = other := by
  have same {count recount : UInt8} {number : Nat} (first : count.toNat = number)
      (second : recount.toNat = number) : count = recount :=
    UInt8.toNat_inj.mp (first.trans second.symm)
  cases announced with
  | params counted _ =>
    cases again with
    | params recounted _ => rw [same counted recounted]
  | ids counted =>
    cases again with
    | ids recounted => rw [same counted recounted]
  | mappings counted =>
    cases again with
    | mappings recounted => rw [same counted recounted]
  | configs counted =>
    cases again with
    | configs recounted => rw [same counted recounted]

theorem decode_params_iff : decode .coreSetConfig payload = .ok command ↔
    command.opcode = .coreSetConfig ∧ ∃ octets rest, Announced command octets ∧
      payload = octets ++ rest := by
  change (payload.byteAt 0 >>= fun count => payload.taggedEntries 1 count.toNat >>= fun params =>
    Except.ok (Command.coreSetConfig params)) = _ ↔ _
  simp only [bind_eq_ok_iff]
  constructor
  · rintro ⟨count, first, params, read, made⟩
    cases made
    obtain ⟨others, rfl⟩ := (Octets.byteAt_behind_iff []).mp first
    obtain ⟨counted, short, rest, rfl⟩ := (Response.taggedEntries_ok_iff [count]).mp read
    exact ⟨rfl, _, rest, .params counted.symm short, rfl⟩
  · rintro ⟨named, octets, rest, announced, rfl⟩
    cases announced with
    | @params count params counted short =>
      exact ⟨count, rfl, params,
        (Response.taggedEntries_ok_iff [count]).mpr ⟨counted.symm, short, rest, rfl⟩, rfl⟩
    | _ => cases named

theorem decode_ids_iff : decode .coreGetConfig payload = .ok command ↔
    command.opcode = .coreGetConfig ∧ ∃ octets rest, Announced command octets ∧
      payload = octets ++ rest := by
  have reads (entry : Octets) (id : UInt8) (one : entry.length = 1) :
      entry.byteAt 0 = .ok id ↔ entry = [id] := by
    match entry, one with
    | [b0], _ => simp [Octets.byteAt]
  refine (entries_ok_iff reads (fun _ => rfl) .coreGetConfig).trans ?_
  constructor
  · rintro ⟨ids, rfl, count, rest, counted, rfl⟩
    rw [List.flatMap_singleton']
    exact ⟨rfl, _, rest, .ids counted, rfl⟩
  · rintro ⟨named, octets, rest, announced, rfl⟩
    cases announced with
    | @ids count ids counted =>
      refine ⟨ids, rfl, count, rest, counted, ?_⟩
      rw [List.flatMap_singleton', List.cons_append]
    | _ => cases named

theorem decode_mappings_iff : decode .rfDiscoverMap payload = .ok command ↔
    command.opcode = .rfDiscoverMap ∧ ∃ octets rest, Announced command octets ∧
      payload = octets ++ rest := by
  have reads (entry : Octets) (mapping : DiscoverMapping) (whole : entry.length = 3) :=
    DiscoverMapping.ofOctets_ok_iff whole mapping
  refine (entries_ok_iff reads (fun _ => rfl) .rfDiscoverMap).trans ?_
  constructor
  · rintro ⟨mappings, rfl, count, rest, counted, rfl⟩
    exact ⟨rfl, _, rest, .mappings counted, rfl⟩
  · rintro ⟨named, octets, rest, announced, rfl⟩
    cases announced with
    | @mappings count mappings counted => exact ⟨mappings, rfl, count, rest, counted, rfl⟩
    | _ => cases named

theorem decode_configs_iff : decode .rfDiscover payload = .ok command ↔
    command.opcode = .rfDiscover ∧ ∃ octets rest, Announced command octets ∧
      payload = octets ++ rest := by
  have reads (entry : Octets) (config : DiscoverConfig) (whole : entry.length = 2) :=
    DiscoverConfig.ofOctets_ok_iff whole config
  refine (entries_ok_iff reads (fun _ => rfl) .rfDiscover).trans ?_
  constructor
  · rintro ⟨configs, rfl, count, rest, counted, rfl⟩
    exact ⟨rfl, _, rest, .configs counted, rfl⟩
  · rintro ⟨named, octets, rest, announced, rfl⟩
    cases announced with
    | @configs count configs counted => exact ⟨configs, rfl, count, rest, counted, rfl⟩
    | _ => cases named

/-- A command that is a list is read from the octets that announce it, whatever comes after them,
and from no others. -/
theorem decode_listing_iff (listed : opcode ∈ listing) : decode opcode payload = .ok command ↔
    command.opcode = opcode ∧ ∃ octets rest, Announced command octets ∧
      payload = octets ++ rest := by
  simp only [listing, List.mem_cons, List.not_mem_nil, or_false] at listed
  obtain rfl | rfl | rfl | rfl := listed
  exacts [decode_params_iff, decode_ids_iff, decode_mappings_iff, decode_configs_iff]

theorem Announced.cut_unread (announced : Announced command octets) {cut : Nat}
    (short : cut < octets.length) : ∃ e, decode command.opcode (octets.take cut) = .error e := by
  cases read : decode command.opcode (octets.take cut) with
  | error e => exact ⟨e, rfl⟩
  | ok other =>
    have listed := announced.listed
    obtain ⟨named, less, rest, announces, front⟩ := (decode_listing_iff listed).mp read
    have whole : octets = less ++ (rest ++ octets.drop cut) := by
      rw [← List.append_assoc, ← front, List.take_append_drop]
    -- the whole octets announce both commands, so the shorter announcement is all of them
    have both := (decode_listing_iff listed).mpr ⟨named, less, _, announces, whole⟩
    rw [(decode_listing_iff listed).mpr ⟨rfl, octets, [], announced, by simp⟩] at both
    cases both
    have size := congrArg List.length front
    rw [announces.unique announced, List.length_take, List.length_append] at size
    omega

/-- Commands are read exactly. A list is read from its count and its entries in order, with whatever
comes after them, and from nothing else; in particular from no octets that end before its last entry
does. Whatever is read is a command of the opcode it was read for. -/
theorem decode_announced :
    (∀ opcode ∈ listing, ∀ (payload : Octets) (command : Command),
      decode opcode payload = .ok command ↔ command.opcode = opcode ∧
        ∃ octets rest, Announced command octets ∧ payload = octets ++ rest) ∧
    (∀ (command : Command) (octets : Octets), Announced command octets →
      ∀ cut < octets.length, ∃ e, decode command.opcode (octets.take cut) = .error e) ∧
    ∀ (opcode : Opcode) (payload : Octets) (command : Command),
      decode opcode payload = .ok command → command.opcode = opcode :=
  ⟨fun _ listed _ _ => decode_listing_iff listed, fun _ _ announced _ => announced.cut_unread,
    fun _ _ _ read => (readFrom_of_decode read).named⟩

/-- Two parameters to be set, one of them without a value, before an octet that nobody announced. -/
theorem decode_announced_padded :
    let command : Command := .coreSetConfig [(0x00, [0x0a, 0x0b]), (0x29, [])]
    let octets : Octets := [0x02, 0x00, 0x02, 0x0a, 0x0b, 0x29, 0x00]
    decode .coreSetConfig (octets ++ [0xff]) = .ok command ∧
      (∃ e, decode .coreSetConfig (octets.take 6) = .error e) ∧
      command.opcode = .coreSetConfig := by
  intro command octets
  obtain ⟨reads, cut, named⟩ := decode_announced
  have announced : Announced command octets := .params rfl (by decide)
  have read := (reads .coreSetConfig (by decide) (octets ++ [0xff]) command).mpr
    ⟨rfl, octets, [0xff], announced, rfl⟩
  exact ⟨read, cut command octets announced 6 (by decide), named _ _ _ read⟩

end Command

end Nci

end NearField
