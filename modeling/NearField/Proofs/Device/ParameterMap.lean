import NearField.Proofs.Device.Answer
import NearField.Proofs.Device.Command
import NearField.Proofs.Device.Configuration
import NearField.Proofs.Nci.Response

/-!
The configuration of a device as a map that the host fills. Main statement: after any use of a new
device each parameter has the value that was last set and taken since the configuration was
cleared, and a command that sets or asks for parameters is answered accordingly.
-/

namespace NearField.Device

open Nci (Command Packet Response.coreGetConfig Response.entries Response.status Status maxPayload)

/-- A parameter entry is taken if its identifier is known and its value fits the place. -/
def accepted (entry : UInt8 × Octets) : Bool :=
  (paramPlace? entry.1).any fun place => entry.2.length ≤ place.maxLength

def refused (entries : List (UInt8 × Octets)) : List UInt8 :=
  (entries.filter fun entry => !accepted entry).map Prod.fst

/-- What a parameter is after some entries: the last value of it that was taken, or empty if there
is none. -/
def latest (entries : List (UInt8 × Octets)) (id : UInt8) : Option Octets :=
  (paramPlace? id).map fun _ =>
    ((entries.filter fun entry => entry.1 = id ∧ accepted entry).getLast?.map Prod.snd).getD []

/-- The entries that count after an operation: none once the configuration is cleared, and those of
a command to set parameters if the device is initialised. -/
def entriesAfter (device : Device) (entries : List (UInt8 × Octets)) :
    DeviceOperation → List (UInt8 × Octets)
  | .nci bytes =>
    match commandIn? bytes with
    | some (.coreReset resetType) => if resetType = 0x01 then [] else entries
    | some (.coreSetConfig params) =>
      if device.state = .initialized then entries ++ params else entries
    | _ => entries
  | _ => entries

def history (device : Device) (entries : List (UInt8 × Octets)) :
    List DeviceOperation → List (UInt8 × Octets)
  | [] => entries
  | operation :: operations =>
    history (device.operate operation) (device.entriesAfter entries operation) operations

/-- What is answered when parameters are asked for: the value of each, or the identifiers that are
unknown if there are any, with empty values. -/
def report (setting : UInt8 → Option Octets) (ids : List UInt8) : Status × List (UInt8 × Octets) :=
  match ids.mapM fun id => (setting id).map (id, ·) with
  | some entries => (.ok, entries)
  | none => (.invalidParam, (ids.filter fun id => (setting id).isNone).map (·, []))

/-- The response that reports entries: they are read back from behind their count, or there is
nothing but a status because they are too long for a payload. -/
inductive Reports (status : Status) (entries : List (UInt8 × Octets)) : Packet → Prop where
  | whole {count : UInt8} (fits : 2 + (Response.entries entries).length ≤ 255)
      (counted : count.toNat = entries.length)
      (read : Octets.taggedEntries (status.code :: count :: Response.entries entries) 2
        entries.length = .ok entries) :
      Reports status entries
        (.response .coreGetConfig (status.code :: count :: Response.entries entries))
  | tooLong (exceeds : 255 < 2 + (Response.entries entries).length) :
      Reports status entries (.response .coreGetConfig [Status.rejected.code])

def reportPacket (found : Status × List (UInt8 × Octets)) : Packet :=
  if maxPayload < 2 + (Response.entries found.2).length then
    Response.status .coreGetConfig Status.rejected.code
  else Response.coreGetConfig found.1.code found.2

section Storing

variable {configuration : Configuration} {entries : List (UInt8 × Octets)}

def Configuration.Tracks (configuration : Configuration) (entries : List (UInt8 × Octets)) : Prop :=
  ∀ id, configuration.param id = latest entries id

theorem accepted_iff {id : UInt8} {value : Octets} :
    accepted (id, value) ↔
      ∃ place, paramPlace? id = some place ∧ value.length ≤ place.maxLength := by
  simp [accepted, Option.any_eq_true]

theorem latest_other {entry : UInt8 × Octets} {id : UInt8}
    (apart : ¬(entry.1 = id ∧ accepted entry)) :
    latest (entries ++ [entry]) id = latest entries id := by
  have dropped : [entry].filter (fun entry => entry.1 = id ∧ accepted entry) = [] := by
    simpa using apart
  rw [latest, latest, List.filter_append, dropped, List.append_nil]

theorem latest_taken {entry : UInt8 × Octets} {place : ParamPlace} (taken : accepted entry)
    (found : paramPlace? entry.1 = some place) :
    latest (entries ++ [entry]) entry.1 = some entry.2 := by
  rw [latest, found, List.filter_append]
  simp [taken]

theorem blank_tracks : Configuration.blank.Tracks [] := by
  intro id
  rw [latest]
  cases found : paramPlace? id with
  | none => exact Configuration.param_unknown _ found
  | some place => exact Configuration.param_blank found

theorem setParam_taken (configuration : Configuration) {entry : UInt8 × Octets}
    (taken : accepted entry) :
    ∃ stored, configuration.setParam entry.1 entry.2 = .ok stored ∧
      stored.param entry.1 = some entry.2 ∧
      ∀ id, entry.1 ≠ id → stored.param id = configuration.param id := by
  obtain ⟨place, found, short⟩ := accepted_iff.mp taken
  exact ⟨_, configuration.setParam_ok found short, configuration.param_stored found short,
    fun _ => configuration.param_other found short⟩

theorem setParam_tracks {entry : UInt8 × Octets} (tracks : configuration.Tracks entries)
    (taken : accepted entry) :
    ∃ stored, configuration.setParam entry.1 entry.2 = .ok stored ∧
      stored.Tracks (entries ++ [entry]) := by
  obtain ⟨place, found, _⟩ := accepted_iff.mp taken
  obtain ⟨stored, done, own, others⟩ := setParam_taken configuration taken
  refine ⟨stored, done, fun id => ?_⟩
  by_cases same : entry.1 = id
  · rw [← same, latest_taken taken found]
    exact own
  · rw [latest_other fun both => same both.1, ← tracks id]
    exact others id same

theorem setParam_refused (configuration : Configuration) {entry : UInt8 × Octets}
    (dropped : ¬accepted entry) :
    ∃ e, configuration.setParam entry.1 entry.2 = .error e := by
  refine configuration.setParam_error_iff.mpr fun place found => ?_
  by_contra short
  exact dropped (accepted_iff.mpr ⟨place, found, Nat.not_lt.mp short⟩)

/-- Parameters are stored one by one: those that are refused are listed, and the others count
nevertheless. -/
theorem storeParams_tracks (params : List (UInt8 × Octets))
    (tracks : configuration.Tracks entries) :
    (storeParams configuration params).1 = refused params ∧
      (storeParams configuration params).2.Tracks (entries ++ params) := by
  induction params generalizing configuration entries with
  | nil =>
    rw [List.append_nil]
    exact ⟨rfl, tracks⟩
  | cons entry params ih =>
    rw [List.append_cons, storeParams]
    by_cases taken : accepted entry
    · obtain ⟨stored, done, tracks⟩ := setParam_tracks tracks taken
      obtain ⟨listed, after⟩ := ih tracks
      rw [done]
      exact ⟨by simpa [refused, taken] using listed, after⟩
    · obtain ⟨e, failed⟩ := setParam_refused configuration taken
      have unchanged : configuration.Tracks (entries ++ [entry]) := by
        intro id
        rw [latest_other fun both => taken both.2]
        exact tracks id
      obtain ⟨listed, after⟩ := ih unchanged
      rw [failed]
      exact ⟨by simpa [refused, taken] using listed, after⟩

end Storing

section Runs

variable {device : Device} {entries : List (UInt8 × Octets)}

theorem operate_tracks (tracks : device.configuration.Tracks entries)
    (operation : DeviceOperation) :
    (device.operate operation).configuration.Tracks (device.entriesAfter entries operation) := by
  cases operation with
  | hci bytes =>
    obtain ⟨pipes, after⟩ := device.processHci_pipes bytes
    rw [operate, after]
    exact tracks
  | deliver content room =>
    rw [operate, (device.deliver_retains content room).configuration]
    exact tracks
  | nci bytes =>
    rw [operate, entriesAfter]
    cases held : commandIn? bytes with
    | none =>
      rw [(device.processNci_retains held).configuration]
      exact tracks
    | some command =>
      rw [processNci_command held, execute_configuration]
      cases command with
      | coreReset resetType =>
        dsimp only
        split
        · exact blank_tracks
        · exact tracks
      | coreSetConfig params =>
        dsimp only
        split
        · exact (storeParams_tracks params tracks).2
        · exact tracks
      | _ => exact tracks

theorem operateAll_tracks (tracks : device.configuration.Tracks entries)
    (operations : List DeviceOperation) :
    (device.operateAll operations).configuration.Tracks (device.history entries operations) := by
  induction operations generalizing device entries with
  | nil => exact tracks
  | cons operation operations ih => exact ih (operate_tracks tracks operation)

end Runs

section Answers

variable {device : Device} {entries : List (UInt8 × Octets)} {bytes : Octets}

theorem set_replied (ready : device.state = .initialized) {params : List (UInt8 × Octets)}
    (held : commandIn? bytes = some (.coreSetConfig params)) {invalid : List UInt8}
    {configuration : Configuration}
    (stored : storeParams device.configuration params = (invalid, configuration)) :
    invalid.length < 256 ∧ ∃ answer,
      device.processNci bytes = (some answer, { device with configuration }) ∧
        answer.Carries (.response .coreSetConfig
          ((if invalid = [] then Status.ok else .invalidParam).code :: invalid.length.toUInt8 ::
            invalid)) := by
  obtain ⟨_, _, _, payload, read, understood⟩ := commandIn?_some held
  have few : 1 + 2 * params.length ≤ 255 :=
    Nat.le_trans ((Nci.Command.readFrom_of_decode understood).sized params rfl)
      (Packet.bounds_of_decode read).2
  have fewer : invalid.length ≤ params.length := by
    have listed := storeParams_length device.configuration params
    rw [stored] at listed
    exact listed
  have fits : (invalid.length.toUInt8 :: invalid).length < maxPayload := by
    rw [List.length_cons, maxPayload]
    omega
  obtain ⟨answer, replied, carries, _⟩ := sends_response .coreSetConfig
    (if invalid = [] then Status.ok else .invalidParam) fits none
  refine ⟨by omega, answer, ?_, carries⟩
  rw [processNci_command held, execute_coreSetConfig ready, coreSetConfig]
  simp only [stored, List.isEmpty_iff]
  exact congrArg (·, { device with configuration }) replied

theorem set_answered (tracks : device.configuration.Tracks entries)
    (ready : device.state = .initialized) {params : List (UInt8 × Octets)}
    (held : commandIn? bytes = some (.coreSetConfig params)) :
    ∃ answer count, (device.processNci bytes).1 = some answer ∧
      answer.Carries (.response .coreSetConfig
        ((if refused params = [] then Status.ok else .invalidParam).code :: count ::
          refused params)) ∧
      count.toNat = (refused params).length := by
  have stored := (storeParams_tracks params tracks).1
  obtain ⟨few, answer, replied, carries⟩ := set_replied ready held (Prod.ext stored rfl)
  exact ⟨answer, _, congrArg Prod.fst replied, carries, UInt8.toNat_ofNat_of_lt' few⟩

theorem report_eq (setting : UInt8 → Option Octets) (ids : List UInt8) :
    report setting ids =
      if (ids.filter fun id => (setting id).isNone).isEmpty then
        (Status.ok, ids.filterMap fun id => (setting id).map (id, ·))
      else (.invalidParam, (ids.filter fun id => (setting id).isNone).map (·, [])) := by
  have collected : (ids.mapM fun id => (setting id).map (id, ·)) =
      if (ids.filter fun id => (setting id).isNone).isEmpty then
        some (ids.filterMap fun id => (setting id).map (id, ·))
      else none := by
    induction ids with
    | nil => rfl
    | cons id ids ih =>
      rw [List.mapM_cons, ih]
      cases value : setting id with
      | none => simp [value]
      | some octets =>
        simp only [List.filter_cons, List.filterMap_cons, value, Option.map_some,
          Option.isNone_some, Bool.false_eq_true, if_false]
        cases (ids.filter fun id => (setting id).isNone).isEmpty <;> rfl
  rw [report, collected]
  cases (ids.filter fun id => (setting id).isNone).isEmpty <;> rfl

/-- Asking for parameters is answered by a report of what they are, and changes nothing. -/
theorem get_replied (ready : device.state = .initialized) {ids : List UInt8}
    (held : commandIn? bytes = some (.coreGetConfig ids)) :
    ∃ answer, device.processNci bytes = (some answer, device) ∧
      answer.Carries (reportPacket (report device.configuration.param ids)) := by
  have reported := report_eq device.configuration.param ids
  rw [processNci_command held, execute_coreGetConfig ready, coreGetConfig]
  simp only [← reported]
  generalize report device.configuration.param ids = found
  obtain ⟨status, listed⟩ := found
  rw [reportPacket]
  dsimp only
  split
  · have bare : ([] : Octets).length < maxPayload := by decide
    obtain ⟨answer, replied, carries, _⟩ := sends_response .coreGetConfig .rejected bare none
    exact ⟨answer, congrArg (·, device) replied, carries⟩
  · rename_i fits
    rw [maxPayload] at fits
    have fits' : (listed.length.toUInt8 :: Response.entries listed).length < maxPayload := by
      rw [List.length_cons, maxPayload]
      omega
    obtain ⟨answer, replied, carries, _⟩ := sends_response .coreGetConfig status fits' none
    exact ⟨answer, congrArg (·, device) replied, carries⟩

theorem entries_small {listed : List (UInt8 × Octets)}
    (fits : 2 + (Response.entries listed).length ≤ maxPayload) :
    listed.length < 256 ∧ ∀ entry ∈ listed, entry.2.length < 256 := by
  obtain ⟨two, within⟩ := Nci.Response.entries_sized listed
  rw [maxPayload] at fits
  refine ⟨by omega, fun entry inside => ?_⟩
  have := within entry inside
  omega

theorem reportPacket_reports (status : Status) (listed : List (UInt8 × Octets)) :
    Reports status listed (reportPacket (status, listed)) := by
  rw [reportPacket]
  split
  · rename_i exceeds
    exact .tooLong exceeds
  · rename_i fits
    obtain ⟨few, little⟩ := entries_small (Nat.not_lt.mp fits)
    have read := Nci.Response.taggedEntries_entries [status.code, listed.length.toUInt8] [] little
    rw [List.append_nil] at read
    exact .whole (Nat.not_lt.mp fits) (UInt8.toNat_ofNat_of_lt' few) read

theorem get_answered (tracks : device.configuration.Tracks entries)
    (ready : device.state = .initialized) {ids : List UInt8}
    (held : commandIn? bytes = some (.coreGetConfig ids)) :
    ∃ answer packet, (device.processNci bytes).1 = some answer ∧ answer.Carries packet ∧
      Reports (report (latest entries) ids).1 (report (latest entries) ids).2 packet := by
  have setting : device.configuration.param = latest entries := funext tracks
  obtain ⟨answer, replied, carries⟩ := get_replied ready held
  rw [setting] at carries
  exact ⟨answer, _, congrArg Prod.fst replied, carries, reportPacket_reports _ _⟩

end Answers

/-- The configuration of a device that was put to any use is the map that its history describes,
and answers what that map says. -/
theorem configuration_is_map (endpoints : List Endpoint) (operations : List DeviceOperation) :
    let device := (ofEndpoints endpoints).operateAll operations
    let entries := (ofEndpoints endpoints).history [] operations
    (∀ id, device.configuration.param id = latest entries id) ∧
    (device.state = .initialized → ∀ bytes params,
      commandIn? bytes = some (.coreSetConfig params) →
        ∃ answer count, (device.processNci bytes).1 = some answer ∧
          answer.Carries (.response .coreSetConfig
            ((if refused params = [] then Status.ok else .invalidParam).code :: count ::
              refused params)) ∧
          count.toNat = (refused params).length) ∧
    (device.state = .initialized → ∀ bytes ids,
      commandIn? bytes = some (.coreGetConfig ids) →
        ∃ answer packet, (device.processNci bytes).1 = some answer ∧ answer.Carries packet ∧
          Reports (report (latest entries) ids).1 (report (latest entries) ids).2 packet) := by
  intro device entries
  have new : (ofEndpoints endpoints).configuration.Tracks [] := blank_tracks
  have tracks : device.configuration.Tracks entries := operateAll_tracks new operations
  exact ⟨tracks, fun ready _ _ held => set_answered tracks ready held,
    fun ready _ _ held => get_answered tracks ready held⟩

/-- One entry is unknown and one too long; the two others count, the later over the earlier. -/
theorem refused_among_taken :
    let operations : List DeviceOperation :=
      [.nci [0x20, 0x00, 0x01, 0x01], .nci [0x20, 0x01, 0x00],
        .nci [0x20, 0x02, 0x10, 0x04, 0x29, 0x03, 0x46, 0x66, 0x6d, 0x99, 0x01, 0x00, 0x01, 0x02,
          0x05, 0x05, 0x29, 0x01, 0x46]]
    let device := (ofEndpoints []).operateAll operations
    device.state = .initialized ∧ device.configuration.param 0x29 = some [0x46] ∧
      ∃ answer packet, (device.processNci [0x20, 0x03, 0x03, 0x02, 0x29, 0x99]).1 = some answer ∧
        answer.Carries packet ∧ Reports .invalidParam [(0x99, [])] packet := by
  intro operations device
  have ready : device.state = .initialized := by decide +kernel
  obtain ⟨values, _, asked⟩ := configuration_is_map [] operations
  have stored : latest ((ofEndpoints []).history [] operations) 0x29 = some [0x46] := by
    decide +kernel
  have reported : report (latest ((ofEndpoints []).history [] operations)) [0x29, 0x99] =
      (.invalidParam, [(0x99, [])]) := by decide +kernel
  have answered := asked ready [0x20, 0x03, 0x03, 0x02, 0x29, 0x99] [0x29, 0x99] (by decide +kernel)
  rw [reported] at answered
  exact ⟨ready, (values 0x29).trans stored, answered⟩

end NearField.Device
