import NearField.Proofs.Checked.Configuration
import NearField.Proofs.Checked.Hci
import NearField.Proofs.Checked.LogicalLink
import NearField.Proofs.Checked.Nci
import NearField.Proofs.Device.Answer

/-!
The device with every access, sum and counter checked. Main statements: packets, messages and
deliveries are carried out without a fault as long as the link in use is steady and the stored
parameters are short, and carrying them out keeps both.
-/

namespace NearField

open Llcp (LogicalLink)

namespace Rf.Table

def checkedRemap (table : Table) (mapping : Nci.DiscoverMapping) : Checked Table := do
  let _ ← table.slots.foldlM
    (fun changed slot => if slot.coveredBy mapping then Size.add changed 1 else pure changed) 0
  return table.remap mapping

theorem checkedRemap_eq (table : Table) (mapping : Nci.DiscoverMapping) :
    table.checkedRemap mapping = pure (table.remap mapping) := by
  -- the count never exceeds the slots that were passed
  have count : ∀ (slots : List Slot) (changed : Nat), changed + slots.length < 65536 →
      ∃ total, slots.foldlM (fun changed slot =>
        if slot.coveredBy mapping then Size.add changed 1 else pure changed) changed =
          (pure total : Checked Nat) := by
    intro slots
    induction slots with
    | nil => exact fun changed _ => ⟨changed, rfl⟩
    | cons slot slots ih =>
      intro changed small
      rw [List.length_cons] at small
      rw [List.foldlM_cons]
      split
      · rw [Size.add_small (by omega), pure_bind]
        exact ih (changed + 1) (by omega)
      · rw [pure_bind]
        exact ih changed (by omega)
  have slots : slotCount = 8 := rfl
  obtain ⟨total, eq⟩ := count table.slots 0 (by rw [table.length_slots]; omega)
  rw [checkedRemap, eq, pure_bind]

end Rf.Table

namespace Device

open Nci

def checkedReplyLeaving (packet : Packet) (delivery : Option Delivery) :
    Checked (Option NciAnswer) := do
  match ← packet.checkedEncode.run with
  | .error _ => return none
  | .ok response => return some { response, delivery }

def checkedReply (packet : Packet) : Checked (Option NciAnswer) := checkedReplyLeaving packet none

def checkedReplyStatus (opcode : Opcode) (status : Status) : Checked (Option NciAnswer) :=
  checkedReply (Response.status opcode status.code)

theorem checkedReplyLeaving_eq {packet : Packet} (short : packet.payload.length < 65533)
    (delivery : Option Delivery) :
    checkedReplyLeaving packet delivery = pure (replyLeaving packet delivery) := by
  rw [checkedReplyLeaving, Packet.checkedEncode_eq _ short, run_settled, pure_bind, replyLeaving]
  cases packet.encode <;> rfl

theorem checkedReply_eq {packet : Packet} (short : packet.payload.length < 65533) :
    checkedReply packet = pure (reply packet) := checkedReplyLeaving_eq short none

theorem checkedReplyStatus_eq (opcode : Opcode) (status : Status) :
    checkedReplyStatus opcode status = pure (replyStatus opcode status) :=
  checkedReply_eq (by decide : 1 < 65533)

/-! ### Commands -/

def checkedCoreInit (device : Device) : Checked (Option NciAnswer × Device) := do
  let packet ← Response.checkedCoreInit Status.ok.code supportedInterfaces maxConnections
  return (← checkedReply packet, { device with state := .initialized })

def checkedStoreParams (configuration : Configuration) :
    List (UInt8 × Octets) → Checked (List UInt8 × Configuration)
  | [] => return ([], configuration)
  | (id, value) :: rest => do
    match ← (configuration.checkedSetParam id value).run with
    | .ok stored => checkedStoreParams stored rest
    | .error _ =>
      let (invalid, final) ← checkedStoreParams configuration rest
      return (id :: invalid, final)

def checkedCoreSetConfig (device : Device) (params : List (UInt8 × Octets)) :
    Checked (Option NciAnswer × Device) := do
  let (invalid, configuration) ← checkedStoreParams device.configuration params
  let status : Status := if invalid.isEmpty then .ok else .invalidParam
  let answer ← checkedReply (Response.coreSetConfig status.code invalid)
  return (answer, { device with configuration })

def checkedLookUp (configuration : Configuration) :
    List UInt8 → Checked (List (UInt8 × Octets) × List UInt8)
  | [] => return ([], [])
  | id :: rest => do
    let found ← configuration.checkedParam id
    let (known, unknown) ← checkedLookUp configuration rest
    match found with
    | some value => return ((id, value) :: known, unknown)
    | none => return (known, id :: unknown)

def checkedAnswerParams (status : Status) (entries : List (UInt8 × Octets)) :
    Checked (Option NciAnswer) := do
  let length ← Response.checkedEntriesLength entries
  if maxPayload < length then checkedReplyStatus .coreGetConfig .rejected
  else checkedReply (Response.coreGetConfig status.code entries)

def checkedCoreGetConfig (device : Device) (ids : List UInt8) : Checked (Option NciAnswer) := do
  let (known, unknown) ← checkedLookUp device.configuration ids
  if unknown.isEmpty then checkedAnswerParams .ok known
  else checkedAnswerParams .invalidParam (unknown.map (·, []))

def checkedRfDiscoverMap (device : Device) (mappings : List DiscoverMapping) :
    Checked (Option NciAnswer × Device) := do
  if mappings.all fun mapping => supportedInterfaces.contains mapping.interface then
    let rf ← mappings.foldlM Rf.Table.checkedRemap device.rf
    return (← checkedReplyStatus .rfDiscoverMap .ok, { device with rf })
  else return (← checkedReplyStatus .rfDiscoverMap .rejected, device)

def checkedRfDiscover (device : Device) (configs : List DiscoverConfig) :
    Checked (Option NciAnswer × Device) := do
  if device.rfState ≠ .idle then return (← checkedReplyStatus .rfDiscover .semanticError, device)
  else
    match device.discovered configs with
    | none =>
      return (← checkedReplyStatus .rfDiscover .ok, { device with rfState := .discovery })
    | some activation =>
      let device := ({ device with rfState := .discovery }.activate activation).countActivation
      let answer ← checkedReplyLeaving (Response.status .rfDiscover Status.ok.code)
        (some ⟨.notification, .activated activation device.lastId⟩)
      return (answer, device)

def checkedRfDeactivate (device : Device) (deactivation : UInt8) :
    Checked (Option NciAnswer × Device) := do
  if device.rfState = .idle then
    return (← checkedReplyStatus .rfDeactivate .semanticError, device)
  else
    let delivery :=
      if device.active.isSome then some ⟨.notification, .deactivated deactivation 0x00⟩ else none
    let answer ← checkedReplyLeaving (Response.status .rfDeactivate Status.ok.code) delivery
    return (answer,
      { device.deactivate with rfState := if deactivation = 0x03 then .discovery else .idle })

def checkedExecute (device : Device) (command : Command) :
    Checked (Option NciAnswer × Device) := do
  match command with
  | .coreReset resetType =>
    let clear := resetType = 0x01
    return (← checkedReply (Response.coreReset Status.ok.code clear), device.reset clear)
  | .coreInit =>
    if device.state = .reset then device.checkedCoreInit
    else return (← checkedReplyStatus .coreInit .semanticError, device)
  | command =>
    if device.state ≠ .initialized then
      return (← checkedReplyStatus command.opcode .notInitialized, device)
    else
      match command with
      | .coreSetConfig params => device.checkedCoreSetConfig params
      | .coreGetConfig ids => return (← device.checkedCoreGetConfig ids, device)
      | .rfDiscoverMap mappings => device.checkedRfDiscoverMap mappings
      | .rfDiscover configs => device.checkedRfDiscover configs
      | .rfDeactivate deactivation => device.checkedRfDeactivate deactivation
      | command => return (← checkedReplyStatus command.opcode .rejected, device)

theorem checkedStoreParams_eq (configuration : Configuration) (params : List (UInt8 × Octets)) :
    checkedStoreParams configuration params = pure (storeParams configuration params) := by
  induction params generalizing configuration with
  | nil => rfl
  | cons param rest ih =>
    obtain ⟨id, value⟩ := param
    rw [checkedStoreParams, Configuration.checkedSetParam_eq, run_settled, pure_bind, storeParams]
    cases configuration.setParam id value with
    | ok stored => exact ih stored
    | error e =>
      simp only
      rw [ih configuration, pure_bind]

theorem checkedCoreSetConfig_eq (device : Device) {params : List (UInt8 × Octets)}
    (few : params.length < 256) :
    device.checkedCoreSetConfig params = pure (device.coreSetConfig params) := by
  have fewer := storeParams_length device.configuration params
  rw [checkedCoreSetConfig, checkedStoreParams_eq, pure_bind, coreSetConfig]
  generalize storeParams device.configuration params = stored at fewer
  obtain ⟨invalid, configuration⟩ := stored
  simp only at fewer ⊢
  rw [checkedReply_eq (by
    change invalid.length + 2 < 65533
    omega), pure_bind]

theorem checkedLookUp_eq (configuration : Configuration) (ids : List UInt8) :
    checkedLookUp configuration ids =
      pure (ids.filterMap fun id => (configuration.param id).map (id, ·),
        ids.filter fun id => (configuration.param id).isNone) := by
  induction ids with
  | nil => rfl
  | cons id rest ih =>
    rw [checkedLookUp, Configuration.checkedParam_eq, pure_bind, ih, pure_bind]
    cases found : configuration.param id <;> simp [found]

theorem entries_length {params : List (UInt8 × Octets)}
    (short : ∀ param ∈ params, param.2.length ≤ 20) :
    (Response.entries params).length ≤ 22 * params.length := by
  induction params with
  | nil => exact Nat.le_refl 0
  | cons param params ih =>
    obtain ⟨first, others⟩ := List.forall_mem_cons.mp short
    have rest := ih others
    rw [Response.length_entries] at rest ⊢
    rw [List.map_cons, List.sum_cons, List.length_cons]
    omega

theorem checkedAnswerParams_eq (status : Status) {entries : List (UInt8 × Octets)}
    (few : entries.length < 256) (short : ∀ entry ∈ entries, entry.2.length ≤ 20) :
    checkedAnswerParams status entries =
      pure (if maxPayload < 2 + (Response.entries entries).length then
        replyStatus .coreGetConfig .rejected
      else reply (Response.coreGetConfig status.code entries)) := by
  have size := entries_length short
  rw [checkedAnswerParams, Response.checkedEntriesLength_eq (by omega), pure_bind]
  split
  · exact checkedReplyStatus_eq _ _
  · refine checkedReply_eq ?_
    change (Response.entries entries).length + 2 < 65533
    omega

theorem checkedCoreGetConfig_eq (device : Device) {ids : List UInt8} (few : ids.length < 256) :
    device.checkedCoreGetConfig ids = pure (device.coreGetConfig ids) := by
  rw [checkedCoreGetConfig, checkedLookUp_eq, pure_bind, coreGetConfig]
  simp only
  split
  · refine checkedAnswerParams_eq _ ?_ fun entry inside => ?_
    · exact Nat.lt_of_le_of_lt (List.length_filterMap_le _ _) few
    · obtain ⟨id, _, eq⟩ := List.mem_filterMap.mp inside
      obtain ⟨value, found, rfl⟩ := Option.map_eq_some_iff.mp eq
      exact Configuration.param_length found
  · refine checkedAnswerParams_eq _ ?_ fun entry inside => ?_
    · rw [List.length_map]
      exact Nat.lt_of_le_of_lt (List.length_filter_le _ _) few
    · obtain ⟨id, _, rfl⟩ := List.mem_map.mp inside
      exact Nat.zero_le _

theorem checkedRfDiscoverMap_eq (device : Device) (mappings : List DiscoverMapping) :
    device.checkedRfDiscoverMap mappings = pure (device.rfDiscoverMap mappings) := by
  have remapped : ∀ table : Rf.Table, mappings.foldlM Rf.Table.checkedRemap table =
      (pure (mappings.foldl Rf.Table.remap table) : Checked Rf.Table) := by
    induction mappings with
    | nil => exact fun _ => rfl
    | cons mapping mappings ih =>
      intro table
      rw [List.foldlM_cons, Rf.Table.checkedRemap_eq, pure_bind, ih, List.foldl_cons]
  unfold checkedRfDiscoverMap rfDiscoverMap
  simp only [remapped, checkedReplyStatus_eq, pure_bind]
  split <;> rfl

theorem checkedRfDiscover_eq (device : Device) (configs : List DiscoverConfig) :
    device.checkedRfDiscover configs = pure (device.rfDiscover configs) := by
  have short : (Response.status .rfDiscover Status.ok.code).payload.length < 65533 := by decide
  unfold checkedRfDiscover rfDiscover
  simp only [checkedReplyStatus_eq, pure_bind]
  split
  · rfl
  · cases device.discovered configs with
    | none => rfl
    | some activation =>
      simp only
      rw [checkedReplyLeaving_eq short, pure_bind]

theorem checkedRfDeactivate_eq (device : Device) (deactivation : UInt8) :
    device.checkedRfDeactivate deactivation = pure (device.rfDeactivate deactivation) := by
  have short : (Response.status .rfDeactivate Status.ok.code).payload.length < 65533 := by decide
  unfold checkedRfDeactivate rfDeactivate
  simp only [checkedReplyStatus_eq, pure_bind]
  split
  · rfl
  · rw [checkedReplyLeaving_eq short, pure_bind]

theorem checkedExecute_eq (device : Device) {command : Command} (modest : command.Modest) :
    device.checkedExecute command = pure (device.execute command) := by
  unfold checkedExecute execute
  cases command with
  | coreReset resetType =>
    have short : (Response.coreReset Status.ok.code (resetType = 0x01)).payload.length < 65533 :=
      Nat.lt_of_lt_of_le (Nat.lt_succ_self 3) (by decide)
    simp only
    rw [checkedReply_eq short, pure_bind]
    rfl
  | coreInit =>
    have short : (Response.coreInit Status.ok.code supportedInterfaces
        maxConnections).payload.length < 65533 := by decide
    simp only [checkedReplyStatus_eq, pure_bind]
    split
    · rw [checkedCoreInit, Response.checkedCoreInit_eq _ (by decide), pure_bind,
        checkedReply_eq short, pure_bind]
      rfl
    · rfl
  | coreSetConfig params =>
    have answer := checkedCoreSetConfig_eq device modest
    simp only [checkedReplyStatus_eq, pure_bind, answer]
    split <;> rfl
  | coreGetConfig ids =>
    have answer := checkedCoreGetConfig_eq device modest
    simp only [checkedReplyStatus_eq, pure_bind, answer]
    split <;> rfl
  | rfDiscoverMap mappings =>
    simp only [checkedReplyStatus_eq, pure_bind, checkedRfDiscoverMap_eq]
    split <;> rfl
  | rfDiscover configs =>
    simp only [checkedReplyStatus_eq, pure_bind, checkedRfDiscover_eq]
    split <;> rfl
  | rfDeactivate deactivation =>
    simp only [checkedReplyStatus_eq, pure_bind, checkedRfDeactivate_eq]
    split <;> rfl
  | unsupported opcode =>
    simp only [checkedReplyStatus_eq, pure_bind]
    split <;> rfl

/-! ### Packets and messages -/

def checkedProcessData (device : Device) (connection : UInt8) (payload : Octets) :
    Checked (Option NciAnswer × Device) := do
  match device.peerLink with
  | none =>
    return (← checkedReply (Notification.interfaceError Status.semanticError.code connection),
      device)
  | some link =>
    if connection ≠ staticConnection then
      return (← checkedReply (Notification.interfaceError Status.semanticError.code connection),
        device)
    else
      let (_, link) ← link.checkedReceive payload
      let answer ← checkedReplyLeaving (Notification.credits staticConnection connectionCredits)
        (some ⟨.data, .linkData⟩)
      return (answer, device.storeActiveLink link)

def checkedProcessNci (device : Device) (bytes : Octets) : Checked (Option NciAnswer × Device) := do
  match ← (Packet.checkedDecode bytes).run with
  | .error _ => return (none, device)
  | .ok (.data _ connection payload) => device.checkedProcessData connection payload
  | .ok (.control .command _ group code payload) =>
    match ← (Command.checkedDecode ⟨group, code⟩ payload).run with
    | .error _ => return (← checkedReplyStatus ⟨group, code⟩ .syntaxError, device)
    | .ok command => device.checkedExecute command
  | .ok (.control ..) => return (none, device)

def checkedProcessHci (device : Device) (bytes : Octets) : Checked (Option Octets × Device) := do
  match ← (Hci.Message.checkedDecode bytes).run with
  | .error _ => return (none, device)
  | .ok command =>
    if command.type ≠ Hci.commandType then return (none, device)
    else
      let (code, data, pipes) ← do
        if !command.last then pure (Hci.ResponseCode.notSupported, [], device.pipes)
        else if device.state ≠ .initialized then pure (.inhibited, [], device.pipes)
        else device.pipes.checkedExecute command
      let response ← (Hci.Message.response command.pipe code.code data).checkedEncode.run
      return (response.toOption, { device with pipes })

def checkedActivatedNotification (device : Device) (activation : Activation)
    (discoveryId : UInt8) : Attempt Packet := do
  match device.endpoints[activation.endpoint]? with
  | none => throw .noActiveEndpoint
  | some endpoint =>
    let interface := (device.rf.get activation.slot).interface
    let activationParams ←
      if interface = .nfcDep then do
        let tail ← Llcp.Param.checkedActivationTail
        Notification.checkedPeerParams endpoint.identifier.octets tail
      else pure []
    Notification.checkedActivated {
      discoveryId
      interface
      protocol := endpoint.protocol
      techMode := endpoint.techMode
      maxPayload := maxPayload.toUInt8
      credits := connectionCredits
      techParams := []
      exchangeMode := endpoint.techMode
      txRate := 0
      rxRate := 0
      activationParams }

/-- The octets of a buffer that an encoding filled, for the trace. -/
def checkedTrace (written : Except Error Nat × Octets) : Checked Unit := do
  match written with
  | (.error _, _) => return ()
  | (.ok count, buffer) =>
    let _ ← buffer.checkedSlice 0 count
    return ()

def checkedDeliver (content : DeliveryContent) (device : Device) (buffer : Octets) :
    Checked (Except Error Nat × Octets × Device) := do
  match content with
  | .activated activation discoveryId =>
    match ← (device.checkedActivatedNotification activation discoveryId).run with
    | .error e => return (.error e, buffer, device)
    | .ok packet =>
      let written ← packet.checkedEncodeInto buffer
      checkedTrace written
      return (written.1, written.2, device)
  | .deactivated deactivation reason =>
    let written ← (Notification.deactivated deactivation reason).checkedEncodeInto buffer
    checkedTrace written
    return (written.1, written.2, device)
  | .linkData =>
    match device.peerLink with
    | none => return (.ok 0, buffer, device)
    | some link =>
      let (written, link) ← link.checkedTransmit fun pdu =>
        (Packet.ofData staticConnection pdu).checkedEncodeInto buffer
      checkedTrace written
      return (written.1, written.2, device.storeActiveLink link)

/-! ### What a device keeps -/

/-- The link of the active endpoint is steady, and what the pipes hold is short. -/
structure Sound (device : Device) : Prop where
  link : ∀ endpoint, device.activeEndpoint = some endpoint → endpoint.link.Steady
  pipes : device.pipes.Short

section Kept

variable {device : Device}

theorem ofEndpoints_sound (endpoints : List Endpoint) : (ofEndpoints endpoints).Sound where
  link _ active := by cases active
  pipes := Hci.Pipes.initial_short

theorem peerLink_steady (sound : device.Sound) {link : LogicalLink}
    (peer : device.peerLink = some link) : link.Steady := by
  obtain ⟨activation, endpoint, active, _, found, rfl⟩ := peerLink_some peer
  refine sound.link endpoint ?_
  rw [activeEndpoint, active, Option.bind_some, found]

theorem sound_of_inactive (inactive : device.active = none) (pipes : device.pipes.Short) :
    device.Sound where
  link endpoint active := by
    rw [activeEndpoint, inactive] at active
    cases active
  pipes := pipes

theorem sound_of_same {other : Device} (sound : device.Sound)
    (endpoint : other.activeEndpoint = device.activeEndpoint) (pipes : other.pipes.Short) :
    other.Sound where
  link := endpoint ▸ sound.link
  pipes := pipes

theorem storeActiveLink_sound (sound : device.Sound) {link : LogicalLink} (kept : link.Steady) :
    (device.storeActiveLink link).Sound := by
  unfold storeActiveLink
  split
  · rename_i activation active
    refine ⟨fun endpoint present => ?_, sound.pipes⟩
    simp only [storeLink, activeEndpoint, active, Option.bind_some, List.getElem?_modify,
      if_true] at present
    obtain ⟨before, _, rfl⟩ := Option.map_eq_some_iff.mp present
    exact kept
  · exact sound

theorem activate_sound (device : Device) (pipes : device.pipes.Short) (activation : Activation) :
    (device.activate activation).Sound := by
  unfold activate
  split
  · rename_i absent
    refine ⟨fun endpoint present => ?_, pipes⟩
    simp only [activeEndpoint, Option.bind_some, absent] at present
    cases present
  · refine ⟨fun endpoint present => ?_, pipes⟩
    simp only [activeEndpoint, Option.bind_some, List.getElem?_modify, if_true] at present
    obtain ⟨before, _, rfl⟩ := Option.map_eq_some_iff.mp present
    exact LogicalLink.reset_steady before.link

theorem execute_sound (sound : device.Sound) (command : Command) :
    (device.execute command).2.Sound := by
  have executed := device.execute_executed command
  generalize device.execute command = outcome at executed
  cases executed with
  | refused status => exact sound
  | reset resetType => exact sound_of_inactive device.deactivate_active Hci.Pipes.initial_short
  | init fresh => exact sound_of_same sound rfl sound.pipes
  | set params =>
    simp only [coreSetConfig]
    exact sound_of_same sound rfl sound.pipes
  | get ids => exact sound
  | map ready mappings =>
    unfold rfDiscoverMap
    split
    · exact sound_of_same sound rfl sound.pipes
    · exact sound
  | discover ready configs =>
    unfold rfDiscover
    split
    · exact sound
    · split
      · exact sound_of_same sound rfl sound.pipes
      · rename_i activation found
        have activated := activate_sound { device with rfState := .discovery } sound.pipes
          activation
        exact sound_of_same activated rfl activated.pipes
  | deactivate ready deactivation =>
    unfold rfDeactivate
    split
    · exact sound
    · refine sound_of_inactive device.deactivate_active ?_
      exact device.deactivate_pipes ▸ sound.pipes

theorem processNci_sound (sound : device.Sound) (bytes : Octets) :
    (device.processNci bytes).2.Sound := by
  rcases device.processNci_device bytes with same | ⟨command, executed⟩ | ⟨link, payload, peer, fed⟩
  · rw [same]
    exact sound
  · rw [executed]
    exact execute_sound sound command
  · have steady := LogicalLink.receive_steady (peerLink_steady sound peer) payload
    rw [fed]
    exact storeActiveLink_sound sound steady

theorem processHci_sound (sound : device.Sound) (bytes : Octets) :
    (device.processHci bytes).2.Sound := by
  unfold processHci
  split
  · exact sound
  · rename_i command read
    have short := Hci.Message.decode_data_length read
    split
    · exact sound
    · refine sound_of_same sound rfl ?_
      simp only
      split
      · exact sound.pipes
      · split
        · exact sound.pipes
        · exact (Hci.Pipes.execute_short sound.pipes short).2

theorem deliver_sound (sound : device.Sound) (content : DeliveryContent) (room : Nat) :
    (device.deliver content room).2.Sound := by
  cases content with
  | activated | deactivated => exact sound
  | linkData =>
    simp only [deliver]
    split
    · exact sound
    · rename_i link peer
      exact storeActiveLink_sound sound
        (LogicalLink.transmit_steady (peerLink_steady sound peer) _)

/-! ### Uses without a fault -/

theorem checkedProcessData_eq (sound : device.Sound) (connection : UInt8) (payload : Octets) :
    device.checkedProcessData connection payload =
      pure (device.processData connection payload) := by
  have refused : checkedReply (Notification.interfaceError Status.semanticError.code connection) =
      pure (reply (Notification.interfaceError Status.semanticError.code connection)) :=
    checkedReply_eq (Nat.lt_of_lt_of_le (Nat.lt_succ_self 2) (by decide))
  have granted :
      (Notification.credits staticConnection connectionCredits).payload.length < 65533 := by decide
  unfold checkedProcessData processData
  cases peer : device.peerLink with
  | none => simp only [refused, pure_bind]
  | some link =>
    have steady := peerLink_steady sound peer
    simp only [refused, pure_bind, LogicalLink.checkedReceive_eq steady,
      checkedReplyLeaving_eq granted]
    split <;> rfl

/-- Whatever octets the host puts into the command buffer, they are carried out. -/
theorem checkedProcessNci_eq (sound : device.Sound) (bytes : Octets) :
    device.checkedProcessNci bytes = pure (device.processNci bytes) := by
  rw [checkedProcessNci, Packet.checkedDecode_eq, run_settled, pure_bind, processNci]
  cases read : Packet.decode bytes with
  | error e => rfl
  | ok packet =>
    have bound := (Packet.bounds_of_decode read).2
    cases packet with
    | data more connection payload => exact checkedProcessData_eq sound connection payload
    | control type more group code payload =>
      cases type with
      | command =>
        have short : payload.length < 32768 := Nat.lt_of_le_of_lt bound (by decide)
        simp only
        rw [Command.checkedDecode_eq _ short, run_settled, pure_bind]
        cases understood : Command.decode ⟨group, code⟩ payload with
        | error e =>
          simp only
          rw [checkedReplyStatus_eq, pure_bind]
        | ok command => exact checkedExecute_eq device (Command.readFrom_of_decode understood).modest
      | _ => rfl

theorem checkedProcessHci_eq (sound : device.Sound) (bytes : Octets) :
    device.checkedProcessHci bytes = pure (device.processHci bytes) := by
  rw [checkedProcessHci, Hci.Message.checkedDecode_eq, run_settled, pure_bind, processHci]
  cases read : Hci.Message.decode bytes with
  | error e => rfl
  | ok command =>
    have short := Hci.Message.decode_data_length read
    have answer := (Hci.Pipes.execute_short sound.pipes short).1
    have encoded {code : Hci.ResponseCode} {data : Octets} (few : data.length < 256) :
        (Hci.Message.response command.pipe code.code data).checkedEncode =
          settled (Hci.Message.response command.pipe code.code data).encode :=
      Hci.Message.checkedEncode_eq (Nat.lt_trans few (by decide))
    have nothing : ([] : Octets).length < 256 := by decide
    simp only
    split
    · rfl
    · split
      · rw [pure_bind]
        simp only
        rw [encoded nothing, run_settled, pure_bind]
      · split
        · rw [pure_bind]
          simp only
          rw [encoded nothing, run_settled, pure_bind]
        · rw [Hci.Pipes.checkedExecute_eq, pure_bind]
          rw [encoded answer, run_settled, pure_bind]

theorem checkedActivatedNotification_eq (device : Device) (activation : Activation)
    (discoveryId : UInt8) :
    device.checkedActivatedNotification activation discoveryId =
      settled (device.activatedNotification activation discoveryId) := by
  unfold checkedActivatedNotification activatedNotification
  cases device.endpoints[activation.endpoint]? with
  | none => rfl
  | some endpoint =>
    have identifier := endpoint.identifier.length_octets
    have tail : Llcp.Param.activationTail.length = 13 := by decide
    simp only
    split
    · have params : (Notification.peerParams endpoint.identifier.octets
          Llcp.Param.activationTail).length = 29 := by
        simp [Notification.peerParams, identifier, tail]
      rw [Llcp.Param.checkedActivationTail_eq, lift_pure, pure_bind,
        Notification.checkedPeerParams_eq (by omega), lift_pure, pure_bind,
        Notification.checkedActivated_eq (by simp only [List.length_nil]; omega)]
      rfl
    · rw [pure_bind, Notification.checkedActivated_eq (by simp only [List.length_nil]; omega)]
      rfl

theorem checkedTrace_place (buffer : Octets) (encoding : Except Error Octets) :
    checkedTrace (buffer.place encoding) = pure () := by
  cases encoding with
  | error e => rfl
  | ok bytes =>
    rw [Octets.place_ok]
    split
    · rfl
    · rename_i room
      rw [checkedTrace, Octets.checkedSlice_le (Nat.zero_le _) (by
        rw [Octets.length_overlay]
        exact Nat.not_lt.mp room), pure_bind]

theorem checkedDeliver_eq (device : Device) (content : DeliveryContent) (buffer : Octets) :
    checkedDeliver content device buffer =
      pure ((buffer.place (device.deliver content buffer.length).1).1,
        (buffer.place (device.deliver content buffer.length).1).2,
        (device.deliver content buffer.length).2) := by
  unfold checkedDeliver deliver
  cases content with
  | activated activation discoveryId =>
    simp only [checkedActivatedNotification_eq, run_settled, pure_bind]
    cases device.activatedNotification activation discoveryId with
    | error e => rfl
    | ok packet =>
      simp only
      rw [Packet.checkedEncodeInto_eq, pure_bind, checkedTrace_place, pure_bind]
      have same := buffer.place_within packet.encode
      exact congrArg
        (fun written : Except Error Nat × Octets =>
          (pure (written.1, written.2, device) : Checked (Except Error Nat × Octets × Device)))
        same.symm
  | deactivated deactivation reason =>
    simp only [Packet.checkedEncodeInto_eq, pure_bind, checkedTrace_place, Octets.place_within]
  | linkData =>
    simp only
    cases peer : device.peerLink with
    | none =>
      simp only [Octets.place_ok, List.length_nil, Nat.not_lt_zero, if_false, Octets.overlay_nil]
    | some link =>
      simp only
      rw [LogicalLink.checkedTransmit_eq link fun pdu => Packet.checkedEncodeInto_eq _ buffer]
      rw [pure_bind, checkedTrace_place, pure_bind]

end Kept

end Device

end NearField
