import NearField.Proofs.Device.Operation

/-!
What every use of a device keeps, the use of its active link included. Main statements: an
activation is always one of an endpoint in the field by a slot of its kind, and the state of the
radio says so; no link but the active one holds anything; and before initialisation nothing is
active, mapped or open.
-/

namespace NearField

open Llcp (LogicalLink)

/-- Nothing is connected and nothing without a connection waits. -/
def Llcp.LogicalLink.Vacant (link : LogicalLink) : Prop := link.links = ∅ ∧ link.control = []

namespace Rf.Table

variable {table : Table} {slot : Fin slotCount}

theorem get_remap (table : Table) (mapping : Nci.DiscoverMapping) (slot : Fin slotCount) :
    (table.remap mapping).get slot =
      if (table.get slot).coveredBy mapping then
        { table.get slot with interface := mapping.interface }
      else table.get slot := by
  simp only [get, remap, List.get_eq_getElem, List.getElem_map]
  rfl

theorem get_foldl_remap (table : Table) (mappings : List Nci.DiscoverMapping)
    (slot : Fin slotCount) :
    ((mappings.foldl remap table).get slot).protocol = (table.get slot).protocol ∧
      ((mappings.foldl remap table).get slot).techMode = (table.get slot).techMode := by
  induction mappings generalizing table with
  | nil => exact ⟨rfl, rfl⟩
  | cons mapping mappings ih =>
    obtain ⟨protocol, techMode⟩ := ih (table.remap mapping)
    rw [List.foldl_cons, protocol, techMode, get_remap]
    split <;> exact ⟨rfl, rfl⟩

theorem get_of_find {protocol : Protocol} {techMode : TechMode}
    (found : table.find protocol techMode = some slot) :
    (table.get slot).protocol = protocol ∧ (table.get slot).techMode = techMode := by
  have passed := List.find?_some found
  simpa using passed

def Supported (table : Table) : Prop :=
  ∀ slot, (table.get slot).interface = .frame ∨ (table.get slot).interface = .nfcDep

theorem default_supported : default.Supported := by
  unfold Supported
  decide

theorem foldl_remap_supported {mappings : List Nci.DiscoverMapping} (supported : table.Supported)
    (all : ∀ mapping ∈ mappings, mapping.interface = .frame ∨ mapping.interface = .nfcDep) :
    (mappings.foldl remap table).Supported := by
  induction mappings generalizing table with
  | nil => exact supported
  | cons mapping mappings ih =>
    obtain ⟨first, others⟩ := List.forall_mem_cons.mp all
    apply ih _ others
    intro slot
    rw [get_remap]
    split
    · exact first
    · exact supported slot

end Rf.Table

inductive DeviceUse where
  | appear (protocol : Rf.Protocol) (techMode : Rf.TechMode) (identifier : Block 10)
  | operate (operation : DeviceOperation)
  | manage (change : LogicalLink → LogicalLink)

namespace Device

def use (device : Device) : DeviceUse → Device
  | .appear protocol techMode identifier => device.addEndpoint (.new protocol techMode identifier)
  | .operate operation => device.operate operation
  | .manage change =>
    match device.activeLink with
    | .error _ => device
    | .ok link => device.storeActiveLink (change link)

def useAll (device : Device) (uses : List DeviceUse) : Device := uses.foldl use device

/-! ### The invariant -/

/-- An activation serves an endpoint in the field by a slot for its protocol and technology, and
the radio listens exactly if the technology is one to listen in. -/
structure Serves (device : Device) (activation : Activation) (endpoint : Endpoint) : Prop where
  inField : device.endpoints[activation.endpoint]? = some endpoint
  protocol : (device.rf.get activation.slot).protocol = endpoint.protocol
  techMode : (device.rf.get activation.slot).techMode = endpoint.techMode
  listening : device.rfState = .listenActive ↔ endpoint.techMode.isListen = true

structure Coherent (device : Device) : Prop where
  active_iff : device.active.isSome ↔
    device.rfState = .pollActive ∨ device.rfState = .listenActive
  served : ∀ activation, device.active = some activation →
    ∃ endpoint, device.Serves activation endpoint
  supported : device.rf.Supported
  /-- Every endpoint but the active one is without connections. -/
  vacant : ∀ (index : Nat) (endpoint : Endpoint), device.endpoints[index]? = some endpoint →
    (∀ activation, device.active = some activation → activation.endpoint ≠ index) →
      endpoint.link.Vacant
  closed : device.state ≠ .initialized → device.rfState = .idle ∧ device.active = none ∧
    device.rf = .default ∧ device.pipes = .initial

variable {device : Device}

theorem ofEndpoints_nil_coherent : (ofEndpoints []).Coherent where
  active_iff := by simp [ofEndpoints]
  served := by
    intro activation active
    cases active
  supported := Rf.Table.default_supported
  vacant := by
    intro index endpoint present
    cases present
  closed := fun _ => ⟨rfl, rfl, rfl, rfl⟩

/-- The configuration, the last number and, once the device is initialised, the pipes have no part
in the invariant. -/
theorem Coherent.of_same (coherent : device.Coherent) {other : Device}
    (state : other.state = device.state) (rfState : other.rfState = device.rfState)
    (rf : other.rf = device.rf) (endpoints : other.endpoints = device.endpoints)
    (active : other.active = device.active)
    (pipes : other.state ≠ .initialized → other.pipes = device.pipes) : other.Coherent where
  active_iff := by
    rw [active, rfState]
    exact coherent.active_iff
  served := by
    intro activation same
    rw [active] at same
    obtain ⟨endpoint, serves⟩ := coherent.served activation same
    refine ⟨endpoint, ?_, ?_, ?_, ?_⟩
    · rw [endpoints]
      exact serves.inField
    · rw [rf]
      exact serves.protocol
    · rw [rf]
      exact serves.techMode
    · rw [rfState]
      exact serves.listening
  supported := by
    rw [rf]
    exact coherent.supported
  vacant := by
    rw [endpoints, active]
    exact coherent.vacant
  closed := by
    intro early
    rw [rfState, active, rf, pipes early]
    rw [state] at early
    exact coherent.closed early

theorem Coherent.all_vacant (coherent : device.Coherent) (inactive : device.active = none) :
    ∀ endpoint ∈ device.endpoints, endpoint.link.Vacant := by
  intro endpoint inside
  obtain ⟨index, found⟩ := List.getElem?_of_mem inside
  apply coherent.vacant index endpoint found
  intro activation active
  rw [inactive] at active
  cases active

theorem Coherent.inactive_of_idle (coherent : device.Coherent)
    (idle : device.rfState = .idle ∨ device.rfState = .discovery) : device.active = none := by
  cases active : device.active with
  | none => rfl
  | some activation =>
    have busy := coherent.active_iff.mp (by rw [active]; rfl)
    rcases idle with idle | idle <;> rw [idle] at busy <;> simp at busy

theorem coherent_of_inactive (inactive : device.active = none)
    (idle : device.rfState = .idle ∨ device.rfState = .discovery)
    (supported : device.rf.Supported)
    (vacant : ∀ endpoint ∈ device.endpoints, endpoint.link.Vacant)
    (closed : device.state ≠ .initialized → device.rfState = .idle ∧ device.rf = .default ∧
      device.pipes = .initial) : device.Coherent where
  active_iff := by
    rw [inactive]
    rcases idle with idle | idle <;> rw [idle] <;> simp
  served := by
    intro activation active
    rw [inactive] at active
    cases active
  supported := supported
  vacant := fun _ endpoint found _ => vacant endpoint (List.mem_of_getElem? found)
  closed := by
    intro other
    obtain ⟨rest, mapped, open_⟩ := closed other
    exact ⟨rest, inactive, mapped, open_⟩

theorem storeActiveLink_coherent (coherent : device.Coherent) (link : LogicalLink) :
    (device.storeActiveLink link).Coherent := by
  unfold storeActiveLink
  split
  · rename_i activation active
    refine ⟨coherent.active_iff, ?_, coherent.supported, ?_, coherent.closed⟩
    · intro other same
      rw [show other = activation from Option.some.inj (same.symm.trans active)]
      obtain ⟨endpoint, serves⟩ := coherent.served activation active
      refine ⟨{ endpoint with link }, ?_, serves.protocol, serves.techMode, serves.listening⟩
      simp [storeLink, serves.inField]
    · intro index endpoint found apart
      have other := apart activation active
      simp only [storeLink, List.getElem?_modify, if_neg other] at found
      exact coherent.vacant index endpoint (by simpa using found) apart
  · exact coherent

theorem addEndpoint_coherent (coherent : device.Coherent) {endpoint : Endpoint}
    (vacant : endpoint.link.Vacant) : (device.addEndpoint endpoint).Coherent where
  active_iff := coherent.active_iff
  served := by
    intro activation active
    obtain ⟨served, serves⟩ := coherent.served activation active
    refine ⟨served, ?_, serves.protocol, serves.techMode, serves.listening⟩
    rw [addEndpoint, List.getElem?_append_left (List.getElem?_eq_some_iff.mp serves.inField).1]
    exact serves.inField
  supported := coherent.supported
  vacant := by
    intro index other found apart
    rw [addEndpoint, List.getElem?_append] at found
    split at found
    · exact coherent.vacant index other found apart
    · rw [List.mem_singleton.mp (List.mem_of_getElem? found)]
      exact vacant
  closed := coherent.closed

/-! ### Resetting -/

theorem reset_vacant (endpoint : Endpoint) : endpoint.reset.link.Vacant := ⟨rfl, rfl⟩

theorem deactivate_vacant (coherent : device.Coherent) :
    ∀ endpoint ∈ device.deactivate.endpoints, endpoint.link.Vacant := by
  intro endpoint inside
  unfold deactivate at inside
  split at inside
  · rename_i inactive
    exact coherent.all_vacant inactive endpoint inside
  · rename_i activation active
    obtain ⟨index, found⟩ := List.getElem?_of_mem inside
    rw [List.getElem?_modify] at found
    obtain ⟨before, present, rfl⟩ := Option.map_eq_some_iff.mp found
    by_cases here : activation.endpoint = index
    · rw [if_pos here]
      exact reset_vacant before
    · rw [if_neg here]
      apply coherent.vacant index before present
      intro other same
      rw [show other = activation from Option.some.inj (same.symm.trans active)]
      exact here

theorem deactivate_rf (device : Device) : device.deactivate.rf = device.rf := by
  unfold deactivate
  split <;> rfl

theorem deactivate_state (device : Device) : device.deactivate.state = device.state := by
  unfold deactivate
  split <;> rfl

theorem reset_coherent (device : Device) (clear : Bool) : (device.reset clear).Coherent := by
  apply coherent_of_inactive
  · exact device.deactivate_active
  · exact .inl rfl
  · exact Rf.Table.default_supported
  · intro endpoint inside
    obtain ⟨before, _, rfl⟩ := List.mem_map.mp inside
    exact reset_vacant before
  · exact fun _ => ⟨rfl, rfl, rfl⟩

theorem coreInit_coherent (coherent : device.Coherent) (waiting : device.state = .reset) :
    device.coreInit.2.Coherent := by
  have early : device.state ≠ .initialized := by
    rw [waiting]
    decide
  obtain ⟨idle, inactive, _, _⟩ := coherent.closed early
  apply coherent_of_inactive
  · exact inactive
  · exact .inl idle
  · exact coherent.supported
  · exact coherent.all_vacant inactive
  · exact fun other => absurd rfl other

def Offers (mappings : List Nci.DiscoverMapping) : Prop :=
  ∀ mapping ∈ mappings, mapping.interface = .frame ∨ mapping.interface = .nfcDep

theorem offers_iff (mappings : List Nci.DiscoverMapping) :
    (mappings.all fun mapping => supportedInterfaces.contains mapping.interface) = true ↔
      Offers mappings := by
  simp [Offers, supportedInterfaces]

theorem rfDiscoverMap_coherent (coherent : device.Coherent) (ready : device.state = .initialized)
    (mappings : List Nci.DiscoverMapping) : (device.rfDiscoverMap mappings).2.Coherent := by
  unfold rfDiscoverMap
  split
  · rename_i offered
    refine ⟨coherent.active_iff, ?_, ?_, coherent.vacant, fun other => absurd ready other⟩
    · intro activation active
      obtain ⟨endpoint, serves⟩ := coherent.served activation active
      have kept := Rf.Table.get_foldl_remap device.rf mappings activation.slot
      refine ⟨endpoint, serves.inField, ?_, ?_, serves.listening⟩
      · exact kept.1.trans serves.protocol
      · exact kept.2.trans serves.techMode
    · exact Rf.Table.foldl_remap_supported coherent.supported ((offers_iff mappings).mp offered)
  · exact coherent

theorem discovered_kind {configs : List Nci.DiscoverConfig} {activation : Activation}
    (found : device.discovered configs = some activation) :
    ∃ endpoint, device.endpoints[activation.endpoint]? = some endpoint ∧
      (device.rf.get activation.slot).protocol = endpoint.protocol ∧
        (device.rf.get activation.slot).techMode = endpoint.techMode := by
  obtain ⟨endpoint, present, suits⟩ := discovered_found found
  exact ⟨endpoint, present, Rf.Table.get_of_find suits⟩

theorem activate_coherent (coherent : device.Coherent) (ready : device.state = .initialized)
    (inactive : device.active = none) {activation : Activation} {endpoint : Endpoint}
    (present : device.endpoints[activation.endpoint]? = some endpoint)
    (protocol : (device.rf.get activation.slot).protocol = endpoint.protocol)
    (techMode : (device.rf.get activation.slot).techMode = endpoint.techMode) :
    (device.activate activation).Coherent := by
  unfold activate
  rw [present]
  refine ⟨?_, ?_, coherent.supported, ?_, fun other => absurd ready other⟩
  · simp only [Option.isSome_some, true_iff]
    split
    · exact .inr rfl
    · exact .inl rfl
  · intro other same
    cases same
    refine ⟨endpoint.reset, ?_, protocol, techMode, ?_⟩
    · simp [present]
    · change _ ↔ endpoint.techMode.isListen = true
      simp
  · intro index other found _
    rcases mem_modify (List.mem_of_getElem? found) with before | ⟨before, _, rfl⟩
    · exact coherent.all_vacant inactive other before
    · exact reset_vacant before

theorem rfDiscover_coherent (coherent : device.Coherent) (ready : device.state = .initialized)
    (configs : List Nci.DiscoverConfig) : (device.rfDiscover configs).2.Coherent := by
  unfold rfDiscover
  split
  · exact coherent
  · rename_i idle
    have inactive := coherent.inactive_of_idle (.inl (not_not.mp idle))
    have searching : { device with rfState := .discovery }.Coherent := by
      apply coherent_of_inactive
      · exact inactive
      · exact .inr rfl
      · exact coherent.supported
      · exact coherent.all_vacant inactive
      · exact fun other => absurd ready other
    split
    · exact searching
    · rename_i activation found
      obtain ⟨endpoint, present, protocol, techMode⟩ := discovered_kind found
      have activated :=
        activate_coherent searching ready inactive present protocol techMode
      exact activated.of_same rfl rfl rfl rfl rfl fun _ => rfl

theorem rfDeactivate_coherent (coherent : device.Coherent) (ready : device.state = .initialized)
    (deactivation : UInt8) : (device.rfDeactivate deactivation).2.Coherent := by
  unfold rfDeactivate
  split
  · exact coherent
  · apply coherent_of_inactive
    · exact device.deactivate_active
    · dsimp only
      split
      · exact .inr rfl
      · exact .inl rfl
    · exact device.deactivate_rf ▸ coherent.supported
    · exact deactivate_vacant coherent
    · exact fun other => absurd (device.deactivate_state.trans ready) other

theorem execute_coherent (coherent : device.Coherent) (command : Nci.Command) :
    (device.execute command).2.Coherent := by
  have executed := device.execute_executed command
  generalize device.execute command = outcome at executed
  cases executed with
  | refused status => exact coherent
  | reset resetType => exact device.reset_coherent _
  | init fresh => exact coreInit_coherent coherent fresh
  | set params =>
    simp only [coreSetConfig]
    exact coherent.of_same rfl rfl rfl rfl rfl fun _ => rfl
  | get ids => exact coherent
  | map ready mappings => exact rfDiscoverMap_coherent coherent ready mappings
  | discover ready configs => exact rfDiscover_coherent coherent ready configs
  | deactivate ready deactivation => exact rfDeactivate_coherent coherent ready deactivation

/-! ### Packets, messages and deliveries -/

theorem processNci_coherent (coherent : device.Coherent) (bytes : Octets) :
    (device.processNci bytes).2.Coherent := by
  rcases device.processNci_device bytes with same | ⟨command, executed⟩ | ⟨link, payload, _, fed⟩
  · rw [same]
    exact coherent
  · rw [executed]
    exact execute_coherent coherent command
  · rw [fed]
    exact storeActiveLink_coherent coherent _

theorem processHci_coherent (coherent : device.Coherent) (bytes : Octets) :
    (device.processHci bytes).2.Coherent := by
  unfold processHci
  split
  · exact coherent
  · split
    · exact coherent
    · have piped (pipes : Hci.Pipes)
          (kept : device.state ≠ .initialized → pipes = device.pipes) :
          { device with pipes }.Coherent := coherent.of_same rfl rfl rfl rfl rfl kept
      apply piped
      intro early
      rw [if_pos early]
      split <;> rfl

theorem deliver_coherent (coherent : device.Coherent) (content : DeliveryContent) (room : Nat) :
    (device.deliver content room).2.Coherent := by
  cases content with
  | activated | deactivated => exact coherent
  | linkData =>
    simp only [deliver]
    split
    · exact coherent
    · exact storeActiveLink_coherent coherent _

theorem use_coherent (coherent : device.Coherent) (use : DeviceUse) :
    (device.use use).Coherent := by
  cases use with
  | appear protocol techMode identifier => exact addEndpoint_coherent coherent ⟨rfl, rfl⟩
  | operate operation =>
    cases operation with
    | nci bytes => exact processNci_coherent coherent bytes
    | hci bytes => exact processHci_coherent coherent bytes
    | deliver content room => exact deliver_coherent coherent content room
  | manage change =>
    unfold Device.use
    dsimp only
    split
    · exact coherent
    · exact storeActiveLink_coherent coherent _

/-- A device that was new once is coherent, whatever appeared in its field, whatever packets,
messages and deliveries it carried out and whatever was done with its active link. -/
theorem coherent_always (uses : List DeviceUse) : ((ofEndpoints []).useAll uses).Coherent := by
  suffices kept : ∀ device : Device, device.Coherent → (device.useAll uses).Coherent by
    exact kept _ ofEndpoints_nil_coherent
  induction uses with
  | nil => exact fun _ coherent => coherent
  | cons use uses ih => exact fun device coherent => ih _ (use_coherent coherent use)

/-- Two endpoints appear, and discovery activates the one that can be polled. -/
example :
    let device := (ofEndpoints []).useAll [.appear .isoDep .passiveListenB (.zero 10),
      .appear .nfcDep .passivePollA (.zero 10), .operate (.nci [0x20, 0x00, 0x01, 0x01]),
      .operate (.nci [0x20, 0x01, 0x00]), .operate (.nci [0x21, 0x03, 0x03, 0x01, 0x00, 0x01])]
    device.active.map (·.endpoint) = some 1 ∧ device.rfState = .pollActive := by
  decide +kernel

end Device

end NearField
