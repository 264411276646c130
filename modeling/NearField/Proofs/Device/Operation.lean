import NearField.Device.Hci
import NearField.Device.Nci
import Mathlib.Tactic.Common

/-!
Uses of a device, as data. Main statement: whatever a device is used for, the logical links of its
endpoints are only given PDUs, asked for the next one or reset, so what these keep holds of each of
them; and the active endpoint is one of those in the field.
-/

namespace NearField

open Llcp (LogicalLink)

inductive DeviceOperation where
  | nci (bytes : Octets)
  | hci (bytes : Octets)
  | deliver (content : DeliveryContent) (room : Nat)

namespace Device

def operate (device : Device) : DeviceOperation → Device
  | .nci bytes => (device.processNci bytes).2
  | .hci bytes => (device.processHci bytes).2
  | .deliver content room => (device.deliver content room).2

def operateAll (device : Device) (operations : List DeviceOperation) : Device :=
  operations.foldl operate device

/-- What holds of the logical link of every endpoint, and of the active endpoint. -/
structure Holds (P : LogicalLink → Prop) (device : Device) : Prop where
  links : ∀ endpoint ∈ device.endpoints, P endpoint.link
  inField : ∀ activation, device.active = some activation →
    activation.endpoint < device.endpoints.length

theorem peerLink_some {device : Device} {link : LogicalLink} (peer : device.peerLink = some link) :
    ∃ activation endpoint, device.active = some activation ∧
      (device.rf.get activation.slot).interface = .nfcDep ∧
        device.endpoints[activation.endpoint]? = some endpoint ∧ endpoint.link = link := by
  unfold peerLink at peer
  split at peer
  · cases peer
  · rename_i activation active
    split at peer
    · rename_i served
      rw [activeLink, activeEndpoint, active, Option.bind_some] at peer
      cases found : device.endpoints[activation.endpoint]? with
      | none =>
        rw [found] at peer
        cases peer
      | some endpoint =>
        rw [found] at peer
        exact ⟨activation, endpoint, active, served, found, Option.some.inj peer⟩
    · cases peer

/-- What carrying out a command comes to: it is refused in the present state, or its own handler
does it. -/
inductive Executed (device : Device) : Nci.Command → Option NciAnswer × Device → Prop where
  | refused {command : Nci.Command} (status : Nci.Status) :
      Executed device command (replyStatus command.opcode status, device)
  | reset (resetType : UInt8) :
      Executed device (.coreReset resetType) (device.coreReset resetType)
  | init (fresh : device.state = .reset) : Executed device .coreInit device.coreInit
  | set (params : List (UInt8 × Octets)) :
      Executed device (.coreSetConfig params) (device.coreSetConfig params)
  | get (ids : List UInt8) :
      Executed device (.coreGetConfig ids) (device.coreGetConfig ids, device)
  | map (ready : device.state = .initialized) (mappings : List Nci.DiscoverMapping) :
      Executed device (.rfDiscoverMap mappings) (device.rfDiscoverMap mappings)
  | discover (ready : device.state = .initialized) (configs : List Nci.DiscoverConfig) :
      Executed device (.rfDiscover configs) (device.rfDiscover configs)
  | deactivate (ready : device.state = .initialized) (deactivation : UInt8) :
      Executed device (.rfDeactivate deactivation) (device.rfDeactivate deactivation)

theorem execute_executed (device : Device) (command : Nci.Command) :
    device.Executed command (device.execute command) := by
  cases command with
  | coreReset resetType => exact .reset resetType
  | coreInit =>
    dsimp only [execute]
    split
    · rename_i fresh
      exact .init fresh
    · exact .refused .semanticError
  | unsupported opcode =>
    dsimp only [execute]
    split
    · exact .refused .notInitialized
    · exact .refused .rejected
  | coreSetConfig | coreGetConfig =>
    dsimp only [execute]
    split
    · exact .refused .notInitialized
    · constructor
  | rfDiscoverMap | rfDiscover | rfDeactivate =>
    dsimp only [execute]
    split
    · exact .refused .notInitialized
    · rename_i ready
      constructor
      exact not_not.mp ready

/-- A packet leaves the device as it is, has a command carried out, or gives the active link a
PDU. -/
theorem processNci_device (device : Device) (bytes : Octets) :
    (device.processNci bytes).2 = device ∨
      (∃ command, (device.processNci bytes).2 = (device.execute command).2) ∨
        ∃ link payload, device.peerLink = some link ∧
          (device.processNci bytes).2 = device.storeActiveLink (link.receive payload).2 := by
  unfold processNci
  split
  · exact .inl rfl
  · unfold processData
    split
    · exact .inl rfl
    · rename_i link peer
      split
      · exact .inl rfl
      · exact .inr (.inr ⟨link, _, peer, rfl⟩)
  · split
    · exact .inl rfl
    · exact .inr (.inl ⟨_, rfl⟩)
  · exact .inl rfl

section Kept

variable {P : LogicalLink → Prop} {device : Device}

theorem mem_modify {endpoints : List Endpoint} {index : Nat} {change : Endpoint → Endpoint}
    {endpoint : Endpoint} (inside : endpoint ∈ endpoints.modify index change) :
    endpoint ∈ endpoints ∨ ∃ before ∈ endpoints, endpoint = change before := by
  obtain ⟨place, found⟩ := List.getElem?_of_mem inside
  rw [List.getElem?_modify] at found
  obtain ⟨before, here, eq⟩ := Option.map_eq_some_iff.mp found
  have present := List.mem_of_getElem? here
  split at eq
  · exact .inr ⟨before, present, eq.symm⟩
  · exact .inl (eq ▸ present)

theorem ofEndpoints_holds {endpoints : List Endpoint}
    (all : ∀ endpoint ∈ endpoints, P endpoint.link) :
    (ofEndpoints endpoints).Holds P := ⟨all, fun _ active => by cases active⟩

theorem modify_holds (holds : device.Holds P) {index : Nat} {change : Endpoint → Endpoint}
    (kept : ∀ endpoint, P endpoint.link → P (change endpoint).link) :
    { device with endpoints := device.endpoints.modify index change }.Holds P where
  links endpoint inside := by
    rcases mem_modify inside with before | ⟨before, present, rfl⟩
    · exact holds.links endpoint before
    · exact kept before (holds.links before present)
  inField activation active := by
    rw [List.length_modify]
    exact holds.inField activation active

theorem storeActiveLink_holds (holds : device.Holds P) {link : LogicalLink} (kept : P link) :
    (device.storeActiveLink link).Holds P := by
  unfold storeActiveLink
  split
  · exact modify_holds holds fun _ _ => kept
  · exact holds

theorem peerLink_holds (holds : device.Holds P) {link : LogicalLink}
    (peer : device.peerLink = some link) : P link := by
  obtain ⟨_, endpoint, _, _, found, rfl⟩ := peerLink_some peer
  exact holds.links endpoint (List.mem_of_getElem? found)

theorem peerLink_of_active (holds : device.Holds P) {activation : Activation}
    (active : device.active = some activation)
    (served : (device.rf.get activation.slot).interface = .nfcDep) :
    ∃ link, device.peerLink = some link ∧ P link := by
  have bound := holds.inField activation active
  have found := List.getElem?_eq_getElem bound
  have peer : device.peerLink = some device.endpoints[activation.endpoint].link := by
    rw [peerLink, active]
    simp only [served, if_true, activeLink, activeEndpoint, active, Option.bind_some, found]
    rfl
  exact ⟨_, peer, peerLink_holds holds peer⟩

theorem discovered_found {configs : List Nci.DiscoverConfig} {activation : Activation}
    (found : device.discovered configs = some activation) :
    ∃ endpoint, device.endpoints[activation.endpoint]? = some endpoint ∧
      device.rf.find endpoint.protocol endpoint.techMode = some activation.slot := by
  obtain ⟨config, _, among⟩ := List.exists_of_findSome?_eq_some found
  obtain ⟨⟨endpoint, index⟩, listed, answers⟩ := List.exists_of_findSome?_eq_some among
  simp only at answers
  split at answers
  · obtain ⟨slot, suits, rfl⟩ := Option.map_eq_some_iff.mp answers
    exact ⟨endpoint, List.mem_zipIdx_iff_getElem?.mp listed, suits⟩
  · cases answers

theorem discovered_bound {configs : List Nci.DiscoverConfig} {activation : Activation}
    (found : device.discovered configs = some activation) :
    activation.endpoint < device.endpoints.length := by
  obtain ⟨endpoint, present, _⟩ := discovered_found found
  exact (List.getElem?_eq_some_iff.mp present).1

theorem deactivate_active (device : Device) : device.deactivate.active = none := by
  unfold deactivate
  split
  · assumption
  · rfl

theorem deactivate_pipes (device : Device) : device.deactivate.pipes = device.pipes := by
  unfold deactivate
  split <;> rfl

section Reset

variable (reset : ∀ link : LogicalLink, P link → P link.reset)

include reset

theorem deactivate_holds (holds : device.Holds P) : device.deactivate.Holds P := by
  unfold deactivate
  split
  · exact holds
  · exact ⟨(modify_holds holds fun endpoint => reset endpoint.link).links,
      fun _ active => by cases active⟩

theorem reset_holds (holds : device.Holds P) (clear : Bool) : (device.reset clear).Holds P := by
  have idle := deactivate_holds reset holds
  refine ⟨fun endpoint inside => ?_, fun activation active => ?_⟩
  · obtain ⟨before, present, rfl⟩ := List.mem_map.mp inside
    exact reset before.link (idle.links before present)
  · rw [Device.reset, List.length_map]
    exact idle.inField activation active

theorem activate_holds (holds : device.Holds P) {activation : Activation}
    (bound : activation.endpoint < device.endpoints.length) :
    (device.activate activation).Holds P := by
  unfold activate
  split
  · rename_i absent
    rw [List.getElem?_eq_getElem bound] at absent
    cases absent
  · refine ⟨(modify_holds holds fun endpoint => reset endpoint.link).links, ?_⟩
    intro other active
    cases active
    simp only [List.length_modify]
    exact bound

theorem rfDiscover_holds (holds : device.Holds P) (configs : List Nci.DiscoverConfig) :
    (device.rfDiscover configs).2.Holds P := by
  unfold rfDiscover
  split
  · exact holds
  · split
    · exact ⟨holds.links, holds.inField⟩
    · rename_i activation found
      have searching : { device with rfState := .discovery }.Holds P :=
        ⟨holds.links, holds.inField⟩
      have activated := activate_holds reset searching (discovered_bound found)
      exact ⟨activated.links, activated.inField⟩

theorem rfDeactivate_holds (holds : device.Holds P) (deactivation : UInt8) :
    (device.rfDeactivate deactivation).2.Holds P := by
  unfold rfDeactivate
  split
  · exact holds
  · have idle := deactivate_holds reset holds
    exact ⟨idle.links, idle.inField⟩

theorem execute_holds (holds : device.Holds P) (command : Nci.Command) :
    (device.execute command).2.Holds P := by
  have same {other : Device} (endpoints : other.endpoints = device.endpoints)
      (active : other.active = device.active) : other.Holds P := by
    refine ⟨endpoints ▸ holds.links, ?_⟩
    rw [active, endpoints]
    exact holds.inField
  have executed := device.execute_executed command
  generalize device.execute command = outcome at executed
  cases executed with
  | refused status => exact holds
  | reset resetType => exact reset_holds reset holds _
  | init fresh => exact same rfl rfl
  | set params =>
    simp only [coreSetConfig]
    exact same rfl rfl
  | get ids => exact holds
  | map ready mappings =>
    unfold rfDiscoverMap
    split
    · exact same rfl rfl
    · exact holds
  | discover ready configs => exact rfDiscover_holds reset holds configs
  | deactivate ready deactivation => exact rfDeactivate_holds reset holds deactivation

variable (receive : ∀ (link : LogicalLink) (bytes : Octets), P link → P (link.receive bytes).2)
  (next : ∀ link : LogicalLink, P link → P link.next.2)

include receive

theorem processNci_holds (holds : device.Holds P) (bytes : Octets) :
    (device.processNci bytes).2.Holds P := by
  rcases device.processNci_device bytes with same | ⟨command, executed⟩ | ⟨link, payload, peer, fed⟩
  · rw [same]
    exact holds
  · rw [executed]
    exact execute_holds reset holds command
  · rw [fed]
    exact storeActiveLink_holds holds (receive link payload (peerLink_holds holds peer))

omit reset receive

theorem processHci_holds (holds : device.Holds P) (bytes : Octets) :
    (device.processHci bytes).2.Holds P := by
  unfold processHci
  split
  · exact holds
  · split
    · exact holds
    · exact ⟨holds.links, holds.inField⟩

include next

theorem deliver_holds (holds : device.Holds P) (content : DeliveryContent) (room : Nat) :
    (device.deliver content room).2.Holds P := by
  cases content with
  | activated | deactivated => exact holds
  | linkData =>
    simp only [deliver]
    split
    · exact holds
    · rename_i link peer
      have kept := peerLink_holds holds peer
      refine storeActiveLink_holds holds ?_
      unfold LogicalLink.transmit
      split
      · exact kept
      · exact next link kept

include reset receive

/-- What logical links keep when they are given a PDU, asked for the next one or reset holds of
every endpoint's link. -/
theorem operate_holds (holds : device.Holds P) (operation : DeviceOperation) :
    (device.operate operation).Holds P := by
  cases operation with
  | nci bytes => exact processNci_holds reset receive holds bytes
  | hci bytes => exact processHci_holds holds bytes
  | deliver content room => exact deliver_holds next holds content room

theorem operateAll_holds (holds : device.Holds P) (operations : List DeviceOperation) :
    (device.operateAll operations).Holds P := by
  induction operations generalizing device with
  | nil => exact holds
  | cons operation operations ih => exact ih (operate_holds reset receive next holds operation)

end Reset

end Kept

end Device

end NearField
