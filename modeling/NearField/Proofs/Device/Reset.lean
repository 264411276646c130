import NearField.Proofs.Device.Numbering
import NearField.Proofs.Llcp.Vocabulary

/-!
What a reset leaves of the past. Main statement: once its configuration is cleared too, a device
cannot be told from one in whose past nothing happened but that the same endpoints appeared and the
same services were bound, except by the discovery identifiers.
-/

namespace NearField

open Llcp (LogicalLink LogicalUse)

namespace Llcp

/-- Whether a use of a logical link bears on what it offers to the peer: its services, and the
window of new connections. -/
def LogicalUse.furnishes : LogicalUse → Bool
  | .operate (.bind _ _) => true
  | .operate (.unbind _) => true
  | .offer _ => true
  | _ => false

namespace LogicalLink

variable (link : LogicalLink)

theorem receive_reset (bytes : Octets) : (link.receive bytes).2.reset = link.reset := by
  unfold receive
  cases Pdu.decode bytes with
  | error e => rfl
  | ok pdu =>
    obtain ⟨reaction, _, eq⟩ := link.receivePdu_heard pdu
    simp only
    rw [eq]
    rfl

theorem next_reset : link.next.2.reset = link.reset := by
  unfold next
  split
  · rfl
  · split <;> rfl

theorem transmit_reset {β : Type} (send : Octets → Except Error β) :
    (link.transmit send).2.reset = link.reset := by
  unfold transmit
  split
  · rfl
  · exact link.next_reset

theorem use_reset {use : LogicalUse} (passing : use.furnishes = false) :
    (link.use use).reset = link.reset := by
  cases use with
  | operate operation =>
    cases operation with
    | bind | unbind => cases passing
    | connect address => rfl
    | send address data =>
      simp only [LogicalLink.use, operate, send]
      split <;> rfl
    | receive bytes => exact link.receive_reset bytes
    | next => exact link.next_reset
    | transmit send => exact link.transmit_reset send
  | adjust address use =>
    simp only [LogicalLink.use]
    split <;> rfl
  | offer => cases passing
  | reset => rfl

theorem reset_use {use : LogicalUse} (furnishes : use.furnishes = true) :
    (link.use use).reset = link.reset.use use := by
  cases use with
  | operate operation =>
    cases operation with
    | bind sap name =>
      simp only [LogicalLink.use, operate, bind]
      by_cases reserved : sap = .linkManagement ∨ sap = .discovery
      · simp only [if_pos reserved]
      · simp only [if_neg reserved]
        rfl
    | unbind sap => rfl
    | connect | send | receive | next | transmit => cases furnishes
  | offer window => rfl
  | adjust | reset => cases furnishes

end LogicalLink

end Llcp

inductive DeviceEvent where
  | appear (protocol : Rf.Protocol) (techMode : Rf.TechMode) (identifier : Block 10)
  | manage (endpoint : Nat) (use : LogicalUse)
  | operate (operation : DeviceOperation)
  | configure (change : Device.Configuration → Except Error Device.Configuration)
  | count
  | reset (clearConfiguration : Bool)

/-- Whether an event bears on which endpoints are in the field and what is offered to them. -/
def DeviceEvent.furnishes : DeviceEvent → Bool
  | appear _ _ _ => true
  | manage _ use => use.furnishes
  | _ => false

namespace Device

def manage (device : Device) (index : Nat) (use : LogicalUse) : Device :=
  { device with
    endpoints := device.endpoints.modify index fun endpoint =>
      { endpoint with link := endpoint.link.use use } }

def happen (device : Device) : DeviceEvent → Device
  | .appear protocol techMode identifier => device.addEndpoint (.new protocol techMode identifier)
  | .manage endpoint use => device.manage endpoint use
  | .operate operation => device.operate operation
  | .configure change =>
    match change device.configuration with
    | .error _ => device
    | .ok configuration => { device with configuration }
  | .count => device.countActivation
  | .reset clearConfiguration => device.reset clearConfiguration

def after (events : List DeviceEvent) : Device := events.foldl happen (ofEndpoints [])

def field (device : Device) : List Endpoint := device.endpoints.map Endpoint.reset

theorem map_modify {α β : Type} {entries : List α} {index : Nat} {change : α → α}
    {f : α → β} (other : β → β)
    (commutes : ∀ entry, entries[index]? = some entry → f (change entry) = other (f entry)) :
    (entries.modify index change).map f = (entries.map f).modify index other := by
  apply List.ext_getElem?
  intro place
  rw [List.getElem?_map, List.getElem?_modify, List.getElem?_modify, List.getElem?_map]
  by_cases here : index = place
  · subst here
    cases found : entries[index]? with
    | none => rfl
    | some entry => simp [commutes entry found]
  · cases entries[place]? <;> simp [here]

variable {device : Device}

theorem field_modify {index : Nat} {change : Endpoint → Endpoint}
    (undone : ∀ endpoint, device.endpoints[index]? = some endpoint →
      (change endpoint).reset = endpoint.reset) :
    ({ device with endpoints := device.endpoints.modify index change } : Device).field =
      device.field := by
  have same := map_modify (f := Endpoint.reset) id undone
  rw [List.modify_id] at same
  exact same

theorem storeActiveLink_field {link : LogicalLink}
    (undone : ∀ before, device.peerLink = some before → link.reset = before.reset)
    (peer : device.peerLink.isSome) : (device.storeActiveLink link).field = device.field := by
  obtain ⟨before, found⟩ := Option.isSome_iff_exists.mp peer
  obtain ⟨activation, endpoint, active, _, here, rfl⟩ := peerLink_some found
  unfold storeActiveLink
  rw [active]
  refine field_modify fun other present => ?_
  rw [here] at present
  cases present
  exact congrArg (fun link => ({ endpoint with link } : Endpoint)) (undone _ found)

theorem deactivate_field (device : Device) : device.deactivate.field = device.field := by
  unfold deactivate
  split
  · rfl
  · exact field_modify fun _ _ => rfl

theorem activate_field (device : Device) (activation : Activation) :
    (device.activate activation).field = device.field := by
  unfold activate
  split
  · rfl
  · exact field_modify fun _ _ => rfl

theorem reset_field (device : Device) (clear : Bool) :
    (device.reset clear).field = device.field := by
  have idle := device.deactivate_field
  rw [field] at idle
  rw [field, reset]
  simp only [idle]
  rw [field, List.map_map]
  rfl

theorem execute_field (device : Device) (command : Nci.Command) :
    (device.execute command).2.field = device.field := by
  have executed := device.execute_executed command
  generalize device.execute command = outcome at executed
  cases executed with
  | refused | init | set | get => rfl
  | reset resetType => exact device.reset_field _
  | map ready mappings =>
    unfold rfDiscoverMap
    split <;> rfl
  | discover ready configs =>
    unfold rfDiscover
    split
    · rfl
    · split
      · rfl
      · exact activate_field { device with rfState := .discovery } _
  | deactivate ready deactivation =>
    unfold rfDeactivate
    split
    · rfl
    · exact device.deactivate_field

theorem operate_field (device : Device) (operation : DeviceOperation) :
    (device.operate operation).field = device.field := by
  cases operation with
  | nci bytes =>
    rcases device.processNci_device bytes with
      same | ⟨command, executed⟩ | ⟨link, payload, peer, fed⟩
    · exact congrArg field same
    · exact (congrArg field executed).trans (device.execute_field command)
    · rw [operate, fed]
      refine storeActiveLink_field (fun before found => ?_) (by rw [peer]; rfl)
      rw [peer] at found
      cases found
      exact link.receive_reset payload
  | hci bytes =>
    obtain ⟨pipes, eq⟩ := device.processHci_pipes bytes
    rw [operate, eq]
    rfl
  | deliver content room =>
    cases content with
    | activated | deactivated => rfl
    | linkData =>
      simp only [operate, deliver]
      cases peer : device.peerLink with
      | none => rfl
      | some link =>
        refine storeActiveLink_field (fun before found => ?_) (by rw [peer]; rfl)
        rw [peer] at found
        cases found
        exact link.transmit_reset _

theorem happen_field {event : DeviceEvent} (passing : event.furnishes = false) :
    (device.happen event).field = device.field := by
  cases event with
  | appear => cases passing
  | manage index use =>
    refine field_modify fun endpoint _ => ?_
    exact congrArg (fun link => ({ endpoint with link } : Endpoint))
      (endpoint.link.use_reset passing)
  | operate operation => exact device.operate_field operation
  | configure change =>
    simp only [happen]
    split <;> rfl
  | count => rfl
  | reset clear => exact device.reset_field clear

theorem happen_field_congr {other : Device} {event : DeviceEvent}
    (furnishes : event.furnishes = true) (same : device.field = other.field) :
    (device.happen event).field = (other.happen event).field := by
  cases event with
  | appear protocol techMode identifier =>
    simp only [happen, addEndpoint, field, List.map_append] at same ⊢
    rw [same]
  | manage index use =>
    have managed (device : Device) : (device.happen (.manage index use)).field =
        device.field.modify index fun endpoint =>
          { endpoint with link := endpoint.link.use use } := by
      refine map_modify _ fun endpoint _ => ?_
      exact congrArg (fun link => ({ endpoint with link } : Endpoint))
        (endpoint.link.reset_use furnishes)
    rw [managed device, managed other, same]
  | operate | configure | count | reset => cases furnishes

theorem after_field (events : List DeviceEvent) :
    (after events).field = (after (events.filter DeviceEvent.furnishes)).field := by
  have step (events : List DeviceEvent) : ∀ device other : Device, device.field = other.field →
      (events.foldl happen device).field =
        ((events.filter DeviceEvent.furnishes).foldl happen other).field := by
    induction events with
    | nil => exact fun _ _ same => same
    | cons event events ih =>
      intro device other same
      cases furnishes : event.furnishes with
      | true =>
        rw [List.filter_cons_of_pos furnishes]
        exact ih _ _ (happen_field_congr furnishes same)
      | false =>
        rw [List.filter_cons_of_neg (by simp [furnishes])]
        exact ih _ _ ((happen_field furnishes).trans same)
  exact step events _ _ rfl

theorem deactivate_lastId (device : Device) : device.deactivate.lastId = device.lastId := by
  unfold deactivate
  split <;> rfl

/-- A cleared device is nothing but its field and the number of the last activation. -/
theorem reset_eq (device : Device) : device.reset true =
    { state := .reset, endpoints := device.field, lastId := device.lastId } := by
  have field : device.deactivate.endpoints.map Endpoint.reset = device.field :=
    device.deactivate_field
  rw [reset, field, device.deactivate_lastId, device.deactivate_active]
  rfl

theorem after_furnished_lastId (events : List DeviceEvent) :
    (after (events.filter DeviceEvent.furnishes)).lastId = 0 := by
  have kept (device : Device) (event : DeviceEvent) (furnishes : event.furnishes = true) :
      (device.happen event).lastId = device.lastId := by
    cases event with
    | appear | manage => rfl
    | operate | configure | count | reset => cases furnishes
  have step (events : List DeviceEvent) (all : ∀ event ∈ events, event.furnishes = true) :
      ∀ device : Device, (events.foldl happen device).lastId = device.lastId := by
    induction events with
    | nil => exact fun _ => rfl
    | cons event events ih =>
      obtain ⟨first, others⟩ := List.forall_mem_cons.mp all
      exact fun device => (ih others _).trans (kept device event first)
  exact step _ (fun event inside => (List.mem_filter.mp inside).2) (ofEndpoints [])

/-- Once the device is cleared, a past and the events of it that bear on the field end in devices
that differ in the number of the last activation alone. -/
theorem reset_after (events : List DeviceEvent) :
    (after events).reset true =
      ((after (events.filter DeviceEvent.furnishes)).reset true).renumber
        (after events).lastId := by
  rw [reset_eq, reset_eq, after_field, after_furnished_lastId, renumber]
  simp only [UInt8.zero_add]

/-- Whatever happened to a device before a reset that clears the configuration: to a host that goes
on using it, and has any of the deliveries made that it is left with from then on, it shows what a
new device shows after the same reset, in which the same endpoints appeared and the same services
were bound, in the same order. Only the discovery identifiers differ, all by the number of the last
activation. -/
theorem reset_forgets (events : List DeviceEvent) (bytes : Octets)
    (resets : commandIn? bytes = some (.coreReset 0x01)) (calls : List HostCall) :
    let used := after events
    let new := after (events.filter DeviceEvent.furnishes)
    (used.processNci bytes).2.views [] calls =
      ((new.processNci bytes).2.views [] calls).map (HostView.renumber used.lastId) := by
  intro used new
  have cleared (device : Device) : (device.processNci bytes).2 = device.reset true := by
    rw [processNci_command resets, execute_reset]
    rfl
  rw [cleared, cleared, reset_after]
  exact views_renumber used.lastId _ [] calls

/-- A device that was activated once, reset and activated anew. -/
theorem reset_forgets_activation :
    let events : List DeviceEvent := [.appear .nfcDep .passivePollA (.zero 10),
      .operate (.nci [0x20, 0x00, 0x01, 0x00]), .manage 0 (.operate (.bind (.masked 16) [0x61])),
      .operate (.nci [0x20, 0x01, 0x00]), .operate (.nci [0x21, 0x03, 0x03, 0x01, 0x00, 0x01])]
    let furnishing : List DeviceEvent := [.appear .nfcDep .passivePollA (.zero 10),
      .manage 0 (.operate (.bind (.masked 16) [0x61]))]
    let bytes : Octets := [0x20, 0x00, 0x01, 0x01]
    let calls : List HostCall :=
      [.nci [0x20, 0x01, 0x00], .nci [0x21, 0x03, 0x03, 0x01, 0x00, 0x01], .complete 0 255]
    commandIn? bytes = some (.coreReset 0x01) ∧ (after events).lastId = 1 ∧
      ((after events).processNci bytes).2.views [] calls =
        (((after furnishing).processNci bytes).2.views [] calls).map (HostView.renumber 1) := by
  intro events furnishing bytes calls
  have resets : commandIn? bytes = some (.coreReset 0x01) := by decide +kernel
  have counted : (after events).lastId = 1 := by decide +kernel
  have forgets : ((after events).processNci bytes).2.views [] calls =
      (((after furnishing).processNci bytes).2.views [] calls).map
        (HostView.renumber (after events).lastId) := reset_forgets events bytes resets calls
  rw [counted] at forgets
  exact ⟨resets, counted, forgets⟩

end Device

end NearField
