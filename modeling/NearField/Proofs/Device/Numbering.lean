import NearField.Proofs.Device.Command

/-!
The number of the last activation. Main statement: two devices that differ in it alone show a host
the same, whatever it asks for, except that the discovery identifiers it is told differ by as much.
-/

namespace NearField

def DeliveryContent.renumber (shift : UInt8) : DeliveryContent → DeliveryContent
  | activated activation discoveryId => .activated activation (discoveryId + shift)
  | deactivated deactivation reason => .deactivated deactivation reason
  | linkData => .linkData

def Delivery.renumber (shift : UInt8) (delivery : Delivery) : Delivery :=
  { delivery with content := delivery.content.renumber shift }

/-- The octets of a delivery with another discovery identifier in them, which stands behind the
header of a notification that an endpoint was activated and nowhere else. -/
def DeliveryContent.renumberOctets (shift : UInt8) : DeliveryContent → Octets → Octets
  | activated _ _, octets => octets.modify Nci.packetHeaderLength (· + shift)
  | _, octets => octets

namespace Device

open Nci (Command Packet)

def NciAnswer.renumber (shift : UInt8) (answer : NciAnswer) : NciAnswer :=
  { answer with delivery := answer.delivery.map (Delivery.renumber shift) }

def renumber (shift : UInt8) (device : Device) : Device :=
  { device with lastId := device.lastId + shift }

def renumberOutcome (shift : UInt8) (outcome : Option NciAnswer × Device) :
    Option NciAnswer × Device :=
  (outcome.1.map (NciAnswer.renumber shift), outcome.2.renumber shift)

variable (shift : UInt8) (device : Device)

theorem replyLeaving_renumber (packet : Packet) (delivery : Option Delivery) :
    (replyLeaving packet delivery).map (NciAnswer.renumber shift) =
      replyLeaving packet (delivery.map (Delivery.renumber shift)) := by
  rw [replyLeaving, Option.map_map]
  rfl

theorem reply_renumber (packet : Packet) :
    (reply packet).map (NciAnswer.renumber shift) = reply packet :=
  replyLeaving_renumber shift packet none

theorem replied_renumber (packet : Packet) :
    renumberOutcome shift (reply packet, device) = (reply packet, device.renumber shift) :=
  congrArg (·, device.renumber shift) (reply_renumber shift packet)

theorem ready_renumber (opcode : Nci.Opcode) {outcome other : Option NciAnswer × Device}
    (same : other = renumberOutcome shift outcome) :
    (if device.state ≠ .initialized then
        (replyStatus opcode .notInitialized, device.renumber shift)
      else other) =
      renumberOutcome shift
        (if device.state ≠ .initialized then (replyStatus opcode .notInitialized, device)
        else outcome) := by
  split
  · exact (replied_renumber shift device _).symm
  · exact same

theorem deactivate_renumber :
    (device.renumber shift).deactivate = device.deactivate.renumber shift := by
  obtain ⟨state, rfState, rf, endpoints, active, lastId, configuration, pipes⟩ := device
  cases active <;> rfl

theorem activate_renumber (activation : Activation) :
    (device.renumber shift).activate activation = (device.activate activation).renumber shift := by
  have same : (device.renumber shift).endpoints = device.endpoints := rfl
  unfold activate
  rw [same]
  cases device.endpoints[activation.endpoint]? <;> rfl

theorem coreReset_renumber (resetType : UInt8) :
    (device.renumber shift).coreReset resetType =
      renumberOutcome shift (device.coreReset resetType) := by
  rw [coreReset, coreReset, replied_renumber, reset, reset, deactivate_renumber]
  rfl

theorem coreGetConfig_renumber (ids : List UInt8) :
    ((device.renumber shift).coreGetConfig ids, device.renumber shift) =
      renumberOutcome shift (device.coreGetConfig ids, device) := by
  have same : (device.coreGetConfig ids).map (NciAnswer.renumber shift) =
      device.coreGetConfig ids := by
    dsimp only [coreGetConfig, replyStatus]
    split <;> split <;> exact reply_renumber shift _
  rw [renumberOutcome, same]
  rfl

theorem rfDiscoverMap_renumber (mappings : List Nci.DiscoverMapping) :
    (device.renumber shift).rfDiscoverMap mappings =
      renumberOutcome shift (device.rfDiscoverMap mappings) := by
  unfold rfDiscoverMap replyStatus
  split
  · rw [replied_renumber]
    rfl
  · rw [replied_renumber]

theorem rfDiscover_renumber (configs : List Nci.DiscoverConfig) :
    (device.renumber shift).rfDiscover configs =
      renumberOutcome shift (device.rfDiscover configs) := by
  have same : (device.renumber shift).discovered configs = device.discovered configs := rfl
  have state : (device.renumber shift).rfState = device.rfState := rfl
  unfold rfDiscover replyStatus
  rw [same, state]
  split
  · rw [replied_renumber]
  · cases device.discovered configs with
    | none =>
      simp only [replied_renumber]
      rfl
    | some activation =>
      -- both devices count on from their own number
      have searching : ({ device.renumber shift with rfState := .discovery } : Device) =
          ({ device with rfState := .discovery } : Device).renumber shift := rfl
      have counted (other : Device) :
          (other.renumber shift).countActivation = other.countActivation.renumber shift := by
        simp only [countActivation, renumber, Device.mk.injEq, true_and, and_true]
        rw [UInt8.add_assoc, UInt8.add_comm shift, ← UInt8.add_assoc]
      simp only [searching, activate_renumber, counted, renumberOutcome, replyLeaving_renumber]
      rfl

theorem rfDeactivate_renumber (deactivation : UInt8) :
    (device.renumber shift).rfDeactivate deactivation =
      renumberOutcome shift (device.rfDeactivate deactivation) := by
  have state : (device.renumber shift).rfState = device.rfState := rfl
  have active : (device.renumber shift).active = device.active := rfl
  unfold rfDeactivate replyStatus
  rw [state, active, deactivate_renumber]
  split
  · rw [replied_renumber]
  · simp only [renumberOutcome, replyLeaving_renumber]
    split <;> rfl

theorem execute_renumber (command : Command) :
    (device.renumber shift).execute command =
      renumberOutcome shift (device.execute command) := by
  cases command with
  | coreReset resetType => exact coreReset_renumber shift device resetType
  | coreInit =>
    have state : (device.renumber shift).state = device.state := rfl
    dsimp only [execute, replyStatus, coreInit]
    rw [state]
    split
    · rw [replied_renumber]
      rfl
    · rw [replied_renumber]
  | unsupported opcode =>
    exact ready_renumber shift device _ (replied_renumber shift device _).symm
  | coreSetConfig params =>
    refine ready_renumber shift device _ ?_
    simp only [coreSetConfig, replied_renumber]
    rfl
  | coreGetConfig ids =>
    exact ready_renumber shift device _ (coreGetConfig_renumber shift device ids)
  | rfDiscoverMap mappings =>
    exact ready_renumber shift device _ (rfDiscoverMap_renumber shift device mappings)
  | rfDiscover configs =>
    exact ready_renumber shift device _ (rfDiscover_renumber shift device configs)
  | rfDeactivate deactivation =>
    exact ready_renumber shift device _ (rfDeactivate_renumber shift device deactivation)

theorem storeActiveLink_renumber (link : Llcp.LogicalLink) :
    (device.renumber shift).storeActiveLink link =
      (device.storeActiveLink link).renumber shift := by
  obtain ⟨state, rfState, rf, endpoints, active, lastId, configuration, pipes⟩ := device
  cases active <;> rfl

theorem processData_renumber (connection : UInt8) (payload : Octets) :
    (device.renumber shift).processData connection payload =
      renumberOutcome shift (device.processData connection payload) := by
  have peer : (device.renumber shift).peerLink = device.peerLink := rfl
  unfold processData
  rw [peer]
  cases device.peerLink with
  | none =>
    simp only
    rw [replied_renumber]
  | some link =>
    simp only
    split
    · rw [replied_renumber]
    · rw [storeActiveLink_renumber, renumberOutcome, replyLeaving_renumber]
      rfl

theorem processNci_renumber (bytes : Octets) :
    (device.renumber shift).processNci bytes =
      renumberOutcome shift (device.processNci bytes) := by
  unfold processNci
  split
  · rfl
  · exact processData_renumber shift device _ _
  · split
    · exact (replied_renumber shift device _).symm
    · exact execute_renumber shift device _
  · rfl

theorem processHci_renumber (bytes : Octets) :
    (device.renumber shift).processHci bytes =
      ((device.processHci bytes).1, (device.processHci bytes).2.renumber shift) := by
  unfold processHci
  split
  · rfl
  · split <;> rfl

theorem encode_first (type : Nci.MessageType) (more : Bool) (group opcode first : UInt8)
    (rest : Octets) :
    (Packet.control type more group opcode ((first + shift) :: rest)).encode =
      (Packet.control type more group opcode (first :: rest)).encode.map
        (List.modify · Nci.packetHeaderLength (· + shift)) := by
  change (if Nci.maxPayload < rest.length + 1 then Except.error _ else Except.ok _) =
    (if Nci.maxPayload < rest.length + 1 then Except.error _ else Except.ok _).map _
  split <;> rfl

theorem within_map (room : Nat) (encoding : Except Error Octets) {change : Octets → Octets}
    (same : ∀ octets, (change octets).length = octets.length) :
    Octets.within room (encoding.map change) = (Octets.within room encoding).map change := by
  cases encoding with
  | error e => rfl
  | ok octets =>
    change (if room < (change octets).length then _ else Except.ok (change octets)) =
      (if room < octets.length then _ else Except.ok octets).map change
    rw [same]
    split <;> rfl

theorem activated_renumber (activation : Activation) (discoveryId : UInt8) :
    (device.activatedNotification activation (discoveryId + shift)).bind Packet.encode =
      ((device.activatedNotification activation discoveryId).bind Packet.encode).map
        (List.modify · Nci.packetHeaderLength (· + shift)) := by
  unfold activatedNotification
  cases device.endpoints[activation.endpoint]? with
  | none => rfl
  | some endpoint => exact encode_first shift _ _ _ _ _ _

theorem deliver_renumber (content : DeliveryContent) (room : Nat) :
    (device.renumber shift).deliver (content.renumber shift) room =
      ((device.deliver content room).1.map (content.renumberOctets shift),
        (device.deliver content room).2.renumber shift) := by
  have idle (result : Except Error Octets) : result.map id = result := by cases result <;> rfl
  cases content with
  | activated activation discoveryId =>
    have encoding := activated_renumber shift device activation discoveryId
    have same (octets : Octets) :
        (octets.modify Nci.packetHeaderLength (· + shift)).length = octets.length :=
      List.length_modify _ _ _
    have delivered := within_map room
      ((device.activatedNotification activation discoveryId).bind Packet.encode) same
    rw [← encoding] at delivered
    exact congrArg (·, device.renumber shift) delivered
  | deactivated deactivation reason =>
    exact congrArg (·, device.renumber shift) (idle _).symm
  | linkData =>
    have peer : (device.renumber shift).peerLink = device.peerLink := rfl
    dsimp only [deliver, DeliveryContent.renumber]
    rw [peer]
    cases device.peerLink with
    | none => rfl
    | some link =>
      simp only [storeActiveLink_renumber]
      exact congrArg (·, _) (idle _).symm

inductive HostCall where
  | nci (bytes : Octets)
  | hci (bytes : Octets)
  | complete (index : Nat) (room : Nat)

/-- What a host is shown: an answer to a packet or that there is none, a response to a message or
that there is none, and what a delivery came to. -/
inductive HostView where
  | answered (answer : Option NciAnswer)
  | responded (response : Option Octets)
  | delivered (delivery : Delivery) (result : Except Error Octets)
  | nothing

def HostView.renumber (shift : UInt8) : HostView → HostView
  | answered answer => .answered (answer.map (NciAnswer.renumber shift))
  | responded response => .responded response
  | delivered delivery result =>
    .delivered (delivery.renumber shift) (result.map (delivery.content.renumberOctets shift))
  | nothing => .nothing

/-- Carries out a call; the deliveries are those left behind so far, oldest first. -/
def call (device : Device) (deliveries : List Delivery) :
    HostCall → HostView × Device × List Delivery
  | .nci bytes =>
    let (answer, device) := device.processNci bytes
    (.answered answer, device, deliveries ++ (answer.bind NciAnswer.delivery).toList)
  | .hci bytes =>
    let (response, device) := device.processHci bytes
    (.responded response, device, deliveries)
  | .complete index room =>
    match deliveries[index]? with
    | none => (.nothing, device, deliveries)
    | some delivery =>
      let (result, device) := device.deliver delivery.content room
      (.delivered delivery result, device, deliveries)

def views (device : Device) (deliveries : List Delivery) : List HostCall → List HostView
  | [] => []
  | call :: calls =>
    let (view, device, deliveries) := device.call deliveries call
    view :: device.views deliveries calls

theorem call_renumber (deliveries : List Delivery) (call : HostCall) :
    (device.renumber shift).call (deliveries.map (Delivery.renumber shift)) call =
      ((device.call deliveries call).1.renumber shift,
        (device.call deliveries call).2.1.renumber shift,
        (device.call deliveries call).2.2.map (Delivery.renumber shift)) := by
  cases call with
  | nci bytes =>
    simp only [Device.call, processNci_renumber, renumberOutcome, HostView.renumber,
      List.map_append]
    cases (device.processNci bytes).1 with
    | none => rfl
    | some answer => cases answer with | mk response delivery => cases delivery <;> rfl
  | hci bytes =>
    simp only [Device.call, processHci_renumber, HostView.renumber]
  | complete index room =>
    simp only [Device.call, List.getElem?_map]
    cases deliveries[index]? with
    | none => rfl
    | some delivery =>
      have made := deliver_renumber shift device delivery.content room
      simp only [Option.map_some]
      change (HostView.delivered _ ((device.renumber shift).deliver
        (delivery.content.renumber shift) room).1, ((device.renumber shift).deliver
        (delivery.content.renumber shift) room).2, _) = _
      rw [made]
      rfl

/-- The number of the last activation has no influence on what a host is shown but on the discovery
identifiers. -/
theorem views_renumber (deliveries : List Delivery) (calls : List HostCall) :
    (device.renumber shift).views (deliveries.map (Delivery.renumber shift)) calls =
      (device.views deliveries calls).map (HostView.renumber shift) := by
  induction calls generalizing device deliveries with
  | nil => rfl
  | cons call calls ih =>
    simp only [views, call_renumber, ih, List.map_cons]

end Device

end NearField
