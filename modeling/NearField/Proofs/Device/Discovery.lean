import NearField.Proofs.Device.Answer
import NearField.Proofs.Device.Coherence
import NearField.Proofs.Device.Command
import NearField.Proofs.Llcp.ParamCodec
import NearField.Proofs.Nci.Activation
import Mathlib.Data.List.Basic

/-!
How an endpoint is found and what the host is told of it. Main statement: discovery activates the
first endpoint in the field that answers a technology asked for and has a slot, earlier technologies
first, and the notification that follows names that endpoint, its slot's interface and, to a peer,
what the link layer has to know.
-/

namespace NearField

namespace Rf.Table

variable {table : Table} {protocol : Protocol} {techMode : TechMode} {index : Fin slotCount}

def Suits (table : Table) (protocol : Protocol) (techMode : TechMode) (index : Fin slotCount) :
    Prop :=
  (table.get index).protocol = protocol ∧ (table.get index).techMode = techMode

theorem suits_iff : ((table.get index).protocol == protocol &&
    (table.get index).techMode == techMode) = true ↔ table.Suits protocol techMode index := by
  simp [Suits]

theorem first_of_find (found : table.find protocol techMode = some index) :
    table.Suits protocol techMode index ∧
      ∀ earlier < index, ¬table.Suits protocol techMode earlier := by
  obtain ⟨_, place, inside, here, failures⟩ := List.find?_eq_some_iff_getElem.mp found
  refine ⟨get_of_find found, fun earlier before fits => ?_⟩
  have below : earlier.val < place := by
    rw [← here] at before
    simpa [Fin.lt_def] using before
  have fails := failures earlier.val below
  rw [List.getElem_finRange, Bool.not_eq_true'] at fails
  have passes := suits_iff.mpr fits
  exact absurd (passes.symm.trans fails) (by decide)

theorem find_eq_none_iff :
    table.find protocol techMode = none ↔ ∀ index, ¬table.Suits protocol techMode index := by
  simp [find, Suits]

end Rf.Table

namespace Device

open Nci (DiscoverConfig Packet Status)
open Nci.Notification (AttributeResponse)

theorem findSome?_zipIdx {α β : Type} {entries : List α} {test : α × Nat → Option β} {value : β}
    (found : entries.zipIdx.findSome? test = some value) :
    ∃ place entry, entries[place]? = some entry ∧ test (entry, place) = some value ∧
      ∀ earlier < place, ∀ other, entries[earlier]? = some other →
        test (other, earlier) = none := by
  obtain ⟨before, ⟨entry, place⟩, after, listed, success, failures⟩ :=
    List.findSome?_eq_some_iff.mp found
  have placed (i : Nat) : (before ++ (entry, place) :: after)[i]? =
      entries[i]?.map fun entry => (entry, i) := by
    rw [← listed, List.getElem?_zipIdx]
    simp only [Nat.zero_add]
  -- the success stands behind `before`, so that its place is the number of failures
  have here := placed before.length
  rw [List.getElem?_append_right (Nat.le_refl _), Nat.sub_self] at here
  obtain ⟨_, present, same⟩ := Option.map_eq_some_iff.mp here.symm
  cases same
  refine ⟨before.length, entry, present, success, fun earlier below other found => ?_⟩
  have there := placed earlier
  rw [List.getElem?_append_left below, found] at there
  exact failures _ (List.mem_of_getElem? there)

variable {device : Device} {configs : List DiscoverConfig}

/-- An endpoint answers in the technology that is asked for, and the table has a slot for it. -/
def Discoverable (device : Device) (config : DiscoverConfig) (endpoint : Endpoint) : Prop :=
  endpoint.techMode = config.techMode ∧
    ∃ index, device.rf.Suits endpoint.protocol endpoint.techMode index

/-- What discovery is to find: by the first configuration that any endpoint answers the first
endpoint that answers it, and the first slot for that endpoint. -/
structure Finds (device : Device) (configs : List DiscoverConfig) (activation : Activation)
    (endpoint : Endpoint) : Prop where
  inField : device.endpoints[activation.endpoint]? = some endpoint
  first : ∃ earlier config later, configs = earlier ++ config :: later ∧
    device.Discoverable config endpoint ∧
    (∀ index < activation.endpoint, ∀ other, device.endpoints[index]? = some other →
      ¬device.Discoverable config other) ∧
    ∀ before ∈ earlier, ∀ other ∈ device.endpoints, ¬device.Discoverable before other
  slot : device.rf.Suits endpoint.protocol endpoint.techMode activation.slot
  lowest : ∀ index < activation.slot,
    ¬device.rf.Suits endpoint.protocol endpoint.techMode index

def answerTo (device : Device) (config : DiscoverConfig) (entry : Endpoint × Nat) :
    Option Activation :=
  if entry.1.techMode = config.techMode then
    (device.rf.find entry.1.protocol entry.1.techMode).map fun slot => ⟨entry.2, slot⟩
  else none

theorem discovered_eq (device : Device) (configs : List DiscoverConfig) :
    device.discovered configs =
      configs.findSome? fun config => device.endpoints.zipIdx.findSome? (device.answerTo config) :=
  rfl

theorem answerTo_eq_none_iff {config : DiscoverConfig} {entry : Endpoint × Nat} :
    device.answerTo config entry = none ↔ ¬device.Discoverable config entry.1 := by
  by_cases asked : entry.1.techMode = config.techMode
  · rw [answerTo, if_pos asked, Option.map_eq_none_iff, Rf.Table.find_eq_none_iff, Discoverable]
    simp only [asked, true_and, not_exists]
  · rw [answerTo, if_neg asked, Discoverable]
    simp [asked]

theorem nobody_answers_iff {config : DiscoverConfig} :
    device.endpoints.zipIdx.findSome? (device.answerTo config) = none ↔
      ∀ endpoint ∈ device.endpoints, ¬device.Discoverable config endpoint := by
  rw [List.findSome?_eq_none_iff]
  constructor
  · intro nobody endpoint inside
    obtain ⟨index, found⟩ := List.getElem?_of_mem inside
    have listed : (endpoint, index) ∈ device.endpoints.zipIdx :=
      List.mem_zipIdx_iff_getElem?.mpr found
    exact answerTo_eq_none_iff.mp (nobody _ listed)
  · intro nobody entry listed
    exact answerTo_eq_none_iff.mpr (nobody _ (List.fst_mem_of_mem_zipIdx listed))

theorem discovered_eq_none_iff : device.discovered configs = none ↔
    ∀ config ∈ configs, ∀ endpoint ∈ device.endpoints, ¬device.Discoverable config endpoint := by
  rw [discovered_eq, List.findSome?_eq_none_iff]
  exact forall₂_congr fun _ _ => nobody_answers_iff

theorem finds_of_discovered {activation : Activation}
    (found : device.discovered configs = some activation) :
    ∃ endpoint, device.Finds configs activation endpoint := by
  obtain ⟨earlier, config, later, listed, among, before⟩ :=
    List.findSome?_eq_some_iff.mp (discovered_eq device configs ▸ found)
  obtain ⟨index, endpoint, present, answers, lower⟩ := findSome?_zipIdx among
  have discoverable : device.Discoverable config endpoint := by
    by_contra silent
    rw [answerTo_eq_none_iff.mpr silent] at answers
    cases answers
  rw [answerTo, if_pos discoverable.1] at answers
  obtain ⟨slot, suits, rfl⟩ := Option.map_eq_some_iff.mp answers
  obtain ⟨fits, first⟩ := Rf.Table.first_of_find suits
  refine ⟨endpoint, present, ⟨earlier, config, later, listed, discoverable, ?_, ?_⟩, fits, first⟩
  · intro place below other found
    exact answerTo_eq_none_iff.mp (lower place below other found)
  · intro other inside
    exact nobody_answers_iff.mp (before other inside)

/-- The device afterwards: the endpoint is active on the slot and nothing is connected or waits on
its link, the radio polls or listens, one more activation is counted, and all else is as before. -/
def Activated (device : Device) (activation : Activation) (endpoint : Endpoint)
    (after : Device) : Prop :=
  ∃ link, link.Vacant ∧ after =
    { device with
      rfState := if endpoint.techMode.isListen then .listenActive else .pollActive
      endpoints := device.endpoints.set activation.endpoint { endpoint with link }
      active := some activation
      lastId := device.lastId + 1 }

theorem activate_activated {activation : Activation} {endpoint : Endpoint}
    (inField : device.endpoints[activation.endpoint]? = some endpoint) :
    device.Activated activation endpoint
      (({ device with rfState := .discovery }.activate activation).countActivation) := by
  refine ⟨endpoint.link.reset, reset_vacant endpoint, ?_⟩
  simp only [activate, inField, countActivation, List.modify_eq_set_getElem?]
  rfl

/-- What a notification says of an activation: its number, the interface of the slot, and the
endpoint's protocol and technology; of a peer also the attribute response, with its identifier and,
after the magic number, the parameters of the link layer. -/
structure Describes (said : Nci.Notification.Activation) (number : UInt8) (slot : Rf.Slot)
    (endpoint : Endpoint) : Prop where
  discoveryId : said.discoveryId = number
  interface : said.interface = slot.interface
  protocol : said.protocol = endpoint.protocol
  techMode : said.techMode = endpoint.techMode
  exchangeMode : said.exchangeMode = endpoint.techMode
  peer : slot.interface = .nfcDep → ∃ response params,
    AttributeResponse.ofOctets? said.activationParams = some response ∧
      response.identifier = endpoint.identifier.octets ∧
      response.general = [0x46, 0x66, 0x6d] ++ params ∧
      Llcp.Param.parseAll params = .ok [.version 1 1, .wks 0x0013, .lto 100]
  other : slot.interface ≠ .nfcDep → said.activationParams = []

/-- The delivery that is left behind, once it is made in at most 255 octets, is the packet of a
notification that says something of an activation; making it changes nothing. -/
def Notifies (device : Device) (delivery : Option Delivery)
    (said : Nci.Notification.Activation) : Prop :=
  ∃ content octets payload, delivery = some ⟨.notification, content⟩ ∧
    device.deliver content 255 = (.ok octets, device) ∧
    (∀ rest, Packet.decode (octets ++ rest) =
      .ok (.notification .rfInterfaceActivated payload)) ∧
    octets.length = Nci.packetHeaderLength + payload.length ∧
    Nci.Notification.Activation.ofOctets? payload = some said

theorem notifies_of_short {activation : Activation} {number : UInt8}
    {said : Nci.Notification.Activation}
    (prepared : device.activatedNotification activation number =
      .ok (Nci.Notification.activated said))
    (short : said.techParams.length + said.activationParams.length ≤ 241) :
    device.Notifies (some ⟨.notification, .activated activation number⟩) said := by
  have length := Nci.Notification.length_activated said
  have encoded : (Nci.Notification.activated said).encode = .ok _ :=
    Packet.encode_fits (by rw [length, Nci.maxPayload]; omega)
  refine ⟨_, _, (Nci.Notification.activated said).payload, rfl, ?_,
    Packet.decode_encode (Packet.whole_narrow (by decide) _ _) encoded, Nat.add_comm _ 3,
    Nci.Notification.ofOctets?_activated (by omega) (by omega)⟩
  simp only [deliver, prepared, bind, Except.bind, encoded, Octets.within]
  rw [if_neg]
  · rfl
  · simp only [List.length_cons, length]
    omega

def announcement (number : UInt8) (slot : Rf.Slot) (endpoint : Endpoint) :
    Nci.Notification.Activation where
  discoveryId := number
  interface := slot.interface
  protocol := endpoint.protocol
  techMode := endpoint.techMode
  maxPayload := Nci.maxPayload.toUInt8
  credits := connectionCredits
  techParams := []
  exchangeMode := endpoint.techMode
  txRate := 0
  rxRate := 0
  activationParams :=
    if slot.interface = .nfcDep then
      Nci.Notification.peerParams endpoint.identifier.octets Llcp.Param.activationTail
    else []

theorem activatedNotification_eq {activation : Activation} {endpoint : Endpoint}
    (inField : device.endpoints[activation.endpoint]? = some endpoint) (number : UInt8) :
    device.activatedNotification activation number = .ok (Nci.Notification.activated
      (announcement number (device.rf.get activation.slot) endpoint)) := by
  rw [activatedNotification, inField]
  rfl

theorem announcement_describes (number : UInt8) (slot : Rf.Slot) (endpoint : Endpoint) :
    Describes (announcement number slot endpoint) number slot endpoint where
  discoveryId := rfl
  interface := rfl
  protocol := rfl
  techMode := rfl
  exchangeMode := rfl
  peer := by
    intro served
    obtain ⟨params, tail, read⟩ := Llcp.Param.activationTail_read
    have general : Llcp.Param.activationTail.length < 241 := by decide
    have answers := Nci.Notification.ofOctets?_peerParams endpoint.identifier.length_octets general
    refine ⟨⟨endpoint.identifier.octets, 0x00, 0x00, 0x00, 0x0e, 0x32, _⟩, params, ?_, rfl, tail,
      read⟩
    simp only [announcement, if_pos served]
    exact answers
  other := fun served => if_neg served

theorem announcement_short (number : UInt8) (slot : Rf.Slot) (endpoint : Endpoint) :
    (announcement number slot endpoint).techParams.length +
      (announcement number slot endpoint).activationParams.length ≤ 241 := by
  have general : Llcp.Param.activationTail.length = 13 := rfl
  simp only [announcement, List.length_nil]
  split
  · rw [Nci.Notification.length_peerParams, endpoint.identifier.length_octets, general]
    decide
  · decide

theorem Activated.notifies {activation : Activation} {endpoint : Endpoint} {after : Device}
    (activated : device.Activated activation endpoint after)
    (inField : device.endpoints[activation.endpoint]? = some endpoint) (number : UInt8) :
    ∃ said, after.Notifies (some ⟨.notification, .activated activation number⟩) said ∧
      Describes said number (device.rf.get activation.slot) endpoint := by
  obtain ⟨link, _, same⟩ := activated
  have renewed : after.endpoints[activation.endpoint]? = some { endpoint with link } := by
    rw [same]
    exact List.getElem?_set_self (List.getElem?_eq_some_iff.mp inField).1
  have table : after.rf = device.rf := by rw [same]
  have prepared := activatedNotification_eq renewed number
  rw [table] at prepared
  refine ⟨announcement number (device.rf.get activation.slot) endpoint, ?_,
    announcement_describes number _ endpoint⟩
  exact notifies_of_short prepared (announcement_short number _ endpoint)

/-- An initialised device at rest carries out every discovery. If an endpoint in the field answers,
the first one is activated on the first slot for it, and the notification that follows describes
that activation under the next number; if none does, the search goes on and nothing follows. -/
theorem discovery_activates_first (device : Device) {bytes : Octets}
    {configs : List DiscoverConfig} (ready : device.state = .initialized)
    (idle : device.rfState = .idle) (asked : commandIn? bytes = some (.rfDiscover configs)) :
    ∃ answer after, device.processNci bytes = (some answer, after) ∧
      answer.Carries (.response .rfDiscover [Status.ok.code]) ∧
      ((∃ config ∈ configs, ∃ endpoint ∈ device.endpoints, device.Discoverable config endpoint) →
        ∃ activation endpoint said, device.Finds configs activation endpoint ∧
          device.Activated activation endpoint after ∧ after.Notifies answer.delivery said ∧
          Describes said (device.lastId + 1) (device.rf.get activation.slot) endpoint) ∧
      ((∀ config ∈ configs, ∀ endpoint ∈ device.endpoints,
          ¬device.Discoverable config endpoint) →
        answer.delivery = none ∧ after = { device with rfState := .discovery }) := by
  have carried : device.processNci bytes = device.rfDiscover configs :=
    (processNci_command asked).trans (if_neg (not_not.mpr ready))
  have few : ([] : Octets).length < Nci.maxPayload := by decide
  rw [carried, rfDiscover, if_neg (not_not.mpr idle)]
  cases found : device.discovered configs with
  | none =>
    have nobody := discovered_eq_none_iff.mp found
    obtain ⟨answer, replied, carries, silent⟩ := sends_response .rfDiscover .ok few none
    refine ⟨answer, { device with rfState := .discovery }, Prod.ext replied rfl, carries, ?_, ?_⟩
    · rintro ⟨config, listed, endpoint, inside, discoverable⟩
      exact absurd discoverable (nobody config listed endpoint inside)
    · exact fun _ => ⟨silent, rfl⟩
  | some activation =>
    obtain ⟨endpoint, finds⟩ := finds_of_discovered found
    have activated := activate_activated finds.inField
    have counted :
        (({ device with rfState := .discovery }.activate activation).countActivation).lastId =
          device.lastId + 1 := by
      obtain ⟨_, _, same⟩ := activated
      rw [same]
    obtain ⟨said, notifies, describes⟩ := activated.notifies finds.inField (device.lastId + 1)
    obtain ⟨answer, replied, carries, left⟩ := sends_response .rfDiscover .ok few
      (some ⟨.notification, .activated activation (device.lastId + 1)⟩)
    refine ⟨answer, _, Prod.ext ?_ rfl, carries, fun _ => ?_, fun nobody => ?_⟩
    · rw [← counted] at replied
      exact replied
    · rw [left]
      exact ⟨activation, endpoint, said, finds, activated, notifies, describes⟩
    · rw [discovered_eq_none_iff.mpr nobody] at found
      cases found

/-- Two endpoints are polled in one technology, and before them one listens for which the table has
no slot. -/
theorem discovery_activates_first_of_two :
    let device := (ofEndpoints []).useAll [.appear .isoDep .passiveListenB (.zero 10),
      .appear .nfcDep .passivePollA (.zero 10), .appear .nfcDep .passivePollA (.zero 10),
      .operate (.nci [0x20, 0x00, 0x01, 0x01]), .operate (.nci [0x20, 0x01, 0x00])]
    let bytes : Octets := [0x21, 0x03, 0x05, 0x02, 0x81, 0x01, 0x00, 0x01]
    let configs : List DiscoverConfig := [⟨.passiveListenB, 1⟩, ⟨.passivePollA, 1⟩]
    device.state = .initialized ∧ device.rfState = .idle ∧
      commandIn? bytes = some (.rfDiscover configs) ∧
      ∃ answer after activation endpoint said, device.processNci bytes = (some answer, after) ∧
        device.Finds configs activation endpoint ∧ activation.endpoint = 1 ∧
        device.Activated activation endpoint after ∧ after.Notifies answer.delivery said ∧
        Describes said 1 (device.rf.get activation.slot) endpoint := by
  intro device bytes configs
  have ready : device.state = .initialized := by decide +kernel
  have idle : device.rfState = .idle := by decide +kernel
  have asked : commandIn? bytes = some (.rfDiscover configs) := by decide +kernel
  have suits : device.rf.Suits .nfcDep .passivePollA ⟨0, by decide⟩ := by
    unfold Rf.Table.Suits
    decide +kernel
  have somebody : ∃ config ∈ configs, ∃ endpoint ∈ device.endpoints,
      device.Discoverable config endpoint := by
    have present : device.endpoints[1]? =
        some (Endpoint.new .nfcDep .passivePollA (.zero 10)).reset := rfl
    exact ⟨⟨.passivePollA, 1⟩, by decide, _, List.mem_of_getElem? present, rfl, _, suits⟩
  obtain ⟨answer, after, carried, _, activates, _⟩ :=
    device.discovery_activates_first ready idle asked
  obtain ⟨activation, endpoint, said, finds, activated, notifies, describes⟩ :=
    activates somebody
  have second : (device.processNci bytes).2.active.map (·.endpoint) = some 1 := by decide +kernel
  have active : after.active = some activation := by
    obtain ⟨_, _, same⟩ := activated
    rw [same]
  rw [carried, active] at second
  have number : device.lastId + 1 = 1 := by decide +kernel
  rw [number] at describes
  exact ⟨ready, idle, asked, answer, after, activation, endpoint, said, carried, finds,
    Option.some.inj second, activated, notifies, describes⟩

end Device

end NearField
