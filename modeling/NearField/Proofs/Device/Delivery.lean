import NearField.Controller.Basic
import NearField.Proofs.Device.Operation
import NearField.Proofs.Llcp.Outbound

/-!
Deliveries of what an endpoint's logical link has to send. Main statement: a delivery produces a
packet, and repeated deliveries produce one for everything that waits, unless the answer to
sixty-three questions stands in the way.
-/

namespace NearField.Device

open Llcp (LogicalLink packetRoom LookupAnswer)

def dataPacket (pdu : Octets) : Octets :=
  (Nci.Packet.ofData Nci.staticConnection pdu).lead.1 ::
    (Nci.Packet.ofData Nci.staticConnection pdu).lead.2 :: pdu.length.toUInt8 :: pdu

def packaged (pdu : Octets) : Except Error Octets :=
  Octets.within Controller.deliveryRoom (Nci.Packet.ofData Nci.staticConnection pdu).encode

theorem length_dataPacket (pdu : Octets) : (dataPacket pdu).length = pdu.length + 3 := rfl

theorem packaged_fits {pdu : Octets} (fits : pdu.length ≤ packetRoom) :
    packaged pdu = .ok (dataPacket pdu) := by
  rw [packetRoom] at fits
  have encoded : (Nci.Packet.ofData Nci.staticConnection pdu).encode = .ok (dataPacket pdu) :=
    if_neg (Nat.not_lt.mpr (Nat.le_trans fits (by decide)))
  have room : ¬Controller.deliveryRoom < (dataPacket pdu).length := by
    rw [length_dataPacket, Controller.deliveryRoom]
    omega
  rw [packaged, encoded]
  exact if_neg room

theorem packaged_within {pdu octets : Octets} (produced : packaged pdu = .ok octets) :
    octets.length ≤ Controller.deliveryRoom :=
  (Octets.within_ok produced).2

theorem packaged_long {pdu : Octets} (long : packetRoom < pdu.length) :
    ∃ e, packaged pdu = .error e := by
  cases produced : packaged pdu with
  | error e => exact ⟨e, rfl⟩
  | ok octets =>
    obtain ⟨encoded, bound⟩ := Octets.within_ok produced
    rw [Nci.Packet.encode] at encoded
    split at encoded
    · cases encoded
    · cases encoded
      have size : (dataPacket pdu).length ≤ Controller.deliveryRoom := bound
      rw [length_dataPacket, Controller.deliveryRoom] at size
      rw [packetRoom] at long
      omega

section Served

variable {device : Device} {link : LogicalLink}

theorem peerLink_store (peer : device.peerLink = some link) (after : LogicalLink) :
    (device.storeActiveLink after).peerLink = some after := by
  obtain ⟨activation, endpoint, active, served, found, _⟩ := peerLink_some peer
  rw [storeActiveLink, active]
  simp only [storeLink, peerLink, active, served, if_true, activeLink, activeEndpoint,
    Option.bind_some, List.getElem?_modify_eq, found]
  rfl

theorem storeActiveLink_same (peer : device.peerLink = some link) :
    device.storeActiveLink link = device := by
  obtain ⟨activation, endpoint, active, _, found, rfl⟩ := peerLink_some peer
  have unchanged : device.endpoints.modify activation.endpoint
      (fun other => { other with link := endpoint.link }) = device.endpoints := by
    apply List.ext_getElem?
    intro index
    rw [List.getElem?_modify]
    by_cases here : activation.endpoint = index
    · subst here
      rw [found]
      simp
    · simp [here]
  rw [storeActiveLink, active]
  simp only [storeLink, unchanged]

theorem deliver_linkData (peer : device.peerLink = some link) :
    device.deliver .linkData Controller.deliveryRoom =
      match packaged (link.outbound.head?.getD LogicalLink.symmetry) with
      | .ok octets => (.ok octets, device.storeActiveLink link.next.2)
      | .error e => (.error e, device) := by
  simp only [deliver, peer, LogicalLink.transmit, LogicalLink.peek_outbound]
  change _ = match Octets.within _ _ with
    | .ok octets => _
    | .error e => _
  split
  · rename_i e failed
    rw [failed]
    simp only [storeActiveLink_same peer]
  · rename_i octets worked
    rw [worked]

theorem deliver_fits (peer : device.peerLink = some link)
    (fits : ∀ pdu ∈ link.outbound.head?, pdu.length ≤ packetRoom) :
    device.deliver .linkData Controller.deliveryRoom =
      (.ok (dataPacket (link.outbound.head?.getD LogicalLink.symmetry)),
        device.storeActiveLink link.next.2) := by
  have short : (link.outbound.head?.getD LogicalLink.symmetry).length ≤ packetRoom := by
    cases first : link.outbound.head? with
    | none => decide
    | some pdu => exact fits pdu first
  rw [deliver_linkData peer, packaged_fits short]

theorem deliver_long (peer : device.peerLink = some link) {pdu : Octets}
    (first : link.outbound.head? = some pdu) (long : packetRoom < pdu.length) :
    ∃ e, device.deliver .linkData Controller.deliveryRoom = (.error e, device) := by
  obtain ⟨e, failed⟩ := packaged_long long
  refine ⟨e, ?_⟩
  rw [deliver_linkData peer, first, Option.getD_some, failed]

/-- So many deliveries one after the other: what they produce and the device afterwards. -/
def deliveries (device : Device) : Nat → List (Except Error Octets) × Device
  | 0 => ([], device)
  | count + 1 =>
    let (result, after) := device.deliver .linkData Controller.deliveryRoom
    let (results, final) := after.deliveries count
    (result :: results, final)

/-- As long as everything fits, as many deliveries as PDUs wait produce them all in order. -/
theorem deliveries_all (peer : device.peerLink = some link)
    (fits : ∀ pdu ∈ link.outbound, pdu.length ≤ packetRoom) :
    (device.deliveries link.outbound.length).1 =
      link.outbound.map fun pdu => .ok (dataPacket pdu) := by
  generalize waiting : link.outbound = pdus at fits
  induction pdus generalizing device link with
  | nil => rfl
  | cons pdu pdus ih =>
    obtain ⟨short, others⟩ := List.forall_mem_cons.mp fits
    have head : link.outbound.head? = some pdu := by rw [waiting, List.head?_cons]
    have rest : link.next.2.outbound = pdus := by
      rw [(LogicalLink.next_outbound link).2, waiting, List.tail_cons]
    have done := deliver_fits peer (by simpa [head] using short)
    rw [head, Option.getD_some] at done
    simp only [List.length_cons, deliveries, done, List.map_cons]
    rw [ih (peerLink_store peer _) rest others]

theorem deliveries_within {octets : Octets} {count : Nat}
    (produced : .ok octets ∈ (device.deliveries count).1) :
    octets.length ≤ Controller.deliveryRoom := by
  induction count generalizing device with
  | zero => cases produced
  | succ count ih =>
    have either : .ok octets = (device.deliver .linkData Controller.deliveryRoom).1 ∨
        .ok octets ∈ ((device.deliver .linkData Controller.deliveryRoom).2.deliveries count).1 :=
      List.mem_cons.mp produced
    rcases either with first | later
    · cases peer : device.peerLink with
      | none =>
        simp only [deliver, peer] at first
        cases first
        decide
      | some link =>
        rw [deliver_linkData peer] at first
        split at first
        · rename_i worked
          cases first
          exact packaged_within worked
        · cases first
    · exact ih later

/-- Of what waits, only the answer to sixty-three questions is too long. -/
theorem fits_iff {pdu : Octets} (kind : Llcp.ControlPdu pdu) :
    pdu.length ≤ packetRoom ↔ ¬LookupAnswer 63 pdu := by
  have long (answer : LookupAnswer 63 pdu) : ¬pdu.length ≤ packetRoom := by
    rw [answer.length_eq]
    decide
  exact ⟨fun fits answer => long answer fits, fun other => kind.resolve_right other⟩

theorem delivered_iff (peer : device.peerLink = some link)
    (kinds : ∀ pdu ∈ link.outbound, Llcp.ControlPdu pdu) :
    (∃ octets, (device.deliver .linkData Controller.deliveryRoom).1 = .ok octets ∧
        0 < octets.length) ↔
      ∀ pdu ∈ link.outbound.head?, ¬LookupAnswer 63 pdu := by
  constructor
  · rintro ⟨octets, worked, _⟩ pdu first answer
    have waits := List.mem_of_mem_head? first
    have long := Nat.not_le.mp fun fits => (fits_iff (kinds pdu waits)).mp fits answer
    obtain ⟨e, failed⟩ := deliver_long peer first long
    rw [failed] at worked
    cases worked
  · intro free
    have fits : ∀ pdu ∈ link.outbound.head?, pdu.length ≤ packetRoom := fun pdu first =>
      (fits_iff (kinds pdu (List.mem_of_mem_head? first))).mpr (free pdu first)
    rw [deliver_fits peer fits]
    exact ⟨_, rfl, Nat.succ_pos _⟩

theorem eventually_iff (peer : device.peerLink = some link)
    (kinds : ∀ pdu ∈ link.outbound, Llcp.ControlPdu pdu) :
    (∀ pdu ∈ link.outbound, ∃ count, .ok (dataPacket pdu) ∈ (device.deliveries count).1) ↔
      ∀ pdu ∈ link.outbound, ¬LookupAnswer 63 pdu := by
  constructor
  · intro all pdu waits answer
    obtain ⟨count, produced⟩ := all pdu waits
    -- nothing that a delivery produced is longer than its room
    have short := deliveries_within produced
    rw [length_dataPacket, answer.length_eq, Controller.deliveryRoom] at short
    omega
  · intro free pdu waits
    have fits : ∀ pdu ∈ link.outbound, pdu.length ≤ packetRoom := fun other inside =>
      (fits_iff (kinds other inside)).mpr (free other inside)
    refine ⟨link.outbound.length, ?_⟩
    rw [deliveries_all peer fits]
    exact List.mem_map.mpr ⟨pdu, waits, rfl⟩

end Served

theorem operateAll_bounded {endpoints : List Endpoint}
    (used : ∀ endpoint ∈ endpoints, endpoint.link.Used) (operations : List DeviceOperation) :
    ((ofEndpoints endpoints).operateAll operations).Holds LogicalLink.Bounded := by
  refine operateAll_holds (fun _ _ => LogicalLink.empty_bounded rfl rfl) ?_ ?_
    (ofEndpoints_holds fun endpoint inside => LogicalLink.used_bounded (used endpoint inside))
    operations
  · exact fun link bytes bounded => LogicalLink.operate_bounded bounded (.receive bytes)
  · exact fun link bounded => LogicalLink.operate_bounded bounded .next

/-- While the peer-to-peer interface is active, a delivery produces a packet, and repeated
deliveries produce one for each PDU that waits, unless the answer to sixty-three questions is in
the way: then the delivery fails and changes nothing. -/
theorem linkData_delivered_iff {endpoints : List Endpoint}
    (used : ∀ endpoint ∈ endpoints, endpoint.link.Used) (operations : List DeviceOperation)
    {activation : Activation}
    (active : ((ofEndpoints endpoints).operateAll operations).active = some activation)
    (served : (((ofEndpoints endpoints).operateAll operations).rf.get activation.slot).interface =
      .nfcDep) :
    let device := (ofEndpoints endpoints).operateAll operations
    ∃ link, device.peerLink = some link ∧
      ((∃ octets, (device.deliver .linkData Controller.deliveryRoom).1 = .ok octets ∧
          0 < octets.length) ↔
        ∀ pdu ∈ link.outbound.head?, ¬LookupAnswer 63 pdu) ∧
      ((∃ e, (device.deliver .linkData Controller.deliveryRoom).1 = .error e) →
        (device.deliver .linkData Controller.deliveryRoom).2 = device) ∧
      ((∀ pdu ∈ link.outbound, ∃ count, .ok (dataPacket pdu) ∈ (device.deliveries count).1) ↔
        ∀ pdu ∈ link.outbound, ¬LookupAnswer 63 pdu) := by
  intro device
  have holds := operateAll_bounded used operations
  obtain ⟨link, peer, bounded⟩ := peerLink_of_active holds active served
  have kinds := LogicalLink.outbound_bounded bounded
  refine ⟨link, peer, delivered_iff peer kinds, ?_, eventually_iff peer kinds⟩
  rintro ⟨e, failed⟩
  rw [deliver_linkData peer] at failed ⊢
  split at failed
  · cases failed
  · rfl

def activating : List DeviceOperation :=
  [.nci [0x20, 0x00, 0x01, 0x01], .nci [0x20, 0x01, 0x00],
    .nci [0x21, 0x03, 0x03, 0x01, 0x00, 0x01]]

def asking (count : Nat) : DeviceOperation :=
  .nci ([0x00, 0x00, UInt8.ofNat (2 + 3 * count), 0x06, 0x60] ++
    (List.range count).flatMap fun tid => [0x08, 0x01, UInt8.ofNat tid])

/-- The answer to two questions is delivered. -/
theorem delivered_after_two_questions :
    let endpoints := [Endpoint.peer (.zero 10)]
    let operations := activating ++ [asking 2]
    let device := (ofEndpoints endpoints).operateAll operations
    let slot : Fin Rf.slotCount := ⟨0, by decide⟩
    device.active = some ⟨0, slot⟩ ∧ (device.rf.get slot).interface = .nfcDep ∧
      (∀ endpoint ∈ endpoints, endpoint.link.Used) ∧
        ∃ link, device.peerLink = some link ∧
          ((∃ octets, (device.deliver .linkData Controller.deliveryRoom).1 = .ok octets ∧
              0 < octets.length) ↔
            ∀ pdu ∈ link.outbound.head?, ¬LookupAnswer 63 pdu) ∧
          ((∃ e, (device.deliver .linkData Controller.deliveryRoom).1 = .error e) →
            (device.deliver .linkData Controller.deliveryRoom).2 = device) ∧
          ((∀ pdu ∈ link.outbound, ∃ count,
              .ok (dataPacket pdu) ∈ (device.deliveries count).1) ↔
            ∀ pdu ∈ link.outbound, ¬LookupAnswer 63 pdu) := by
  intro endpoints operations device slot
  have used : ∀ endpoint ∈ endpoints, endpoint.link.Used := by
    intro endpoint inside
    rw [List.mem_singleton.mp inside]
    exact ⟨4, [], rfl⟩
  have active : device.active = some ⟨0, slot⟩ := by decide +kernel
  have served : (device.rf.get slot).interface = .nfcDep := by decide +kernel
  exact ⟨active, served, used, linkData_delivered_iff used operations active served⟩

/-- The answer to sixty-three questions is not: it waits on an active interface and every delivery
fails. -/
theorem undelivered_after_many_questions :
    let device := (ofEndpoints [.peer (.zero 10)]).operateAll (activating ++ [asking 63])
    let slot : Fin Rf.slotCount := ⟨0, by decide⟩
    device.active = some ⟨0, slot⟩ ∧ (device.rf.get slot).interface = .nfcDep ∧
      (device.deliver .linkData Controller.deliveryRoom).1 = .error (.invalidLength 257 255) := by
  decide +kernel

end NearField.Device
