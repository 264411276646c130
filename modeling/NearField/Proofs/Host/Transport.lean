import NearField.Proofs.Controller.Publication
import NearField.Proofs.Device.Delivery
import NearField.Proofs.Host.Step
import NearField.Proofs.Nci.Packet
import Mathlib.Data.List.Forall2

/-!
The register window as a transport. Main statement: whatever octets the host sends to an activated
peer in data packets, it gets back one packet for each of them, and these carry the PDUs that the
peer's logical link alone would send.
-/

namespace NearField

open Llcp (LogicalLink packetRoom)
open Nci (Packet Opcode staticConnection)

namespace Controller

variable {controller : Controller} {device : Device}

/-- An answer stands in the response buffer and nothing else is ready. -/
structure Answered (controller : Controller) (answer : Device.NciAnswer) (device : Device) :
    Prop where
  status : controller.regs.status = StatusBit.nciResponse ||| StatusBit.irq
  device_eq : controller.device = device
  pending : controller.pending = answer.delivery
  response : ∃ tail, controller.regs.resp.octets = answer.response ++ tail

structure Delivered (controller : Controller) (target : ExchangeBuffer) (octets : Octets)
    (device : Device) : Prop where
  status : controller.regs.status = StatusBit.ofBuffer target ||| StatusBit.irq
  device_eq : controller.device = device
  content : ∃ tail, (controller.regs.buffer target).octets = octets ++ tail

structure Idle (controller : Controller) (device : Device) : Prop where
  status : controller.regs.status = 0
  device_eq : controller.device = device

theorem nciCommand_answered {answer : Device.NciAnswer} (idle : controller.regs.status = 0)
    (carried : controller.device.processNci controller.regs.cmnd.octets = (some answer, device))
    (fits : answer.response.length ≤ packetBufferSize) :
    controller.nciCommand.Answered answer device := by
  have unloaded : controller.responseLoaded = false := by rw [responseLoaded, idle]; rfl
  rw [nciCommand, unloaded, carried]
  simp only [loadResponse, Option.map_some, if_neg (Nat.not_lt.mpr fits)]
  refine ⟨?_, rfl, rfl, _, overlay_start _ _ fits⟩
  simp only [signal, clearStatus, setStatus, driveIrq, idle]
  rfl

theorem buffer_setBuffer (regs : RegisterFile) (target : ExchangeBuffer)
    (block : Block packetBufferSize) : (regs.setBuffer target block).buffer target = block := by
  cases target <;> rfl

theorem produce_delivery {content : DeliveryContent} {octets : Octets} (target : ExchangeBuffer)
    (delivers : controller.device.deliver content deliveryRoom = (.ok octets, device))
    (fits : octets.length ≤ deliveryRoom) :
    (controller.produce target (deliveryProducer content)).1 = .ok octets.length ∧
      (controller.produce target (deliveryProducer content)).2.device = device ∧
      ∃ tail, ((controller.produce target (deliveryProducer content)).2.regs.buffer target).octets =
        octets ++ tail := by
  generalize blanked : (controller.regs.buffer target).clearFirst deliveryRoom = blank
  have room : (blank.octets.take deliveryRoom).length = deliveryRoom := by
    rw [List.length_take, blank.length_octets]
    rfl
  generalize rested : (blank.octets.take deliveryRoom).drop octets.length = rest
  have length : (octets ++ rest).length = deliveryRoom := by
    rw [← rested, List.length_append, List.length_drop, room]
    omega
  have filled : deliveryProducer content controller.device (blank.octets.take deliveryRoom) =
      (.ok octets.length, octets ++ rest, device) := by
    rw [deliveryProducer, room, delivers]
    simp only [Octets.place_fits (fits.trans (Nat.le_of_eq room.symm)), rested]
  have produced : controller.produce target (deliveryProducer content) =
      (.ok octets.length, { controller with
        regs := controller.regs.setBuffer target (blank.overlay 0 (octets ++ rest)), device }) := by
    simp only [produce, blanked, filled, List.take_of_length_le (Nat.le_of_eq length)]
  have stands := overlay_start blank (octets ++ rest) (by rw [length]; decide)
  rw [produced]
  refine ⟨rfl, rfl, rest ++ blank.octets.drop (octets ++ rest).length, ?_⟩
  rw [buffer_setBuffer, stands, List.append_assoc]

theorem firePending_delivered {delivery : Delivery} {octets : Octets}
    (idle : controller.regs.status = 0) (pending : controller.pending = some delivery)
    (delivers : controller.device.deliver delivery.content deliveryRoom = (.ok octets, device))
    (some : 0 < octets.length) (fits : octets.length ≤ deliveryRoom) :
    controller.firePending.Delivered delivery.buffer octets device := by
  obtain ⟨producing, fired, regs, unmoved⟩ := firePending_some pending
  rw [← unmoved] at delivers
  obtain ⟨count, moved, content⟩ := produce_delivery delivery.buffer delivers fits
  rw [fired, count]
  refine ⟨?_, moved, ?_⟩
  · simp only [signal, setStatus, driveIrq, Except.toOption, Option.getD_some, some,
      decide_true, if_true, produce_status, regs, idle]
    rw [UInt8.zero_or]
  · rw [buffer_signal]
    exact content

end Controller

namespace Host

/-! ### Steps -/

theorem on_discard {α : Type} {step : Step α} {controller after : Controller} {value : α}
    (worked : step.on controller = (.ok value, after)) :
    (discard step).on controller = (.ok (), after) := by
  have mapped : discard step = step >>= fun _ => pure () := rfl
  rw [mapped, on_bind_ok worked]
  rfl

theorem submitNci_on {packet : Packet} {bytes : Octets} {controller : Controller}
    {answer : Device.NciAnswer} {device : Device} (idle : controller.regs.status = 0)
    (encoded : packet.encode = .ok bytes)
    (carried : ∀ tail, controller.device.processNci (bytes ++ tail) = (some answer, device))
    (fits : answer.response.length ≤ packetBufferSize) :
    ∃ after, (submitNci packet).on controller = (.ok (), after) ∧
      after.Answered answer device := by
  obtain ⟨short, shape⟩ := Packet.encode_ok encoded
  have room : 0 + bytes.length ≤ packetBufferSize := by
    rw [Nci.maxPayload] at short
    simp only [shape, List.length_cons, packetBufferSize]
    omega
  have wrote := writeOctets_on bytes 0 controller room
  rw [Nat.add_zero] at wrote
  generalize loaded : setCommand controller (controller.regs.cmnd.overlay 0 bytes) = ready at wrote
  have command : ready.regs.cmnd.octets = bytes ++ controller.regs.cmnd.octets.drop bytes.length := by
    rw [← loaded]
    exact Controller.overlay_start _ _ (by omega)
  have answered : ready.nciCommand.Answered answer device := by
    refine Controller.nciCommand_answered ?_ ?_ fits
    · rw [← loaded]
      exact idle
    · rw [command, ← loaded]
      exact carried _
  refine ⟨ready.writeRegister .ctrl 0x01, ?_, ?_⟩
  · rw [submitNci, on_bind_ok (on_lift encoded controller), submit, on_bind_ok wrote]
    exact tell_on ready 0x01
  · exact ⟨answered.status, answered.device_eq, answered.pending, answered.response⟩

def settled (controller : Controller) : Controller :=
  { controller with regs := { controller.regs with ctrl := 0 } }

theorem requireLoaded_on (mailbox : Mailbox) {bit : UInt8} {controller : Controller}
    (loaded : ¬controller.regs.status &&& bit = 0) :
    (requireLoaded mailbox bit).on controller = (.ok (), controller) := by
  unfold requireLoaded
  rw [on_bind_ok (on_get controller), if_neg loaded]
  rfl

theorem takeResponse_on {packet : Packet} {controller : Controller} {answer : Device.NciAnswer}
    {device : Device} (answered : controller.Answered answer device)
    (read : ∀ tail, Packet.decode (answer.response ++ tail) = .ok packet) :
    ∃ freed : Controller, freed.Idle device ∧ freed.pending = answer.delivery ∧
      takeResponse.on controller = (.ok packet, settled freed.firePending) := by
  obtain ⟨tail, stands⟩ := answered.response
  have ready : ¬controller.regs.status &&& StatusBit.nciResponse = 0 := by
    rw [answered.status]
    decide
  have loaded := requireLoaded_on .response ready
  have all : controller.regs.resp.extract 0 packetBufferSize = answer.response ++ tail := by
    rw [Block.extract, List.drop_zero, List.take_of_length_le, stands]
    exact Nat.le_of_eq controller.regs.resp.length_octets
  have octets := readOctets_on packetBufferSize 0 controller (Nat.le_refl _)
  rw [Nat.add_zero, all] at octets
  have decoded := on_lift (read tail) controller
  have freed : (confirm 0x02).on controller =
      (.ok (), settled (settled controller.lowerIrq).responseReceived) := by
    rw [confirm, on_bind_ok (tell_on controller 0x00)]
    exact tell_on _ 0x02
  refine ⟨(settled controller.lowerIrq).clearStatus StatusBit.responses, ⟨?_, ?_⟩, ?_, ?_⟩
  · simp only [settled, Controller.clearStatus, Controller.lowerIrq, Controller.setStatus,
      Controller.driveIrq, answered.status]
    decide
  · exact answered.device_eq
  · exact answered.pending
  · rw [takeResponse, on_bind_ok loaded, on_bind_ok octets, on_bind_ok decoded, on_bind_ok freed]
    have quiet : (settled controller.lowerIrq).responseReceived =
        ((settled controller.lowerIrq).clearStatus StatusBit.responses).firePending := by
      have calm : ((settled controller.lowerIrq).clearStatus StatusBit.responses).irqPending =
          false := by
        simp only [settled, Controller.clearStatus, Controller.lowerIrq, Controller.setStatus,
          Controller.driveIrq, Controller.irqPending, answered.status]
        decide
      rw [Controller.responseReceived]
      simp only [calm, Bool.and_false, if_false, Bool.false_eq_true]
    rw [quiet]
    rfl

def takeFrom : ExchangeBuffer → Step Packet
  | .notification => takeNotification
  | .data => takeData

theorem takeFrom_on {packet : Packet} {controller : Controller} {target : ExchangeBuffer}
    {octets : Octets} {device : Device} (delivered : controller.Delivered target octets device)
    (read : ∀ tail, Packet.decode (octets ++ tail) = .ok packet) :
    ∃ after : Controller, after.Idle device ∧
      (takeFrom target).on controller = (.ok packet, after) := by
  obtain ⟨tail, stands⟩ := delivered.content
  have decoded := on_lift (read tail) controller
  rw [← stands] at decoded
  have loaded : ¬controller.regs.status &&& StatusBit.ofBuffer target = 0 := by
    rw [delivered.status]
    cases target <;> decide
  have freed : (settled ((settled controller.lowerIrq).flipStatus
      (StatusBit.ofBuffer target))).Idle device := by
    refine ⟨?_, delivered.device_eq⟩
    simp only [settled, Controller.flipStatus, Controller.lowerIrq, Controller.clearStatus,
      Controller.setStatus, Controller.driveIrq, delivered.status]
    cases target <;> decide
  refine ⟨_, freed, ?_⟩
  cases target with
  | notification =>
    have ready : (requireLoaded .notification StatusBit.nciNotification).on controller =
      (.ok (), controller) := requireLoaded_on .notification loaded
    have read : (liftM (Packet.decode controller.regs.ntfn.octets) : Step Packet).on controller =
      (.ok packet, controller) := decoded
    rw [takeFrom, takeNotification, on_bind_ok ready, on_bind_ok (on_get controller),
      on_bind_ok read, confirm]
    rfl
  | data =>
    have ready : (requireLoaded .data StatusBit.nciData).on controller =
      (.ok (), controller) := requireLoaded_on .data loaded
    have read : (liftM (Packet.decode controller.regs.data.octets) : Step Packet).on controller =
      (.ok packet, controller) := decoded
    rw [takeFrom, takeData, on_bind_ok ready, on_bind_ok (on_get controller), on_bind_ok read,
      confirm]
    rfl

/-- The host sends a PDU to the peer, and takes the response and the data that come back. -/
def exchange (pdu : Octets) : Step (Packet × Packet) := do
  submitNci (.ofData staticConnection pdu)
  let response ← takeResponse
  let data ← takeData
  return (response, data)

/-- A peer-to-peer interface is active over a logical link, and nothing is ready. -/
structure Serving (controller : Controller) (link : LogicalLink) : Prop where
  status : controller.regs.status = 0
  peer : controller.device.peerLink = some link

theorem Serving.activeLink {controller : Controller} {link : LogicalLink}
    (serving : Serving controller link) : controller.device.activeLink = .ok link := by
  obtain ⟨activation, endpoint, active, _, found, rfl⟩ := Device.peerLink_some serving.peer
  rw [Device.activeLink, Device.activeEndpoint, active, Option.bind_some, found]

def creditOctets : Octets := [0x60, 0x06, 0x03, 0x01, 0x00, 0x01]

theorem processNci_ofData {device : Device} {link : LogicalLink} {pdu bytes : Octets}
    (peer : device.peerLink = some link)
    (encoded : (Packet.ofData staticConnection pdu).encode = .ok bytes) (tail : Octets) :
    device.processNci (bytes ++ tail) =
      (some ⟨creditOctets, some ⟨.data, .linkData⟩⟩,
        device.storeActiveLink (link.receive pdu).2) := by
  rw [Device.processNci, Packet.decode_encode (Packet.ofData_narrow _ _) encoded tail]
  simp only [Packet.ofData, Device.processData, peer]
  rfl

theorem poll_outbound (link : LogicalLink) :
    link.poll = (link.outbound.head?.getD LogicalLink.symmetry, link.next.2) := by
  rw [LogicalLink.poll, ← (LogicalLink.next_outbound link).1]

theorem settled_delivered {controller : Controller} {target : ExchangeBuffer} {octets : Octets}
    {device : Device} (delivered : controller.Delivered target octets device) :
    (settled controller).Delivered target octets device := by
  refine ⟨delivered.status, delivered.device_eq, ?_⟩
  obtain ⟨tail, stands⟩ := delivered.content
  exact ⟨tail, by cases target <;> exact stands⟩

/-- One exchange with the peer gives a credit and the PDU that its logical link would send. -/
theorem exchange_on {controller : Controller} {link : LogicalLink} {pdu : Octets}
    (serving : Serving controller link) (short : pdu.length ≤ Nci.maxPayload)
    (fits : (link.receive pdu).2.poll.1.length ≤ packetRoom) :
    ∃ after, (exchange pdu).on controller =
        (.ok (Nci.Notification.credits staticConnection 1,
          .ofData staticConnection (link.receive pdu).2.poll.1), after) ∧
      Serving after (link.receive pdu).2.poll.2 := by
  have encoded : (Packet.ofData staticConnection pdu).encode = .ok _ := Packet.encode_fits short
  obtain ⟨submitted, submits, answered⟩ := submitNci_on serving.status encoded
    (processNci_ofData serving.peer encoded) (by decide)
  have narrow : (Nci.Notification.credits staticConnection 1).Narrow :=
    Packet.whole_narrow (by decide) _ _
  obtain ⟨freed, idle, pending, takes⟩ := takeResponse_on answered
    (Packet.decode_encode narrow rfl)
  have peer := Device.peerLink_store serving.peer (link.receive pdu).2
  generalize (link.receive pdu).2 = received at fits peer idle
  rw [poll_outbound] at fits ⊢
  have carried : (Packet.ofData staticConnection (received.outbound.head?.getD
      LogicalLink.symmetry)).encode = .ok (Device.dataPacket _) :=
    Packet.encode_fits (Nat.le_trans fits (by decide))
  have delivers := Device.deliver_fits peer fun pdu first => by
    rw [show received.outbound.head? = some pdu from first] at fits
    exact fits
  rw [← idle.device_eq] at delivers
  have delivered := settled_delivered (Controller.firePending_delivered idle.status pending delivers
    (Nat.succ_pos _) (Nat.succ_le_succ (Nat.succ_le_succ (Nat.succ_le_succ fits))))
  obtain ⟨after, rest, taken⟩ := takeFrom_on delivered
    (Packet.decode_encode (Packet.ofData_narrow _ _) carried)
  have takesData : takeData.on (settled freed.firePending) = _ := taken
  refine ⟨after, ?_, rest.status, ?_⟩
  · rw [exchange, on_bind_ok submits, on_bind_ok takes, on_bind_ok takesData]
    rfl
  · rw [rest.device_eq, idle.device_eq]
    exact Device.peerLink_store peer _

/-! ### Activation -/

theorem call_on (opcode : Opcode) (payload : Octets) (packet : Packet) {command : Nci.Command}
    {answer : Device.NciAnswer} {controller : Controller} {device after : Device}
    (idle : controller.Idle device) (short : payload.length ≤ Nci.maxPayload)
    (known : Nci.Command.decode ⟨opcode.group &&& 0x0f, opcode.code &&& 0x3f⟩ payload =
      .ok command)
    (executed : device.execute command = (some answer, after)) (narrow : packet.Narrow)
    (response : packet.encode = .ok answer.response) :
    ∃ freed : Controller, freed.Idle after ∧ freed.pending = answer.delivery ∧
      (call opcode payload).on controller = (.ok packet, settled freed.firePending) := by
  have encoded : (Packet.command opcode payload).encode = .ok _ := Packet.encode_fits short
  have fits : answer.response.length ≤ packetBufferSize := by
    obtain ⟨room, shape⟩ := Packet.encode_ok response
    rw [Nci.maxPayload] at room
    simp only [shape, List.length_cons, packetBufferSize]
    omega
  obtain ⟨submitted, submits, answered⟩ := submitNci_on idle.status encoded (fun tail => by
    rw [idle.device_eq, Device.processNci,
      Packet.decode_encode (Packet.whole_narrow (by decide) _ _) encoded tail]
    simp only [Packet.whole, known]
    exact executed) fits
  obtain ⟨freed, rest, pending, takes⟩ := takeResponse_on answered
    (Packet.decode_encode narrow response)
  refine ⟨freed, rest, pending, ?_⟩
  rw [call, on_bind_ok submits]
  exact takes

theorem call_quiet (opcode : Opcode) (payload : Octets) (packet : Packet) {command : Nci.Command}
    {response : Octets} {controller : Controller} {device after : Device}
    (idle : controller.Idle device) (short : payload.length ≤ Nci.maxPayload)
    (known : Nci.Command.decode ⟨opcode.group &&& 0x0f, opcode.code &&& 0x3f⟩ payload =
      .ok command)
    (executed : device.execute command = (some ⟨response, none⟩, after)) (narrow : packet.Narrow)
    (encoded : packet.encode = .ok response) :
    ∃ rest : Controller, rest.Idle after ∧
      (call opcode payload).on controller = (.ok packet, rest) := by
  obtain ⟨freed, rest, pending, called⟩ :=
    call_on opcode payload packet idle short known executed narrow encoded
  have unfired : freed.firePending = freed := by
    rw [Controller.firePending, pending]
  rw [unfired] at called
  exact ⟨settled freed, ⟨rest.status, rest.device_eq⟩, called⟩

def initializedDevice (identifier : Block 10) : Device :=
  { (Device.ofEndpoints [.peer identifier]).reset true with state := .initialized }

theorem bringUp_on (identifier : Block 10) :
    ∃ after : Controller, after.Idle (initializedDevice identifier) ∧
      bringUp.on (.new (.ofEndpoints [.peer identifier])) = (.ok (), after) := by
  have fresh : (Controller.new (.ofEndpoints [.peer identifier])).Idle
      (.ofEndpoints [.peer identifier]) := ⟨rfl, rfl⟩
  obtain ⟨first, wasReset, resets⟩ := call_quiet .coreReset [0x01]
    (Nci.Response.coreReset 0x00 true) fresh (by decide) rfl rfl
    (Packet.whole_narrow (by decide) _ _) rfl
  obtain ⟨second, ready, initializes⟩ := call_quiet .coreInit []
    (Nci.Response.coreInit 0x00 Device.supportedInterfaces Device.maxConnections) wasReset
    (by decide) rfl rfl (Packet.whole_narrow (by decide) _ _) rfl
  refine ⟨second, ready, ?_⟩
  rw [bringUp, on_bind_ok (on_discard resets), on_bind_ok (on_discard initializes),
    on_bind_ok (on_get second), ready.device_eq]
  rfl

def activeDevice (identifier : Block 10) : Device :=
  ((initializedDevice identifier).rfDiscover [⟨.passivePollA, 1⟩]).2

def activeNotification (identifier : Block 10) : Packet :=
  Nci.Notification.activated {
    discoveryId := 1, interface := .nfcDep, protocol := .nfcDep, techMode := .passivePollA
    maxPayload := 255, credits := 1, techParams := [], exchangeMode := .passivePollA, txRate := 0
    rxRate := 0
    activationParams :=
      Nci.Notification.peerParams identifier.octets Llcp.Param.activationTail }

theorem length_activeNotification (identifier : Block 10) :
    (activeNotification identifier).payload.length = 40 := by
  have general : Llcp.Param.activationTail.length = 13 := rfl
  simp [activeNotification, Nci.Notification.activated, Packet.notification, Packet.whole,
    Packet.payload, Nci.Notification.peerParams, identifier.length_octets, general]

theorem activeNotification_delivered (identifier : Block 10) :
    ∃ octets, (activeNotification identifier).encode = .ok octets ∧ octets.length = 43 ∧
      (activeDevice identifier).deliver (.activated ⟨0, ⟨0, by decide⟩⟩ 1)
        Controller.deliveryRoom = (.ok octets, activeDevice identifier) := by
  have length := length_activeNotification identifier
  have encoded : (activeNotification identifier).encode = .ok _ :=
    Packet.encode_fits (by rw [length]; decide)
  refine ⟨_, encoded, by simp only [List.length_cons, length], ?_⟩
  have delivered : (activeDevice identifier).deliver (.activated ⟨0, ⟨0, by decide⟩⟩ 1)
      Controller.deliveryRoom = (Octets.within Controller.deliveryRoom
        (activeNotification identifier).encode, activeDevice identifier) := rfl
  rw [delivered, encoded]
  refine congrArg (Prod.mk · _) (if_neg ?_)
  simp only [List.length_cons, length]
  decide

theorem discoverPeer_on {controller : Controller} (identifier : Block 10)
    (idle : controller.Idle (initializedDevice identifier)) :
    ∃ packet after, discoverPeer.on controller = (.ok packet, after) ∧ Serving after .new := by
  have executed : (initializedDevice identifier).execute (.rfDiscover [⟨.passivePollA, 1⟩]) =
      (some ⟨[0x41, 0x03, 0x01, 0x00], some ⟨.notification, .activated ⟨0, ⟨0, by decide⟩⟩ 1⟩⟩,
        activeDevice identifier) := rfl
  obtain ⟨freed, active, pending, called⟩ := call_on .rfDiscover
    [0x01, Rf.TechMode.passivePollA.code, 0x01] (Nci.Response.status .rfDiscover 0x00) idle
    (by decide) rfl executed (Packet.whole_narrow (by decide) _ _) rfl
  obtain ⟨octets, encoded, length, delivers⟩ := activeNotification_delivered identifier
  rw [← active.device_eq] at delivers
  have delivered := settled_delivered (Controller.firePending_delivered active.status pending
    delivers (by omega) (by rw [length]; decide))
  obtain ⟨after, rest, taken⟩ := takeFrom_on delivered
    (Packet.decode_encode (Packet.whole_narrow (by decide) _ _) encoded)
  have takes : takeNotification.on (settled freed.firePending) = _ := taken
  refine ⟨activeNotification identifier, after, ?_, rest.status, ?_⟩
  · rw [discoverPeer, on_bind_ok (on_discard called)]
    exact takes
  · rw [rest.device_eq, active.device_eq]
    rfl

/-- Activating a peer gives a controller that serves a new logical link. -/
theorem activated_serving (identifier : Block 10) :
    ∃ controller, activated identifier = .ok controller ∧ Serving controller .new := by
  obtain ⟨ready, idle, up⟩ := bringUp_on identifier
  obtain ⟨packet, after, discovered, serving⟩ := discoverPeer_on identifier idle
  refine ⟨after, ?_, serving⟩
  have initial : initialized [.peer identifier] = .ok ready := by rw [initialized, up]
  simp only [activated, initial, bind, Except.bind, discovered]

/-! ### Runs -/

def exchanges (controller : Controller) :
    List Octets → List (Except Error (Packet × Packet) × Controller)
  | [] => []
  | pdu :: pdus =>
    let outcome := (exchange pdu).on controller
    outcome :: exchanges outcome.2 pdus

/-- A logical link alone that takes in PDUs, whether they are in order or not, and is asked for one
after each: what it sends and the link after it. -/
def directly (link : LogicalLink) : List Octets → List (Octets × LogicalLink)
  | [] => []
  | pdu :: pdus =>
    let outcome := (link.receive pdu).2.poll
    outcome :: directly outcome.2 pdus

/-- An exchange worked and came out as with the logical link alone: a credit for the static
connection, the PDU in a data packet, the same link behind the interface, and nothing ready. -/
structure Agrees (outcome : Except Error (Packet × Packet) × Controller)
    (direct : Octets × LogicalLink) : Prop where
  result : outcome.1 =
    .ok (Nci.Notification.credits staticConnection 1, .ofData staticConnection direct.1)
  link : outcome.2.device.activeLink = .ok direct.2
  status : outcome.2.regs.status = 0

theorem exchanges_agree {controller : Controller} {link : LogicalLink} {pdus : List Octets}
    (serving : Serving controller link) (short : ∀ pdu ∈ pdus, pdu.length ≤ Nci.maxPayload)
    (fits : ∀ direct ∈ directly link pdus, direct.1.length ≤ packetRoom) :
    List.Forall₂ Agrees (exchanges controller pdus) (directly link pdus) := by
  induction pdus generalizing controller link with
  | nil => exact .nil
  | cons pdu pdus ih =>
    obtain ⟨first, shorts⟩ := List.forall_mem_cons.mp short
    obtain ⟨room, others⟩ := List.forall_mem_cons.mp fits
    obtain ⟨after, worked, still⟩ := exchange_on serving first room
    have head : Agrees ((exchange pdu).on controller) (link.receive pdu).2.poll := by
      rw [worked]
      exact ⟨rfl, still.activeLink, still.status⟩
    refine .cons head ?_
    rw [worked]
    exact ih still shorts others

/-- The register window is a faithful transport: whatever octets the host sends to a peer that was
activated, as long as what the peer's logical link alone would send fits a packet, every exchange
works and comes out as with that link alone. -/
theorem activated_transports (identifier : Block 10) (pdus : List Octets)
    (short : ∀ pdu ∈ pdus, pdu.length ≤ Nci.maxPayload)
    (fits : ∀ direct ∈ directly .new pdus, direct.1.length ≤ packetRoom) :
    ∃ controller, activated identifier = .ok controller ∧
      List.Forall₂ Agrees (exchanges controller pdus) (directly .new pdus) := by
  obtain ⟨controller, activates, serving⟩ := activated_serving identifier
  exact ⟨controller, activates, exchanges_agree serving short fits⟩

/-- A connection to the exchange service that is opened, used and closed, with octets in between
that are no PDU. -/
theorem activated_transports_conversation :
    let pdus : List Octets := [[0x11, 0x20], [0x13, 0x20, 0x00, 0x68, 0x69], [0xff], [],
      List.replicate 255 0x13, [0x11, 0x60]]
    (directly .new pdus).map Prod.fst = [[0x81, 0x84, 0x05, 0x01, 0x04], [0x83, 0x44, 0x01],
      [0x00, 0x00], [0x00, 0x00], [0x4d, 0xc4, 0x01], [0x81, 0xc4, 0x00]] ∧
      ∃ controller, activated (.zero 10) = .ok controller ∧
        List.Forall₂ Agrees (exchanges controller pdus) (directly .new pdus) := by
  intro pdus
  refine ⟨by decide +kernel, activated_transports (.zero 10) pdus ?_ ?_⟩
  · decide +kernel
  · decide +kernel

end Host

end NearField
