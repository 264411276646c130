import NearField.Proofs.Controller.Publication
import NearField.Proofs.Device.Answer
import NearField.Proofs.Device.Operation
import NearField.Proofs.Octets

/-!
What a controller does when the host signals it: the status bits, the registers that it leaves to
the host, and what it asks of the device. Main statements: a command is carried out whole or not at
all, and a signal asks the device for one thing at most.
-/

namespace NearField

namespace RegisterFile

def has (regs : RegisterFile) (bits : UInt8) : Bool := regs.status &&& bits != 0

theorem any_or (a b mask : UInt8) :
    ((a ||| b) &&& mask != 0) = (a &&& mask != 0 || b &&& mask != 0) := by
  rw [Controller.or_and_octet, Bool.eq_iff_iff]
  simp only [bne_iff_ne, ne_eq, Bool.or_eq_true, UInt8.or_eq_zero_iff]
  exact Decidable.not_and_iff_or_not

theorem has_or (regs : RegisterFile) (a b : UInt8) :
    regs.has (a ||| b) = (regs.has a || regs.has b) := by
  simp only [has, UInt8.and_comm regs.status, any_or]

end RegisterFile

namespace Controller

variable {controller : Controller} {bits mask : UInt8}

theorem has_clearStatus (other : ~~~bits &&& mask = mask) :
    (controller.clearStatus bits).regs.has mask = controller.regs.has mask := by
  simp only [RegisterFile.has, clearStatus, setStatus]
  rw [UInt8.and_assoc, other]

theorem clearStatus_lacks (gone : ~~~bits &&& mask = 0) :
    (controller.clearStatus bits).regs.has mask = false := by
  simp only [RegisterFile.has, clearStatus, setStatus]
  rw [UInt8.and_assoc, gone, UInt8.and_zero]
  rfl

theorem clearStatus_none (before : controller.regs.has mask = false) :
    (controller.clearStatus bits).regs.has mask = false := by
  simp only [RegisterFile.has, clearStatus, setStatus, bne_eq_false_iff_eq] at before ⊢
  rw [UInt8.and_assoc, UInt8.and_comm (~~~bits), ← UInt8.and_assoc, before, UInt8.zero_and]

theorem has_flipStatus (other : bits &&& mask = 0) :
    (controller.flipStatus bits).regs.has mask = controller.regs.has mask := by
  simp only [RegisterFile.has, flipStatus, setStatus]
  rw [xor_and_octet, other, UInt8.xor_zero]

theorem has_signal (controller : Controller) (bit : UInt8) (ready : Bool) (mask : UInt8) :
    (controller.signal bit ready).regs.has mask =
      (controller.regs.has mask || (ready && bit &&& mask != 0) ||
        StatusBit.irq &&& mask != 0) := by
  cases ready with
  | false => exact (RegisterFile.any_or ..).trans (by simp [RegisterFile.has])
  | true =>
    simp only [signal, setStatus, driveIrq, RegisterFile.has, RegisterFile.any_or, if_true,
      Bool.true_and]

theorem has_signal_other {bit : UInt8} (ready : Bool) (other : bit &&& mask = 0)
    (quiet : StatusBit.irq &&& mask = 0) :
    (controller.signal bit ready).regs.has mask = controller.regs.has mask := by
  rw [has_signal, other, quiet, bne_self_eq_false, Bool.and_false, Bool.or_false, Bool.or_false]

theorem has_signal_set {bit : UInt8} (some : (bit != 0) = true) :
    (controller.signal bit true).regs.has bit = true := by
  rw [has_signal, UInt8.and_self, some, Bool.true_and, Bool.or_true, Bool.true_or]

theorem free_lacks (free : controller.responseLoaded = false) :
    controller.regs.has StatusBit.nciResponse = false ∧
      controller.regs.has StatusBit.hciResponse = false := by
  have either : (controller.regs.has StatusBit.nciResponse ||
      controller.regs.has StatusBit.hciResponse) = false :=
    (controller.regs.has_or ..).symm.trans free
  exact Bool.or_eq_false_iff.mp either

def responseBlock (response : Option Octets) : Block packetBufferSize :=
  (Block.zero packetBufferSize).overlay 0 (response.getD [])

theorem loadResponse_none (controller : Controller) : controller.loadResponse none =
    (false, { controller with regs := { controller.regs with resp := responseBlock none } }) := by
  have blank : responseBlock none = .zero packetBufferSize :=
    Block.ext (Octets.overlay_nil _ _)
  rw [blank]
  rfl

theorem loadResponse_some (controller : Controller) {response : Octets}
    (fits : response.length ≤ packetBufferSize) : controller.loadResponse (some response) =
      (true, { controller with
        regs := { controller.regs with resp := responseBlock (some response) } }) := by
  rw [loadResponse]
  exact if_neg (Nat.not_lt.mpr fits)

theorem nciCommand_loaded (loaded : controller.responseLoaded = true) :
    controller.nciCommand = controller := if_pos loaded

theorem hciCommand_loaded (loaded : controller.responseLoaded = true) :
    controller.hciCommand = controller := if_pos loaded

def nciAnswer (controller : Controller) : Option Device.NciAnswer :=
  (controller.device.processNci controller.regs.cmnd.octets).1

def hciAnswer (controller : Controller) : Option Octets :=
  (controller.device.processHci controller.regs.cmnd.octets).1

/-- The controller with the command carried out and the answer not signalled yet: the whole answer
is in the response buffer and its delivery waits. -/
def nciCarried (controller : Controller) : Controller :=
  ({ controller with
    regs := { controller.regs with
      resp := responseBlock (controller.nciAnswer.map Device.NciAnswer.response) }
    device := (controller.device.processNci controller.regs.cmnd.octets).2
    pending := controller.nciAnswer.bind Device.NciAnswer.delivery } : Controller).clearStatus
      StatusBit.nciCommand

def hciCarried (controller : Controller) : Controller :=
  ({ controller with
    regs := { controller.regs with resp := responseBlock controller.hciAnswer }
    device := (controller.device.processHci controller.regs.cmnd.octets).2 } :
      Controller).clearStatus StatusBit.hciCommand

theorem nciCarried_none (before : controller.regs.has mask = false) :
    controller.nciCarried.regs.has mask = false := by
  have same : controller.nciCarried.regs.status =
      (controller.clearStatus StatusBit.nciCommand).regs.status := rfl
  rw [RegisterFile.has, same]
  exact clearStatus_none before

theorem hciCarried_none (before : controller.regs.has mask = false) :
    controller.hciCarried.regs.has mask = false := by
  have same : controller.hciCarried.regs.status =
      (controller.clearStatus StatusBit.hciCommand).regs.status := rfl
  rw [RegisterFile.has, same]
  exact clearStatus_none before

theorem nciCommand_free (free : controller.responseLoaded = false) :
    controller.nciCommand =
      controller.nciCarried.signal StatusBit.nciResponse controller.nciAnswer.isSome := by
  rw [nciCommand, free, nciCarried, nciAnswer]
  generalize carried : controller.device.processNci controller.regs.cmnd.octets = outcome
  obtain ⟨answer, device⟩ := outcome
  cases answer with
  | none =>
    simp only [Option.map_none, loadResponse_none]
    rfl
  | some answer =>
    have fits := (Device.processNci_response (congrArg Prod.fst carried)).2
    simp only [Option.map_some, loadResponse_some _ fits]
    rfl

theorem hciCommand_free (free : controller.responseLoaded = false) :
    controller.hciCommand =
      controller.hciCarried.signal StatusBit.hciResponse controller.hciAnswer.isSome := by
  rw [hciCommand, free, hciCarried, hciAnswer]
  generalize carried : controller.device.processHci controller.regs.cmnd.octets = outcome
  obtain ⟨answer, device⟩ := outcome
  cases answer with
  | none =>
    simp only [loadResponse_none]
    rfl
  | some answer =>
    have fits := (Device.processHci_response (congrArg Prod.fst carried)).2
    simp only [loadResponse_some _ fits]
    rfl

/-- The controller once the host took the response: the interrupt is withdrawn when nothing else is
ready. -/
def released (controller : Controller) : Controller :=
  let cleared := controller.clearStatus StatusBit.responses
  if cleared.regs.status &&& StatusBit.ready == 0 && cleared.irqPending then cleared.lowerIrq
  else cleared

theorem responseReceived_released (controller : Controller) :
    controller.responseReceived = controller.released.firePending := rfl

theorem released_frame (controller : Controller) :
    (∃ status, controller.released.regs = { controller.regs with status }) ∧
      controller.released.device = controller.device ∧
        controller.released.pending = controller.pending := by
  unfold released
  extract_lets cleared
  split <;> exact ⟨⟨_, rfl⟩, rfl, rfl⟩

theorem released_none (before : controller.regs.has mask = false) :
    controller.released.regs.has mask = false := by
  unfold released
  extract_lets cleared
  split
  · exact clearStatus_none (clearStatus_none before)
  · exact clearStatus_none before

theorem released_lacks (response : ~~~StatusBit.responses &&& mask = 0) :
    controller.released.regs.has mask = false := by
  unfold released
  extract_lets cleared
  split
  · exact clearStatus_none (clearStatus_lacks response)
  · exact clearStatus_lacks response

theorem firePending_none (nothing : controller.pending = none) :
    controller.firePending = controller := by
  rw [firePending, nothing]

theorem firePending_signal {delivery : Delivery} (waits : controller.pending = some delivery) :
    controller.firePending =
      let produced := { controller with pending := none }.produce delivery.buffer
        (deliveryProducer delivery.content)
      produced.2.signal (StatusBit.ofBuffer delivery.buffer)
        (0 < produced.1.toOption.getD 0) := by
  rw [firePending, waits]

theorem signal_frame (controller : Controller) (bit : UInt8) (ready : Bool) :
    ∃ status, (controller.signal bit ready).regs = { controller.regs with status } := ⟨_, rfl⟩

theorem nciCommand_regs (controller : Controller) :
    ∃ status resp, controller.nciCommand.regs = { controller.regs with status, resp } := by
  cases loaded : controller.responseLoaded with
  | true => exact ⟨_, _, congrArg regs (nciCommand_loaded loaded)⟩
  | false =>
    rw [nciCommand_free loaded]
    exact ⟨_, _, rfl⟩

theorem hciCommand_regs (controller : Controller) :
    ∃ status resp, controller.hciCommand.regs = { controller.regs with status, resp } := by
  cases loaded : controller.responseLoaded with
  | true => exact ⟨_, _, congrArg regs (hciCommand_loaded loaded)⟩
  | false =>
    rw [hciCommand_free loaded]
    exact ⟨_, _, rfl⟩

theorem firePending_frame (controller : Controller) :
    ∃ status ntfn data, controller.firePending.regs =
      { controller.regs with status, ntfn, data } := by
  cases waits : controller.pending with
  | none =>
    rw [firePending_none waits]
    exact ⟨_, _, _, rfl⟩
  | some delivery =>
    rw [firePending_signal waits]
    obtain ⟨target, content⟩ := delivery
    cases target <;> exact ⟨_, _, _, rfl⟩

/-- No signal changes the control, power and wake registers, the command buffer and the memory
after the buffers. -/
theorem handle_frame (controller : Controller) (signal : HostSignal) :
    ∃ status resp ntfn data, (controller.handle signal).regs =
      { controller.regs with status, resp, ntfn, data } := by
  cases signal with
  | interruptAcknowledged | notificationReceived | dataReceived | unknown =>
    exact ⟨_, _, _, _, rfl⟩
  | nciCommandSent =>
    obtain ⟨status, resp, answered⟩ := controller.nciCommand_regs
    exact ⟨status, resp, _, _, answered⟩
  | hciCommandSent =>
    obtain ⟨status, resp, answered⟩ := controller.hciCommand_regs
    exact ⟨status, resp, _, _, answered⟩
  | responseReceived =>
    obtain ⟨⟨_, released⟩, _⟩ := controller.released_frame
    obtain ⟨status, ntfn, data, fired⟩ := controller.released.firePending_frame
    rw [released] at fired
    exact ⟨status, _, ntfn, data, fired⟩

def request (controller : Controller) : HostSignal → Option DeviceOperation
  | .nciCommandSent =>
    if controller.responseLoaded then none else some (.nci controller.regs.cmnd.octets)
  | .hciCommandSent =>
    if controller.responseLoaded then none else some (.hci controller.regs.cmnd.octets)
  | .responseReceived =>
    controller.pending.map fun delivery => .deliver delivery.content deliveryRoom
  | _ => none

theorem produce_device (controller : Controller) (target : ExchangeBuffer)
    (content : DeliveryContent) :
    (controller.produce target (deliveryProducer content)).2.device =
      (controller.device.deliver content deliveryRoom).2 := by
  have room (block : Block packetBufferSize) :
      (block.octets.take deliveryRoom).length = deliveryRoom := by
    rw [List.length_take, block.length_octets]
    rfl
  simp only [produce, deliveryProducer, room]

/-- A signal asks the device for one thing at most, and nothing else changes the device. -/
theorem handle_device (controller : Controller) (signal : HostSignal) :
    (controller.handle signal).device =
      (controller.request signal).elim controller.device controller.device.operate := by
  cases signal with
  | interruptAcknowledged | notificationReceived | dataReceived | unknown => rfl
  | nciCommandSent =>
    cases free : controller.responseLoaded with
    | true =>
      rw [handle, nciCommand_loaded free, request, free]
      rfl
    | false =>
      rw [handle, nciCommand_free free, request, free]
      rfl
  | hciCommandSent =>
    cases free : controller.responseLoaded with
    | true =>
      rw [handle, hciCommand_loaded free, request, free]
      rfl
    | false =>
      rw [handle, hciCommand_free free, request, free]
      rfl
  | responseReceived =>
    obtain ⟨_, device, pending⟩ := controller.released_frame
    rw [handle, responseReceived_released, request]
    cases waits : controller.pending with
    | none => rw [firePending_none (pending.trans waits), device]; rfl
    | some delivery =>
      rw [firePending_signal (pending.trans waits)]
      exact (produce_device ..).trans (by rw [device]; rfl)

theorem operate_signal {operation : ControllerOperation} {signal : HostSignal}
    (said : operation.signal? = some signal) :
    controller.operate operation =
      { controller.handle signal with
        regs := { (controller.handle signal).regs with ctrl := 0 } } := by
  cases operation with
  | write offset value =>
    rw [ControllerOperation.signal?] at said
    split at said
    · rename_i decoded
      cases said
      rw [operate, write]
      cases found : Register.decode offset with
      | error e =>
        rw [found] at decoded
        cases decoded
      | ok register =>
        rw [found] at decoded
        cases decoded
        rfl
    · cases said
  | publish | receive | load => cases said

theorem writeRegister_mute {register : Register} (value : UInt8) (mute : register ≠ .ctrl) :
    ∃ regs, controller.writeRegister register value = { controller with regs } ∧
      regs.status = controller.regs.status := by
  refine ⟨(controller.writeRegister register value).regs, ?_, writeRegister_status value mute⟩
  cases register with
  | ctrl => exact absurd rfl mute
  | pu | ws =>
    simp only [writeRegister]
    split_ifs <;> rfl
  | _ => rfl

theorem operate_mute {offset : Nat} {value : UInt8}
    (mute : (ControllerOperation.write offset value).signal? = none) :
    ∃ regs, controller.operate (.write offset value) = { controller with regs } ∧
      regs.status = controller.regs.status := by
  rw [ControllerOperation.signal?] at mute
  split at mute
  · cases mute
  · rename_i elsewhere
    rw [operate, write]
    cases found : Register.decode offset with
    | error e => exact ⟨_, rfl, rfl⟩
    | ok register =>
      refine writeRegister_mute value fun same => elsewhere ?_
      rw [found, same]
      rfl

theorem publish_cases (controller : Controller) (target : ExchangeBuffer) (producer : Producer) :
    ((∃ e, (controller.produce target producer).1 = .error e) ∧
        (controller.publish target producer).2 = (controller.produce target producer).2) ∨
      ∃ count, (controller.produce target producer).1 = .ok count ∧
        (controller.publish target producer).2 = (controller.produce target producer).2.signal
          (StatusBit.ofBuffer target) (0 < count) := by
  unfold publish
  split
  · rename_i e after failed
    rw [failed]
    exact .inl ⟨⟨e, rfl⟩, rfl⟩
  · rename_i count after done
    rw [done]
    exact .inr ⟨count, rfl, rfl⟩

end Controller

end NearField
