import NearField.Controller.Basic
import Mathlib.Tactic.SplitIfs

/-!
What becomes of a packet that was published for the host. Main statements: it stands in its buffer
until the host writes there, the registers are restored or something else is produced into the same
buffer, and its ready bit stays set until the host acknowledges it or the registers are restored.
-/

namespace NearField

/-- Everything that happens to a controller: octets written by the host, packets published and data
received from outside of command processing, and registers restored. -/
inductive ControllerOperation where
  | write (offset : Nat) (value : UInt8)
  | publish (target : ExchangeBuffer) (producer : Controller.Producer)
  | receive (act : Device → Device)
  | load (snapshot : Snapshot)

/-- What an operation means for one of the buffers that the host takes packets from. -/
inductive BufferEffect where
  | acknowledges
  | overwrites
  | produces
  | restores
deriving DecidableEq

def HostSignal.taken : ExchangeBuffer → HostSignal
  | .notification => notificationReceived
  | .data => dataReceived

def Register.exchangeBuffer? : Register → Option ExchangeBuffer
  | .ntfn _ => some .notification
  | .data _ => some .data
  | _ => none

namespace ControllerOperation

def register? : ControllerOperation → Option Register
  | .write offset _ => (Register.decode offset).toOption
  | _ => none

def signal? : ControllerOperation → Option HostSignal
  | .write offset value =>
    if (Register.decode offset).toOption = some .ctrl then some (HostSignal.ofCode value) else none
  | _ => none

end ControllerOperation

namespace Controller

def operate (controller : Controller) : ControllerOperation → Controller
  | .write offset value => (controller.write offset value).toOption.getD controller
  | .publish target producer => (controller.publish target producer).2
  | .receive act => { controller with device := act controller.device }
  | .load snapshot => (controller.load snapshot).toOption.getD controller

def operateAll (controller : Controller) (operations : List ControllerOperation) : Controller :=
  operations.foldl operate controller

def waiting (controller : Controller) (target : ExchangeBuffer) : Option Producer :=
  controller.pending.bind fun delivery =>
    if delivery.buffer = target then some (deliveryProducer delivery.content) else none

/-- The producer that an operation lets fill a buffer: that of a publication, or of the delivery
that waits once the host says that it took the response. -/
def production (controller : Controller) (target : ExchangeBuffer)
    (operation : ControllerOperation) : Option Producer :=
  match operation with
  | .publish into producer => if into = target then some producer else none
  | _ =>
    if operation.signal? = some .responseReceived then controller.waiting target else none

def restores (controller : Controller) : ControllerOperation → Bool
  | .load snapshot => (controller.load snapshot).toOption.isSome
  | _ => false

def effect (controller : Controller) (target : ExchangeBuffer) (operation : ControllerOperation) :
    Option BufferEffect :=
  if (controller.production target operation).isSome then some .produces
  else if operation.signal? = some (.taken target) then some .acknowledges
  else if operation.register?.bind Register.exchangeBuffer? = some target then some .overwrites
  else if controller.restores operation then some .restores
  else none

/-- What the operations of a run mean for a buffer, in order. -/
def effects (controller : Controller) (target : ExchangeBuffer) :
    List ControllerOperation → List BufferEffect
  | [] => []
  | operation :: operations =>
    (controller.effect target operation).toList ++
      (controller.operate operation).effects target operations

def ready (controller : Controller) (target : ExchangeBuffer) : Bool :=
  controller.regs.status &&& StatusBit.ofBuffer target != 0

variable {controller : Controller} {target : ExchangeBuffer}

/-! ### Status bits -/

theorem or_and_octet (a b mask : UInt8) : (a ||| b) &&& mask = (a &&& mask) ||| (b &&& mask) := by
  refine UInt8.toBitVec_inj.mp ?_
  simp only [UInt8.toBitVec_and, UInt8.toBitVec_or]
  ext i
  simp only [BitVec.getElem_and, BitVec.getElem_or]
  grind

theorem xor_and_octet (a b mask : UInt8) : (a ^^^ b) &&& mask = (a &&& mask) ^^^ (b &&& mask) := by
  refine UInt8.toBitVec_inj.mp ?_
  simp only [UInt8.toBitVec_and, UInt8.toBitVec_xor]
  ext i
  simp only [BitVec.getElem_and, BitVec.getElem_xor]
  grind

theorem clearStatus_ready {bits : UInt8}
    (other : ~~~bits &&& StatusBit.ofBuffer target = StatusBit.ofBuffer target) :
    (controller.clearStatus bits).ready target = controller.ready target := by
  simp only [ready, clearStatus, setStatus]
  rw [UInt8.and_assoc, other]

theorem flipStatus_ready {bits : UInt8} (other : bits &&& StatusBit.ofBuffer target = 0) :
    (controller.flipStatus bits).ready target = controller.ready target := by
  simp only [ready, flipStatus, setStatus]
  rw [xor_and_octet, other, UInt8.xor_zero]

theorem signal_ready {bit : UInt8} {set : Bool} (before : controller.ready target = true) :
    (controller.signal bit set).ready target = true := by
  simp only [ready, signal, setStatus, driveIrq, bne_iff_ne, ne_eq] at before ⊢
  cases set
  · simp [or_and_octet, UInt8.or_eq_zero_iff, before]
  · simp [or_and_octet, UInt8.or_eq_zero_iff, before]

theorem signal_sets (controller : Controller) (target : ExchangeBuffer) :
    (controller.signal (StatusBit.ofBuffer target) true).ready target = true := by
  simp only [ready, signal, setStatus, driveIrq, bne_iff_ne, ne_eq, or_and_octet,
    UInt8.or_eq_zero_iff, UInt8.and_self, if_true]
  cases target <;> simp [StatusBit.ofBuffer, StatusBit.nciNotification, StatusBit.nciData]

theorem lowerIrq_ready : controller.lowerIrq.ready target = controller.ready target := by
  have other : ~~~StatusBit.irq &&& StatusBit.ofBuffer target = StatusBit.ofBuffer target := by
    cases target <;> rfl
  exact clearStatus_ready other

theorem overlay_start {size : Nat} (block : Block size) (bytes : Octets)
    (fits : bytes.length ≤ size) :
    (block.overlay 0 bytes).octets = bytes ++ block.octets.drop bytes.length := by
  refine Octets.overlay_zero ?_
  rw [block.length_octets]
  exact fits

@[simp] theorem buffer_clearStatus (bits : UInt8) :
    (controller.clearStatus bits).regs.buffer target = controller.regs.buffer target := by
  cases target <;> rfl

@[simp] theorem buffer_flipStatus (bits : UInt8) :
    (controller.flipStatus bits).regs.buffer target = controller.regs.buffer target := by
  cases target <;> rfl

@[simp] theorem buffer_lowerIrq :
    controller.lowerIrq.regs.buffer target = controller.regs.buffer target := by
  cases target <;> rfl

@[simp] theorem buffer_signal (bit : UInt8) (set : Bool) :
    (controller.signal bit set).regs.buffer target = controller.regs.buffer target := by
  cases target <;> rfl

theorem buffer_setBuffer_other {regs : RegisterFile} {into : ExchangeBuffer}
    (block : Block packetBufferSize) (other : into ≠ target) :
    (regs.setBuffer into block).buffer target = regs.buffer target := by
  cases into <;> cases target <;> first | rfl | exact absurd rfl other

@[simp] theorem status_setBuffer (regs : RegisterFile) (into : ExchangeBuffer)
    (block : Block packetBufferSize) : (regs.setBuffer into block).status = regs.status := by
  cases into <;> rfl

theorem produce_status (controller : Controller) (into : ExchangeBuffer) (producer : Producer) :
    (controller.produce into producer).2.regs.status = controller.regs.status :=
  status_setBuffer ..

theorem produce_other (controller : Controller) {into : ExchangeBuffer} (producer : Producer)
    (other : into ≠ target) :
    (controller.produce into producer).2.regs.buffer target = controller.regs.buffer target :=
  buffer_setBuffer_other _ other

theorem produce_congr {other : Controller} (target : ExchangeBuffer) (producer : Producer)
    (buffer : other.regs.buffer target = controller.regs.buffer target)
    (device : other.device = controller.device) :
    (other.produce target producer).1 = (controller.produce target producer).1 ∧
      (other.produce target producer).2.regs.buffer target =
        (controller.produce target producer).2.regs.buffer target := by
  simp only [produce, buffer, device, true_and]
  cases target <;> rfl

/-! ### What an operation does to a buffer and its ready bit -/

/-- A publication: the buffer gets what the producer makes of it, and the ready bit is set when that
is something. -/
theorem publish_produces (controller : Controller) (target : ExchangeBuffer) (producer : Producer) :
    (controller.publish target producer).2.regs.buffer target =
        (controller.produce target producer).2.regs.buffer target ∧
      ∀ count, (controller.produce target producer).1 = .ok count → 0 < count →
        (controller.publish target producer).2.ready target = true := by
  unfold publish
  split
  · rename_i e after failed
    rw [failed]
    exact ⟨rfl, nofun⟩
  · rename_i count after done
    rw [done]
    refine ⟨buffer_signal .., fun same eq positive => ?_⟩
    cases eq
    rw [decide_eq_true positive]
    exact signal_sets after target

theorem publish_ready {into : ExchangeBuffer} {producer : Producer}
    (before : controller.ready target = true) :
    (controller.publish into producer).2.ready target = true := by
  have kept : (controller.produce into producer).2.ready target = true := by
    rw [ready, produce_status]
    exact before
  unfold publish
  split
  · rename_i e after failed
    rw [failed] at kept
    exact kept
  · rename_i count after done
    rw [done] at kept
    exact signal_ready kept

theorem publish_other {into : ExchangeBuffer} {producer : Producer} (other : into ≠ target) :
    (controller.publish into producer).2.regs.buffer target = controller.regs.buffer target := by
  have kept := controller.produce_other producer other
  unfold publish
  split
  · rename_i e after failed
    rw [failed] at kept
    exact kept
  · rename_i count after done
    rw [done] at kept
    rw [buffer_signal]
    exact kept

theorem firePending_some {delivery : Delivery} (pending : controller.pending = some delivery) :
    ∃ producing : Controller, controller.firePending =
        (producing.produce delivery.buffer (deliveryProducer delivery.content)).2.signal
          (StatusBit.ofBuffer delivery.buffer)
          (0 < (producing.produce delivery.buffer
            (deliveryProducer delivery.content)).1.toOption.getD 0) ∧
      producing.regs = controller.regs ∧ producing.device = controller.device := by
  refine ⟨{ controller with pending := none }, ?_, rfl, rfl⟩
  unfold firePending
  rw [pending]

theorem waiting_some {producer : Producer} (waits : controller.waiting target = some producer) :
    ∃ delivery, controller.pending = some delivery ∧ delivery.buffer = target ∧
      deliveryProducer delivery.content = producer := by
  obtain ⟨delivery, pending, chosen⟩ := Option.bind_eq_some_iff.mp waits
  split at chosen
  · rename_i same
    exact ⟨delivery, pending, same, Option.some.inj chosen⟩
  · cases chosen

theorem waiting_none {delivery : Delivery} (quiet : controller.waiting target = none)
    (pending : controller.pending = some delivery) : delivery.buffer ≠ target := by
  intro same
  rw [waiting, pending, Option.bind_some, if_pos same] at quiet
  cases quiet

theorem firePending_ready (before : controller.ready target = true) :
    controller.firePending.ready target = true := by
  cases pending : controller.pending with
  | none => rwa [firePending, pending]
  | some delivery =>
    obtain ⟨producing, fired, regs, _⟩ := firePending_some pending
    rw [fired]
    refine signal_ready ?_
    rw [ready, produce_status, regs]
    exact before

theorem firePending_other (quiet : controller.waiting target = none) :
    controller.firePending.regs.buffer target = controller.regs.buffer target := by
  cases pending : controller.pending with
  | none => rw [firePending, pending]
  | some delivery =>
    obtain ⟨producing, fired, regs, _⟩ := firePending_some pending
    rw [fired, buffer_signal, ← regs]
    exact producing.produce_other _ (waiting_none quiet pending)

theorem firePending_produces {producer : Producer}
    (waits : controller.waiting target = some producer) :
    controller.firePending.regs.buffer target =
        (controller.produce target producer).2.regs.buffer target ∧
      ∀ count, (controller.produce target producer).1 = .ok count → 0 < count →
        controller.firePending.ready target = true := by
  obtain ⟨delivery, pending, rfl, rfl⟩ := waiting_some waits
  obtain ⟨producing, fired, regs, device⟩ := firePending_some pending
  obtain ⟨result, buffer⟩ := produce_congr delivery.buffer
    (deliveryProducer delivery.content) (congrArg (RegisterFile.buffer · delivery.buffer) regs)
    device
  rw [fired, buffer_signal]
  refine ⟨buffer, fun count eq positive => ?_⟩
  have some : 0 < (producing.produce delivery.buffer
      (deliveryProducer delivery.content)).1.toOption.getD 0 := by
    rw [result, eq]
    exact positive
  rw [decide_eq_true some]
  exact signal_sets _ _

theorem responseReceived_fires (controller : Controller) :
    ∃ cleared : Controller, controller.responseReceived = cleared.firePending ∧
      cleared.pending = controller.pending ∧ cleared.device = controller.device ∧
      ∀ target, cleared.ready target = controller.ready target ∧
        cleared.regs.buffer target = controller.regs.buffer target := by
  have others (target : ExchangeBuffer) :
      ~~~StatusBit.responses &&& StatusBit.ofBuffer target = StatusBit.ofBuffer target := by
    cases target <;> rfl
  unfold responseReceived
  simp only
  split
  · refine ⟨_, rfl, rfl, rfl, fun target => ⟨?_, ?_⟩⟩
    · rw [lowerIrq_ready, clearStatus_ready (others target)]
    · rw [buffer_lowerIrq, buffer_clearStatus]
  · exact ⟨_, rfl, rfl, rfl, fun target => ⟨clearStatus_ready (others target),
      buffer_clearStatus _⟩⟩

theorem waiting_congr {other : Controller} (same : other.pending = controller.pending) :
    other.waiting target = controller.waiting target := by
  rw [waiting, waiting, same]

theorem loadResponse_frame (controller : Controller) (response : Option Octets) :
    ∃ resp, (controller.loadResponse response).2 =
      { controller with regs := { controller.regs with resp } } := by
  unfold loadResponse
  split
  · exact ⟨_, rfl⟩
  · split <;> exact ⟨_, rfl⟩

theorem answered_frame {answering : Controller} {resp : Block packetBufferSize} {bits : UInt8}
    (regs : answering.regs = { controller.regs with resp })
    (other : ~~~bits &&& StatusBit.ofBuffer target = StatusBit.ofBuffer target) (bit : UInt8)
    (set : Bool) :
    (controller.ready target = true →
        ((answering.clearStatus bits).signal bit set).ready target = true) ∧
      ((answering.clearStatus bits).signal bit set).regs.buffer target =
        controller.regs.buffer target := by
  refine ⟨fun before => signal_ready ?_, ?_⟩
  · rw [clearStatus_ready other, ready, regs]
    exact before
  · rw [buffer_signal, buffer_clearStatus, regs]
    cases target <;> rfl

theorem nciCommand_frame (controller : Controller) :
    (controller.ready target = true → controller.nciCommand.ready target = true) ∧
      controller.nciCommand.regs.buffer target = controller.regs.buffer target := by
  unfold nciCommand
  split
  · exact ⟨id, rfl⟩
  · generalize controller.device.processNci _ = outcome
    obtain ⟨answer, device⟩ := outcome
    obtain ⟨resp, frame⟩ := loadResponse_frame { controller with device }
      (answer.map Device.NciAnswer.response)
    have other : ~~~StatusBit.nciCommand &&& StatusBit.ofBuffer target =
        StatusBit.ofBuffer target := by cases target <;> rfl
    exact answered_frame (congrArg Controller.regs frame) other _ _

theorem hciCommand_frame (controller : Controller) :
    (controller.ready target = true → controller.hciCommand.ready target = true) ∧
      controller.hciCommand.regs.buffer target = controller.regs.buffer target := by
  unfold hciCommand
  split
  · exact ⟨id, rfl⟩
  · generalize controller.device.processHci _ = outcome
    obtain ⟨answer, device⟩ := outcome
    obtain ⟨resp, frame⟩ := loadResponse_frame { controller with device } answer
    have other : ~~~StatusBit.hciCommand &&& StatusBit.ofBuffer target =
        StatusBit.ofBuffer target := by cases target <;> rfl
    exact answered_frame (congrArg Controller.regs frame) other _ _

theorem handle_ready {signal : HostSignal} (untaken : signal ≠ .taken target)
    (before : controller.ready target = true) : (controller.handle signal).ready target = true := by
  cases signal with
  | interruptAcknowledged => rwa [handle, lowerIrq_ready]
  | nciCommandSent => exact (nciCommand_frame controller).1 before
  | hciCommandSent => exact (hciCommand_frame controller).1 before
  | responseReceived =>
    obtain ⟨cleared, fires, _, _, frame⟩ := controller.responseReceived_fires
    rw [handle, fires]
    exact firePending_ready ((frame target).1.trans before)
  | notificationReceived =>
    cases target with
    | notification => exact absurd rfl untaken
    | data => exact (flipStatus_ready rfl).trans before
  | dataReceived =>
    cases target with
    | notification => exact (flipStatus_ready rfl).trans before
    | data => exact absurd rfl untaken
  | unknown => exact before

theorem handle_buffer {signal : HostSignal}
    (quiet : signal = .responseReceived → controller.waiting target = none) :
    (controller.handle signal).regs.buffer target = controller.regs.buffer target := by
  cases signal with
  | interruptAcknowledged => exact buffer_lowerIrq
  | nciCommandSent => exact (nciCommand_frame controller).2
  | hciCommandSent => exact (hciCommand_frame controller).2
  | responseReceived =>
    obtain ⟨cleared, fires, pending, _, frame⟩ := controller.responseReceived_fires
    rw [handle, fires, firePending_other, (frame target).2]
    rw [waiting_congr pending]
    exact quiet rfl
  | notificationReceived | dataReceived => exact buffer_flipStatus _
  | unknown => rfl

theorem handle_produces {producer : Producer}
    (waits : controller.waiting target = some producer) :
    (controller.handle .responseReceived).regs.buffer target =
        (controller.produce target producer).2.regs.buffer target ∧
      ∀ count, (controller.produce target producer).1 = .ok count → 0 < count →
        (controller.handle .responseReceived).ready target = true := by
  obtain ⟨cleared, fires, pending, device, frame⟩ := controller.responseReceived_fires
  obtain ⟨result, buffer⟩ := produce_congr target producer (frame target).2 device
  have fired := firePending_produces ((waiting_congr pending).trans waits)
  rw [handle, fires, ← buffer, ← result]
  exact fired

theorem writeRegister_status {register : Register} (value : UInt8) (mute : register ≠ .ctrl) :
    (controller.writeRegister register value).regs.status = controller.regs.status := by
  cases register with
  | ctrl => exact absurd rfl mute
  | pu | ws =>
    simp only [writeRegister]
    split_ifs <;> rfl
  | _ => rfl

theorem writeRegister_buffer {register : Register} (value : UInt8) (mute : register ≠ .ctrl)
    (elsewhere : register.exchangeBuffer? ≠ some target) :
    (controller.writeRegister register value).regs.buffer target =
      controller.regs.buffer target := by
  cases register with
  | ctrl => exact absurd rfl mute
  | pu | ws =>
    simp only [writeRegister]
    split_ifs <;> cases target <;> rfl
  | status | cmnd | resp | reserved => cases target <;> rfl
  | ntfn | data =>
    cases target <;> first | rfl | exact absurd rfl elsewhere

theorem operate_write (controller : Controller) (offset : Nat) (value : UInt8) :
    let operation := ControllerOperation.write offset value
    (controller.operate operation = controller ∧ operation.signal? = none) ∨
      (operation.signal? = some (HostSignal.ofCode value) ∧
        ∀ target, (controller.operate operation).ready target =
            (controller.handle (HostSignal.ofCode value)).ready target ∧
          (controller.operate operation).regs.buffer target =
            (controller.handle (HostSignal.ofCode value)).regs.buffer target) ∨
      ∃ register, register ≠ .ctrl ∧ operation.register? = some register ∧
        operation.signal? = none ∧
        controller.operate operation = controller.writeRegister register value := by
  intro operation
  simp only [operation, operate, write, ControllerOperation.register?, ControllerOperation.signal?]
  cases Register.decode offset with
  | error e => exact .inl ⟨rfl, rfl⟩
  | ok register =>
    by_cases acts : register = .ctrl
    · subst acts
      exact .inr (.inl ⟨rfl, fun target => ⟨rfl, by cases target <;> rfl⟩⟩)
    · refine .inr (.inr ⟨register, acts, rfl, if_neg ?_, rfl⟩)
      exact fun same => acts (Option.some.inj same)

/-! ### Steps -/

theorem production_write (offset : Nat) (value : UInt8) :
    controller.production target (.write offset value) =
      if (ControllerOperation.write offset value).signal? = some .responseReceived then
        controller.waiting target
      else none := rfl

theorem effect_taken {offset : Nat} {value : UInt8}
    (taken : (ControllerOperation.write offset value).signal? = some (.taken target)) :
    controller.effect target (.write offset value) = some .acknowledges := by
  have unproduced : controller.production target (.write offset value) = none := by
    rw [production_write, taken]
    cases target <;> rfl
  rw [effect, unproduced, if_neg (by simp), if_pos taken]

theorem effect_stored {offset : Nat} {value : UInt8} {register : Register}
    (silent : (ControllerOperation.write offset value).signal? = none)
    (into : (ControllerOperation.write offset value).register? = some register)
    (stored : register.exchangeBuffer? = some target) :
    controller.effect target (.write offset value) = some .overwrites := by
  have unproduced : controller.production target (.write offset value) = none := by
    rw [production_write, silent]
    rfl
  rw [effect, unproduced, if_neg (by simp), silent, if_neg (by simp), into, Option.bind_some,
    if_pos stored]

theorem effect_produced {operation : ControllerOperation} {producer : Producer}
    (production : controller.production target operation = some producer) :
    controller.effect target operation = some .produces := by
  rw [effect, production]
  rfl

theorem operate_load (controller : Controller) (target : ExchangeBuffer) (snapshot : Snapshot) :
    controller.effect target (.load snapshot) = some .restores ∨
      controller.operate (.load snapshot) = controller := by
  simp only [operate]
  cases loaded : controller.load snapshot with
  | error e => exact .inr rfl
  | ok restored =>
    refine .inl ?_
    simp [effect, production, restores, ControllerOperation.signal?,
      ControllerOperation.register?, loaded, Except.toOption]

theorem operate_produces {operation : ControllerOperation} {producer : Producer}
    (production : controller.production target operation = some producer) :
    (controller.operate operation).regs.buffer target =
        (controller.produce target producer).2.regs.buffer target ∧
      ∀ count, (controller.produce target producer).1 = .ok count → 0 < count →
        (controller.operate operation).ready target = true := by
  cases operation with
  | publish into given =>
    rw [Controller.production] at production
    split at production
    · rename_i same
      subst same
      cases production
      exact controller.publish_produces into producer
    · cases production
  | write offset value =>
    rw [production_write] at production
    split at production
    · rename_i received
      rcases controller.operate_write offset value with
        ⟨_, silent⟩ | ⟨signal, acted⟩ | ⟨register, _, _, silent, _⟩
      · cases silent.symm.trans received
      · rw [(acted target).1, (acted target).2, Option.some.inj (signal.symm.trans received)]
        exact handle_produces production
      · cases silent.symm.trans received
    · cases production
  | receive => cases production
  | load => cases production

/-- The ready bit outlasts everything but an acknowledgement and a restoration. -/
theorem operate_ready {operation : ControllerOperation}
    (unacknowledged : controller.effect target operation ≠ some .acknowledges)
    (unrestored : controller.effect target operation ≠ some .restores)
    (before : controller.ready target = true) :
    (controller.operate operation).ready target = true := by
  cases operation with
  | publish into producer => exact publish_ready before
  | receive act => exact before
  | load snapshot =>
    rcases controller.operate_load target snapshot with restored | same
    · exact absurd restored unrestored
    · rwa [same]
  | write offset value =>
    rcases controller.operate_write offset value with
      ⟨same, _⟩ | ⟨signal, acted⟩ | ⟨register, mute, _, _, wrote⟩
    · rwa [same]
    · rw [(acted target).1]
      refine handle_ready (fun taken => unacknowledged (effect_taken ?_)) before
      rw [signal, taken]
    · rw [wrote, ready, writeRegister_status value mute]
      exact before

/-- The buffer outlasts everything but a write into it, a production and a restoration. -/
theorem operate_buffer {operation : ControllerOperation}
    (unwritten : controller.effect target operation ≠ some .overwrites)
    (unproduced : controller.effect target operation ≠ some .produces)
    (unrestored : controller.effect target operation ≠ some .restores) :
    (controller.operate operation).regs.buffer target = controller.regs.buffer target := by
  have quiet : controller.production target operation = none :=
    Option.eq_none_iff_forall_ne_some.mpr fun _ produced => unproduced (effect_produced produced)
  cases operation with
  | publish into producer =>
    refine publish_other fun same => ?_
    rw [production, if_pos same] at quiet
    cases quiet
  | receive act => rfl
  | load snapshot =>
    rcases controller.operate_load target snapshot with restored | same
    · exact absurd restored unrestored
    · rw [same]
  | write offset value =>
    rcases controller.operate_write offset value with
      ⟨same, _⟩ | ⟨signal, acted⟩ | ⟨register, mute, into, silent, wrote⟩
    · rw [same]
    · rw [(acted target).2]
      refine handle_buffer fun received => ?_
      rw [production_write, signal, received, if_pos rfl] at quiet
      exact quiet
    · rw [wrote]
      exact writeRegister_buffer value mute fun stored =>
        unwritten (effect_stored silent into stored)

/-! ### Runs -/

theorem operateAll_ready {operations : List ControllerOperation}
    (unacknowledged : .acknowledges ∉ controller.effects target operations)
    (unrestored : .restores ∉ controller.effects target operations)
    (before : controller.ready target = true) :
    (controller.operateAll operations).ready target = true := by
  induction operations generalizing controller with
  | nil => exact before
  | cons operation operations ih =>
    simp only [effects, List.mem_append, Option.mem_toList, not_or] at unacknowledged unrestored
    exact ih unacknowledged.2 unrestored.2
      (operate_ready unacknowledged.1 unrestored.1 before)

theorem operateAll_buffer {operations : List ControllerOperation}
    (unwritten : .overwrites ∉ controller.effects target operations)
    (unproduced : .produces ∉ controller.effects target operations)
    (unrestored : .restores ∉ controller.effects target operations) :
    (controller.operateAll operations).regs.buffer target = controller.regs.buffer target := by
  induction operations generalizing controller with
  | nil => rfl
  | cons operation operations ih =>
    simp only [effects, List.mem_append, Option.mem_toList, not_or] at unwritten unproduced
    simp only [effects, List.mem_append, Option.mem_toList, not_or] at unrestored
    have first := operate_buffer unwritten.1 unproduced.1 unrestored.1
    exact (ih unwritten.2 unproduced.2 unrestored.2).trans first

/-- A packet that was published stays ready until the host acknowledges it or the registers are
restored, and stays in its buffer until the host writes there, the registers are restored, or
something is produced into the same buffer again. -/
theorem published_stays (controller : Controller) (target : ExchangeBuffer)
    (operation : ControllerOperation) (producer : Producer) (count : Nat)
    (production : controller.production target operation = some producer)
    (produced : (controller.produce target producer).1 = .ok count) (positive : 0 < count)
    (later : List ControllerOperation) :
    let published := controller.operate operation
    let after := published.operateAll later
    (.acknowledges ∉ published.effects target later → .restores ∉ published.effects target later →
        after.ready target = true) ∧
      (.overwrites ∉ published.effects target later → .produces ∉ published.effects target later →
        .restores ∉ published.effects target later →
        after.regs.buffer target = (controller.produce target producer).2.regs.buffer target) := by
  intro published after
  obtain ⟨filled, raised⟩ := operate_produces production
  refine ⟨fun unacknowledged unrestored => ?_, fun unwritten unproduced unrestored => ?_⟩
  · exact operateAll_ready unacknowledged unrestored (raised count produced positive)
  · exact (operateAll_buffer unwritten unproduced unrestored).trans filled

/-- A notification that is still there after the host withdrew the interrupt, wrote a command and
got a data packet. -/
theorem published_stays_unread :
    let producer : Producer := fun device _ => (.ok 3, [0x60, 0x07, 0x00], device)
    let published := (new {}).operate (.publish .notification producer)
    let later := [.write Register.ctrlOffset 0x00, .write Register.cmndOffset 0x20,
      .publish .data producer]
    let after := published.operateAll later
    after.ready .notification = true ∧
      after.regs.ntfn.octets.take 4 = [0x60, 0x07, 0x00, 0x00] := by
  intro producer published later after
  obtain ⟨ready, stands⟩ := published_stays (new {}) .notification (.publish .notification producer)
    producer 3 rfl rfl (by decide) later
  have same : after.regs.ntfn = ((new {}).produce .notification producer).2.regs.ntfn :=
    stands (by decide +kernel) (by decide +kernel) (by decide +kernel)
  refine ⟨ready (by decide +kernel) (by decide +kernel), ?_⟩
  rw [same]
  decide +kernel

def hostCommand (bytes : Octets) : List ControllerOperation :=
  (bytes.mapIdx fun i octet => .write (Register.cmndOffset + i) octet) ++
    [.write Register.ctrlOffset 0x01]

def hostTookResponse : ControllerOperation := .write Register.ctrlOffset 0x02

/-- The host discovers a peer, does not look at the notification that it is active, and ends the
activation: the notification that it ended overwrites the other one. -/
theorem notification_overwritten_unread :
    let peer := Endpoint.peer ⟨List.replicate 10 0x22, rfl⟩
    let discovering := (new (.ofEndpoints [peer])).operateAll
      (hostCommand [0x20, 0x00, 0x01, 0x01] ++ [hostTookResponse] ++
        hostCommand [0x20, 0x01, 0x00] ++ [hostTookResponse] ++
        hostCommand [0x21, 0x03, 0x03, 0x01, 0x00, 0x01])
    let published := discovering.operate hostTookResponse
    let later := hostCommand [0x21, 0x06, 0x01, 0x00] ++ [hostTookResponse]
    let after := published.operateAll later
    ((discovering.production .notification hostTookResponse).map fun producer =>
        (discovering.produce .notification producer).1.toOption) = some (some 43) ∧
      published.ready .notification = true ∧
      published.regs.ntfn.octets.take 5 = [0x61, 0x05, 0x28, 0x01, 0x03] ∧
      published.effects .notification later = [.produces] ∧
      after.regs.ntfn.octets.take 5 = [0x61, 0x06, 0x02, 0x00, 0x00] := by
  decide +kernel

end Controller

end NearField
