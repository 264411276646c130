import NearField.Proofs.Controller.Signal

/-!
The interrupt and what it announces. Main statements: the recorded line always has the level that
the status register says, and a ready bit is raised with an interrupt by a packet that was written,
or without one by an acknowledgement that nothing was there for.
-/

namespace NearField

inductive ReadyBit where
  | nciResponse
  | hciResponse
  | packet (target : ExchangeBuffer)
deriving DecidableEq

def ReadyBit.mask : ReadyBit → UInt8
  | nciResponse => StatusBit.nciResponse
  | hciResponse => StatusBit.hciResponse
  | packet target => StatusBit.ofBuffer target

theorem IrqLine.level_drive (levels : List Bool) (level : Bool) :
    ((recorded levels).drive level).level = level := by
  rw [drive, IrqLine.level, IrqLine.levels, List.getLast?_concat]
  rfl

namespace Controller

variable {controller : Controller}

/-- The line is recorded and has the level that the status register says. -/
structure Followed (controller : Controller) : Prop where
  wired : ∃ levels, controller.irq = .recorded levels
  level : controller.irq.level = controller.irqPending

theorem followed_of_same {other : Controller} (followed : controller.Followed)
    (line : other.irq = controller.irq)
    (bit : other.regs.has StatusBit.irq = controller.regs.has StatusBit.irq) : other.Followed where
  wired := by
    obtain ⟨levels, wired⟩ := followed.wired
    exact ⟨levels, line.trans wired⟩
  level := by
    have same : other.irqPending = controller.irqPending := bit
    rw [line, same, followed.level]

theorem driveIrq_followed (wired : ∃ levels, controller.irq = .recorded levels) :
    (controller.driveIrq controller.irqPending).Followed := by
  obtain ⟨levels, wired⟩ := wired
  refine ⟨⟨levels ++ [controller.irqPending], ?_⟩, ?_⟩
  · rw [driveIrq, wired]
    rfl
  · rw [driveIrq, wired, IrqLine.level_drive]
    rfl

theorem lowerIrq_followed (wired : ∃ levels, controller.irq = .recorded levels) :
    controller.lowerIrq.Followed := by
  have low : (controller.clearStatus StatusBit.irq).irqPending = false := clearStatus_lacks rfl
  rw [lowerIrq, ← low]
  exact driveIrq_followed wired

theorem signal_pending (controller : Controller) (bit : UInt8) (ready : Bool) :
    (controller.signal bit ready).irqPending = true := by
  have raised := controller.has_signal bit ready StatusBit.irq
  rw [UInt8.and_self] at raised
  exact raised.trans (Bool.or_true _)

theorem signal_followed (wired : ∃ levels, controller.irq = .recorded levels) (bit : UInt8)
    (ready : Bool) : (controller.signal bit ready).Followed := by
  obtain ⟨levels, wired⟩ := wired
  refine ⟨⟨levels ++ [true], ?_⟩, ?_⟩
  · rw [signal, driveIrq, setStatus, wired]
    rfl
  · rw [signal_pending, signal, driveIrq, setStatus, wired]
    exact IrqLine.level_drive levels true

theorem released_followed (followed : controller.Followed) : controller.released.Followed := by
  have cleared : (controller.clearStatus StatusBit.responses).Followed :=
    followed_of_same followed rfl (has_clearStatus rfl)
  unfold released
  extract_lets taken
  split
  · exact lowerIrq_followed cleared.wired
  · exact cleared

theorem handle_followed (followed : controller.Followed) (signal : HostSignal) :
    (controller.handle signal).Followed := by
  cases signal with
  | interruptAcknowledged => exact lowerIrq_followed followed.wired
  | nciCommandSent =>
    rw [handle]
    cases loaded : controller.responseLoaded with
    | true => rwa [nciCommand_loaded loaded]
    | false =>
      have carried : ∃ levels, controller.nciCarried.irq = .recorded levels := followed.wired
      rw [nciCommand_free loaded]
      exact signal_followed carried _ _
  | hciCommandSent =>
    rw [handle]
    cases loaded : controller.responseLoaded with
    | true => rwa [hciCommand_loaded loaded]
    | false =>
      have carried : ∃ levels, controller.hciCarried.irq = .recorded levels := followed.wired
      rw [hciCommand_free loaded]
      exact signal_followed carried _ _
  | responseReceived =>
    have released := released_followed followed
    rw [handle, responseReceived_released]
    cases waits : controller.released.pending with
    | none => rwa [firePending_none waits]
    | some delivery =>
      rw [firePending_signal waits]
      extract_lets produced
      have wired : ∃ levels, produced.2.irq = .recorded levels := released.wired
      exact signal_followed wired _ _
  | notificationReceived | dataReceived => exact followed_of_same followed rfl (has_flipStatus rfl)
  | unknown => exact followed

theorem operate_followed (followed : controller.Followed) (operation : ControllerOperation) :
    (controller.operate operation).Followed := by
  cases operation with
  | write offset value =>
    cases said : (ControllerOperation.write offset value).signal? with
    | none =>
      obtain ⟨regs, wrote, status⟩ := controller.operate_mute said
      rw [wrote]
      refine followed_of_same followed rfl ?_
      rw [RegisterFile.has, status, RegisterFile.has]
    | some signal =>
      rw [operate_signal said]
      exact followed_of_same (handle_followed followed signal) rfl rfl
  | publish target producer =>
    have produced : (controller.produce target producer).2.Followed := by
      refine followed_of_same followed rfl ?_
      rw [RegisterFile.has, produce_status, RegisterFile.has]
    rw [operate]
    rcases controller.publish_cases target producer with ⟨_, failed⟩ | ⟨count, _, signalled⟩
    · rwa [failed]
    · rw [signalled]
      exact signal_followed produced.wired _ _
  | receive act => exact followed_of_same followed rfl rfl
  | load snapshot =>
    rw [operate, load]
    cases snapshot.registers with
    | error e => exact followed
    | ok regs => exact driveIrq_followed followed.wired

theorem operateAll_followed (followed : controller.Followed)
    (operations : List ControllerOperation) : (controller.operateAll operations).Followed := by
  induction operations generalizing controller with
  | nil => exact followed
  | cons operation operations ih => exact ih (operate_followed followed operation)

theorem recorder_followed (device : Device) : (new device).withRecorder.Followed where
  wired := ⟨[], rfl⟩
  level := show IrqLine.recorder.level = RegisterFile.has {} StatusBit.irq by decide

/-- After every run, snapshots from elsewhere included, the level of the line is the interrupt
bit. -/
theorem irq_follows_status (device : Device) (operations : List ControllerOperation) :
    let controller := (new device).withRecorder.operateAll operations
    controller.irq.level = controller.irqPending := by
  intro controller
  exact (operateAll_followed (recorder_followed device) operations).level

/-- A step writes a packet for a ready bit: an answer into the response buffer, or what is produced
into one of the other two. -/
def Packs (controller : Controller) (operation : ControllerOperation) : ReadyBit → Prop
  | .nciResponse => operation.signal? = some .nciCommandSent ∧ ∃ answer : Device.NciAnswer,
      controller.nciAnswer = some answer ∧ 0 < answer.response.length ∧
        answer.response.length ≤ packetBufferSize ∧
          (controller.operate operation).regs.resp = responseBlock (some answer.response)
  | .hciResponse => operation.signal? = some .hciCommandSent ∧ ∃ response : Octets,
      controller.hciAnswer = some response ∧ 0 < response.length ∧
        response.length ≤ packetBufferSize ∧
          (controller.operate operation).regs.resp = responseBlock (some response)
  | .packet target => ∃ producer count, controller.production target operation = some producer ∧
      (controller.produce target producer).1 = .ok count ∧ 0 < count ∧
        (controller.operate operation).regs.buffer target =
          (controller.produce target producer).2.regs.buffer target

theorem ReadyBit.mask_inj {bit raised : ReadyBit}
    (common : (raised.mask &&& bit.mask != 0) = true) : bit = raised := by
  cases bit with
  | nciResponse | hciResponse =>
    cases raised with
    | nciResponse | hciResponse => first | rfl | cases common
    | packet target => cases target <;> cases common
  | packet into =>
    cases raised with
    | nciResponse | hciResponse => cases into <;> cases common
    | packet target => cases into <;> cases target <;> first | rfl | cases common

theorem signal_raises {bit raised : ReadyBit} {ready : Bool}
    (before : controller.regs.has bit.mask = false)
    (after : (controller.signal raised.mask ready).regs.has bit.mask = true) :
    bit = raised ∧ ready = true := by
  have quiet : (StatusBit.irq &&& bit.mask != 0) = false := by
    cases bit with
    | nciResponse | hciResponse => rfl
    | packet target => cases target <;> rfl
  rw [has_signal, before, quiet, Bool.false_or, Bool.or_false, Bool.and_eq_true] at after
  exact ⟨ReadyBit.mask_inj after.2, after.1⟩

theorem flipStatus_raises {bit flipped : ReadyBit}
    (before : controller.regs.has bit.mask = false)
    (after : (controller.flipStatus flipped.mask).regs.has bit.mask = true) : bit = flipped := by
  refine ReadyBit.mask_inj (bne_iff_ne.mpr fun other => ?_)
  rw [has_flipStatus other, before] at after
  cases after

variable {operation : ControllerOperation} {bit : ReadyBit}

theorem nciCommand_raises (said : operation.signal? = some .nciCommandSent)
    (before : controller.regs.has bit.mask = false)
    (after : controller.nciCommand.regs.has bit.mask = true) :
    controller.Packs operation bit ∧ controller.nciCommand.irqPending = true := by
  cases loaded : controller.responseLoaded with
  | true =>
    rw [nciCommand_loaded loaded, before] at after
    cases after
  | false =>
    have signalled : (controller.nciCarried.signal ReadyBit.nciResponse.mask
        controller.nciAnswer.isSome).regs.has bit.mask = true :=
      nciCommand_free loaded ▸ after
    obtain ⟨rfl, answered⟩ := signal_raises (nciCarried_none before) signalled
    obtain ⟨answer, answered⟩ := Option.isSome_iff_exists.mp answered
    obtain ⟨positive, fits⟩ := Device.processNci_response answered
    refine ⟨⟨said, answer, answered, positive, fits, ?_⟩, ?_⟩
    · have stands : controller.nciCommand.regs.resp =
          responseBlock (controller.nciAnswer.map Device.NciAnswer.response) := by
        rw [nciCommand_free loaded]
        rfl
      rw [answered, Option.map_some] at stands
      rw [operate_signal said]
      exact stands
    · rw [nciCommand_free loaded]
      exact signal_pending _ _ _

theorem hciCommand_raises (said : operation.signal? = some .hciCommandSent)
    (before : controller.regs.has bit.mask = false)
    (after : controller.hciCommand.regs.has bit.mask = true) :
    controller.Packs operation bit ∧ controller.hciCommand.irqPending = true := by
  cases loaded : controller.responseLoaded with
  | true =>
    rw [hciCommand_loaded loaded, before] at after
    cases after
  | false =>
    have signalled : (controller.hciCarried.signal ReadyBit.hciResponse.mask
        controller.hciAnswer.isSome).regs.has bit.mask = true :=
      hciCommand_free loaded ▸ after
    obtain ⟨rfl, answered⟩ := signal_raises (hciCarried_none before) signalled
    obtain ⟨response, answered⟩ := Option.isSome_iff_exists.mp answered
    obtain ⟨positive, fits⟩ := Device.processHci_response answered
    refine ⟨⟨said, response, answered, positive, fits, ?_⟩, ?_⟩
    · have stands : controller.hciCommand.regs.resp = responseBlock controller.hciAnswer := by
        rw [hciCommand_free loaded]
        rfl
      rw [answered] at stands
      rw [operate_signal said]
      exact stands
    · rw [hciCommand_free loaded]
      exact signal_pending _ _ _

theorem count_of_positive {result : Except Error Nat}
    (positive : decide (0 < result.toOption.getD 0) = true) :
    ∃ count, result = .ok count ∧ 0 < count := by
  cases result with
  | error e => cases positive
  | ok count => exact ⟨count, rfl, of_decide_eq_true positive⟩

theorem production_taken {target : ExchangeBuffer}
    (said : operation.signal? = some .responseReceived) :
    controller.production target operation = controller.waiting target := by
  cases operation with
  | write offset value => rw [production_write, if_pos said]
  | publish | receive | load => cases said

theorem responseReceived_raises (said : operation.signal? = some .responseReceived)
    (before : controller.regs.has bit.mask = false)
    (after : controller.responseReceived.regs.has bit.mask = true) :
    controller.Packs operation bit ∧ controller.responseReceived.irqPending = true := by
  obtain ⟨⟨_, regs⟩, device, pending⟩ := controller.released_frame
  rw [responseReceived_released] at after ⊢
  cases waits : controller.pending with
  | none =>
    rw [firePending_none (pending.trans waits), released_none before] at after
    cases after
  | some delivery =>
    let firing : Controller := { controller.released with pending := none }
    let produced := firing.produce delivery.buffer (deliveryProducer delivery.content)
    have fired : controller.released.firePending =
        produced.2.signal (ReadyBit.packet delivery.buffer).mask
          (0 < produced.1.toOption.getD 0) := firePending_signal (pending.trans waits)
    have unready : produced.2.regs.has bit.mask = false := by
      have silent : firing.regs.has bit.mask = false := released_none before
      rw [RegisterFile.has, produce_status]
      exact silent
    rw [fired] at after ⊢
    obtain ⟨rfl, counted⟩ := signal_raises unready after
    obtain ⟨count, done, positive⟩ := count_of_positive counted
    have stands : firing.regs.buffer delivery.buffer = controller.regs.buffer delivery.buffer := by
      rw [show firing.regs = _ from regs]
      cases delivery.buffer <;> rfl
    obtain ⟨same, _⟩ :=
      produce_congr delivery.buffer (deliveryProducer delivery.content) stands device
    have production : controller.production delivery.buffer operation =
        some (deliveryProducer delivery.content) := by
      rw [production_taken said, waiting, waits, Option.bind_some, if_pos rfl]
    refine ⟨⟨_, count, production, same.symm.trans done, positive, ?_⟩, signal_pending _ _ _⟩
    exact (operate_produces production).1

theorem publish_raises {target : ExchangeBuffer} {producer : Producer}
    (before : controller.regs.has bit.mask = false)
    (after : (controller.publish target producer).2.regs.has bit.mask = true) :
    controller.Packs (.publish target producer) bit ∧
      (controller.publish target producer).2.irqPending = true := by
  have unready : (controller.produce target producer).2.regs.has bit.mask = false := by
    rw [RegisterFile.has, produce_status]
    exact before
  rcases controller.publish_cases target producer with ⟨_, failed⟩ | ⟨count, done, signalled⟩
  · rw [failed, unready] at after
    cases after
  · have raised : ((controller.produce target producer).2.signal
        (ReadyBit.packet target).mask (0 < count)).regs.has bit.mask = true := signalled ▸ after
    obtain ⟨rfl, positive⟩ := signal_raises unready raised
    have production : controller.production target (.publish target producer) = some producer :=
      if_pos rfl
    refine ⟨⟨producer, count, production, done, of_decide_eq_true positive, ?_⟩, ?_⟩
    · exact (operate_produces production).1
    · rw [signalled]
      exact signal_pending _ _ _

/-- Where a signal of the host raises a ready bit, it acknowledges what was not ready, or writes a
packet and asks for an interrupt. -/
theorem handle_raises {signal : HostSignal} (said : operation.signal? = some signal)
    (before : controller.regs.has bit.mask = false)
    (after : (controller.handle signal).regs.has bit.mask = true) :
    (∃ target, bit = .packet target ∧ signal = .taken target) ∨
      controller.Packs operation bit ∧ (controller.handle signal).irqPending = true := by
  cases signal with
  | interruptAcknowledged =>
    rw [handle, lowerIrq, driveIrq, clearStatus_none before] at after
    cases after
  | nciCommandSent => exact .inr (nciCommand_raises said before after)
  | responseReceived => exact .inr (responseReceived_raises said before after)
  | hciCommandSent => exact .inr (hciCommand_raises said before after)
  | notificationReceived =>
    have flipped : (controller.flipStatus (ReadyBit.packet .notification).mask).regs.has bit.mask =
        true := after
    exact .inl ⟨.notification, flipStatus_raises before flipped, rfl⟩
  | dataReceived =>
    have flipped : (controller.flipStatus (ReadyBit.packet .data).mask).regs.has bit.mask = true :=
      after
    exact .inl ⟨.data, flipStatus_raises before flipped, rfl⟩
  | unknown =>
    rw [handle, before] at after
    cases after

theorem operate_raises (unrestored : ∀ snapshot, operation ≠ .load snapshot)
    (before : controller.regs.has bit.mask = false)
    (after : (controller.operate operation).regs.has bit.mask = true) :
    (∃ target, bit = .packet target ∧ operation.signal? = some (.taken target)) ∨
      controller.Packs operation bit ∧ (controller.operate operation).irqPending = true := by
  cases operation with
  | write offset value =>
    cases said : (ControllerOperation.write offset value).signal? with
    | none =>
      obtain ⟨regs, wrote, status⟩ := controller.operate_mute said
      rw [wrote, RegisterFile.has, status] at after
      exact absurd before (Bool.not_eq_false _ ▸ after)
    | some signal =>
      have handled : (controller.handle signal).regs.has bit.mask = true := by
        rw [operate_signal said] at after
        exact after
      rcases handle_raises said before handled with ⟨target, own, taken⟩ | ⟨packs, pending⟩
      · exact .inl ⟨target, own, congrArg some taken⟩
      · refine .inr ⟨packs, ?_⟩
        rw [operate_signal said]
        exact pending
  | publish target producer => exact .inr (publish_raises before after)
  | receive act =>
    rw [operate, before] at after
    cases after
  | load snapshot => exact absurd rfl (unrestored snapshot)

theorem operate_taken {target : ExchangeBuffer} (taken : operation.signal? = some (.taken target)) :
    controller.operate operation =
      let flipped := controller.flipStatus (ReadyBit.packet target).mask
      { flipped with regs := { flipped.regs with ctrl := 0 } } := by
  rw [operate_signal taken]
  cases target <;> rfl

/-- Where a step of a run raises a ready bit, it wrote a packet of at least one octet into the
buffer of the bit, the interrupt bit is set and the line is high; or it is the acknowledgement that
belongs to the bit, which flips the bit and does nothing else. -/
theorem ready_raised_by (device : Device) (operations : List ControllerOperation)
    (operation : ControllerOperation) (unrestored : ∀ snapshot, operation ≠ .load snapshot)
    (bit : ReadyBit) :
    let controller := (new device).withRecorder.operateAll operations
    let after := controller.operate operation
    controller.regs.has bit.mask = false → after.regs.has bit.mask = true →
      (controller.Packs operation bit ∧ after.irqPending = true ∧ after.irq.level = true) ∨
        ∃ target, bit = .packet target ∧ operation.signal? = some (.taken target) ∧
          after = let flipped := controller.flipStatus bit.mask
            { flipped with regs := { flipped.regs with ctrl := 0 } } := by
  intro controller after lacked raised
  rcases operate_raises unrestored lacked raised with ⟨target, rfl, taken⟩ | ⟨packs, pending⟩
  · exact .inr ⟨target, rfl, taken, operate_taken taken⟩
  · have run := operateAll_followed (recorder_followed device) operations
    have followed := operate_followed run operation
    exact .inl ⟨packs, pending, followed.level.trans pending⟩

/-- A notification that the host did not take: publishing it raises its bit. -/
theorem ready_raised_by_publication :
    let producer : Producer := fun device _ => (.ok 3, [0x60, 0x07, 0x00], device)
    let after := (new {}).withRecorder.operate (.publish .notification producer)
    after.regs.has StatusBit.nciNotification = true ∧ after.irqPending = true ∧
      after.irq.level = true := by
  intro producer after
  have raised : after.regs.has StatusBit.nciNotification = true := by decide +kernel
  have by_packet := ready_raised_by {} [] (.publish .notification producer) nofun
    (.packet .notification) (by decide +kernel) raised
  rcases by_packet with ⟨_, pending, level⟩ | ⟨_, _, taken, _⟩
  · exact ⟨raised, pending, level⟩
  · cases taken

/-- The host acknowledges a notification that it was never given: the bit says that one is ready,
nothing was written, and there is no interrupt. -/
theorem ready_raised_unpublished :
    let controller := (new {}).withRecorder
    let operation := ControllerOperation.write Register.ctrlOffset 0x03
    let after := controller.operate operation
    controller.regs.has StatusBit.nciNotification = false ∧
      after.regs.has StatusBit.nciNotification = true ∧
      (controller.production .notification operation).isNone ∧
      after.regs.ntfn = .zero _ ∧ after.irqPending = false ∧ after.irq.level = false := by
  decide +kernel

end Controller

end NearField
