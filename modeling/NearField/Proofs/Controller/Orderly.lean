import NearField.Proofs.Controller.Signal
import NearField.Proofs.Controller.Window

/-!
What the registers of a controller always say. Main statement: in every run whose snapshots were
saved in such runs, the control registers read as they should, no two responses are ready at once,
and a delivery waits only while a response is ready.
-/

namespace NearField

/-- The status bits that are set only while a command is carried out, and the one that stands for
nothing. -/
def StatusBit.silent : UInt8 := 0x80 ||| nciCommand ||| hciCommand

namespace Controller

/-- What the status register says of the responses and of the delivery that waits. -/
structure Steady (controller : Controller) : Prop where
  silent : controller.regs.has StatusBit.silent = false
  exclusive : (controller.regs.has StatusBit.nciResponse &&
    controller.regs.has StatusBit.hciResponse) = false
  pending : controller.pending.isSome = true →
    controller.regs.has StatusBit.nciResponse = true

structure Orderly (controller : Controller) : Prop extends controller.Steady where
  ctrl : controller.regs.ctrl = 0
  pu : controller.regs.pu = 0 ∨ controller.regs.pu = 1
  ws : controller.regs.ws = 0 ∨ controller.regs.ws = 1

/-- The controllers that come of a new one when every snapshot that is restored was saved by such a
controller. -/
inductive Reachable : Controller → Prop
  | new (device : Device) (irq : IrqLine) : Reachable { new device with irq }
  | operate {controller : Controller} (operation : ControllerOperation)
      (unrestored : ∀ snapshot, operation ≠ .load snapshot) (before : Reachable controller) :
      Reachable (controller.operate operation)
  | restore {controller source : Controller} (before : Reachable controller)
      (saved : Reachable source) : Reachable (controller.operate (.load source.save))

variable {controller : Controller}

theorem steady_of_same {other : Controller} (steady : controller.Steady)
    (silent : other.regs.has StatusBit.silent = controller.regs.has StatusBit.silent)
    (nci : other.regs.has StatusBit.nciResponse = controller.regs.has StatusBit.nciResponse)
    (hci : other.regs.has StatusBit.hciResponse = controller.regs.has StatusBit.hciResponse)
    (pending : other.pending = controller.pending) : other.Steady where
  silent := silent.trans steady.silent
  exclusive := by rw [nci, hci, steady.exclusive]
  pending waits := by
    rw [nci]
    exact steady.pending (pending ▸ waits)

theorem flipStatus_steady (steady : controller.Steady) (target : ExchangeBuffer) :
    (controller.flipStatus (StatusBit.ofBuffer target)).Steady := by
  refine steady_of_same steady ?_ ?_ ?_ rfl
  all_goals exact has_flipStatus (by cases target <;> rfl)

theorem lowerIrq_steady (steady : controller.Steady) : controller.lowerIrq.Steady :=
  steady_of_same steady (has_clearStatus rfl) (has_clearStatus rfl) (has_clearStatus rfl) rfl

theorem signal_steady (steady : controller.Steady) (target : ExchangeBuffer) (ready : Bool) :
    (controller.signal (StatusBit.ofBuffer target) ready).Steady := by
  refine steady_of_same steady ?_ ?_ ?_ rfl
  all_goals exact has_signal_other ready (by cases target <;> rfl) rfl

theorem produce_steady (steady : controller.Steady) (target : ExchangeBuffer)
    (producer : Producer) : (controller.produce target producer).2.Steady := by
  have same (mask : UInt8) :
      (controller.produce target producer).2.regs.has mask = controller.regs.has mask := by
    rw [RegisterFile.has, produce_status, RegisterFile.has]
  exact steady_of_same steady (same _) (same _) (same _) rfl

theorem publish_steady (steady : controller.Steady) (target : ExchangeBuffer)
    (producer : Producer) : (controller.publish target producer).2.Steady := by
  have produced := produce_steady steady target producer
  rcases controller.publish_cases target producer with ⟨_, failed⟩ | ⟨_, _, signalled⟩
  · rwa [failed]
  · rw [signalled]
    exact signal_steady produced target _

theorem nciCommand_steady (steady : controller.Steady) : controller.nciCommand.Steady := by
  cases loaded : controller.responseLoaded with
  | true => rwa [nciCommand_loaded loaded]
  | false =>
    have silent := nciCarried_none steady.silent
    have hci := nciCarried_none (free_lacks loaded).2
    rw [nciCommand_free loaded]
    refine ⟨?_, ?_, fun waits => ?_⟩
    · exact (has_signal_other _ (by decide) (by decide)).trans silent
    · rw [Bool.and_eq_false_iff]
      exact .inr ((has_signal_other _ (by decide) (by decide)).trans hci)
    · have answered : controller.nciAnswer.isSome = true := Option.isSome_of_isSome_bind waits
      rw [answered]
      exact has_signal_set (by decide)

theorem hciCommand_steady (steady : controller.Steady) : controller.hciCommand.Steady := by
  cases loaded : controller.responseLoaded with
  | true => rwa [hciCommand_loaded loaded]
  | false =>
    have unready := (free_lacks loaded).1
    have silent := hciCarried_none steady.silent
    have nci := hciCarried_none unready
    rw [hciCommand_free loaded]
    refine ⟨?_, ?_, fun waits => ?_⟩
    · exact (has_signal_other _ (by decide) (by decide)).trans silent
    · rw [Bool.and_eq_false_iff]
      exact .inl ((has_signal_other _ (by decide) (by decide)).trans nci)
    · exact absurd (steady.pending waits) (unready ▸ Bool.false_ne_true)

theorem responseReceived_steady (steady : controller.Steady) :
    controller.responseReceived.Steady ∧ controller.responseReceived.pending = none := by
  obtain ⟨_, _, pending⟩ := controller.released_frame
  have free {other : Controller} (silent : other.regs.has StatusBit.silent = false)
      (taken : other.regs.has StatusBit.nciResponse = false) (idle : other.pending = none) :
      other.Steady := ⟨silent, by rw [taken, Bool.false_and], by rw [idle]; nofun⟩
  have silent := released_none steady.silent
  have taken : controller.released.regs.has StatusBit.nciResponse = false := released_lacks rfl
  rw [responseReceived_released]
  cases waits : controller.pending with
  | none =>
    rw [firePending_none (pending.trans waits)]
    exact ⟨free silent taken (pending.trans waits), pending.trans waits⟩
  | some delivery =>
    rw [firePending_signal (pending.trans waits)]
    have idle : { controller.released with pending := none }.Steady := free silent taken rfl
    exact ⟨signal_steady (produce_steady idle _ _) _ _, rfl⟩

theorem handle_steady (steady : controller.Steady) (signal : HostSignal) :
    (controller.handle signal).Steady := by
  cases signal with
  | interruptAcknowledged => exact lowerIrq_steady steady
  | nciCommandSent => exact nciCommand_steady steady
  | responseReceived => exact (responseReceived_steady steady).1
  | notificationReceived => exact flipStatus_steady steady .notification
  | dataReceived => exact flipStatus_steady steady .data
  | hciCommandSent => exact hciCommand_steady steady
  | unknown => exact steady

theorem new_orderly (device : Device) (irq : IrqLine) : { new device with irq }.Orderly where
  silent := show RegisterFile.has {} _ = false by decide
  exclusive := show (RegisterFile.has {} _ && RegisterFile.has {} _) = false by decide
  pending := nofun
  ctrl := rfl
  pu := .inl rfl
  ws := .inl rfl

theorem eq_of_le_one {value : UInt8} (small : value ≤ 1) : value = 0 ∨ value = 1 := by
  have either := Nat.le_one_iff_eq_zero_or_eq_one.mp (UInt8.le_iff_toNat_le.mp small)
  exact either.imp UInt8.toNat_inj.mp UInt8.toNat_inj.mp

theorem writeRegister_orderly (orderly : controller.Orderly) (register : Register)
    (value : UInt8) : (controller.writeRegister register value).Orderly := by
  obtain ⟨⟨silent, exclusive, pending⟩, ctrl, pu, ws⟩ := orderly
  cases register with
  | status => exact ⟨⟨silent, exclusive, pending⟩, ctrl, pu, ws⟩
  | ctrl =>
    obtain ⟨silent, exclusive, pending⟩ :=
      handle_steady ⟨silent, exclusive, pending⟩ (HostSignal.ofCode value)
    obtain ⟨_, _, _, _, frame⟩ := controller.handle_frame (HostSignal.ofCode value)
    refine ⟨⟨silent, exclusive, pending⟩, rfl, ?_, ?_⟩
    · rwa [writeRegister, frame]
    · rwa [writeRegister, frame]
  | pu =>
    rw [writeRegister]
    split
    · rename_i small
      exact ⟨⟨silent, exclusive, pending⟩, ctrl, eq_of_le_one small, ws⟩
    · exact ⟨⟨silent, exclusive, pending⟩, ctrl, pu, ws⟩
  | ws =>
    rw [writeRegister]
    split
    · rename_i small
      exact ⟨⟨silent, exclusive, pending⟩, ctrl, pu, eq_of_le_one small⟩
    · split
      · refine ⟨⟨silent, exclusive, pending⟩, ctrl, pu, ?_⟩
        dsimp only
        split
        · exact .inr rfl
        · exact .inl rfl
      · exact ⟨⟨silent, exclusive, pending⟩, ctrl, pu, ws⟩
  | cmnd | resp | ntfn | data | reserved => exact ⟨⟨silent, exclusive, pending⟩, ctrl, pu, ws⟩

theorem publish_frame (controller : Controller) (target : ExchangeBuffer) (producer : Producer) :
    ∃ status ntfn data, (controller.publish target producer).2.regs =
      { controller.regs with status, ntfn, data } := by
  have filled : ∃ ntfn data, (controller.produce target producer).2.regs =
      { controller.regs with ntfn, data } := by
    cases target <;> exact ⟨_, _, rfl⟩
  obtain ⟨ntfn, data, produced⟩ := filled
  rcases controller.publish_cases target producer with ⟨_, failed⟩ | ⟨count, _, signalled⟩
  · rw [failed]
    exact ⟨_, ntfn, data, produced⟩
  · obtain ⟨status, frame⟩ := (controller.produce target producer).2.signal_frame
      (StatusBit.ofBuffer target) (0 < count)
    rw [produced] at frame
    rw [signalled]
    exact ⟨status, ntfn, data, frame⟩

theorem operate_orderly (orderly : controller.Orderly) (operation : ControllerOperation)
    (unrestored : ∀ snapshot, operation ≠ .load snapshot) :
    (controller.operate operation).Orderly := by
  cases operation with
  | write offset value =>
    rw [operate, write]
    cases Register.decode offset with
    | error e => exact orderly
    | ok register => exact writeRegister_orderly orderly register value
  | publish target producer =>
    have steady := publish_steady orderly.toSteady target producer
    obtain ⟨_, _, _, frame⟩ := controller.publish_frame target producer
    refine ⟨steady, ?_, ?_, ?_⟩
    · rw [operate, frame]
      exact orderly.ctrl
    · rw [operate, frame]
      exact orderly.pu
    · rw [operate, frame]
      exact orderly.ws
  | receive act =>
    obtain ⟨⟨silent, exclusive, pending⟩, ctrl, pu, ws⟩ := orderly
    exact ⟨⟨silent, exclusive, pending⟩, ctrl, pu, ws⟩
  | load snapshot => exact absurd rfl (unrestored snapshot)

theorem restore_orderly {source : Controller} (orderly : source.Orderly)
    (controller : Controller) : (controller.operate (.load source.save)).Orderly := by
  obtain ⟨⟨silent, exclusive, _⟩, ctrl, pu, ws⟩ := orderly
  rw [operate, load_save]
  exact ⟨⟨silent, exclusive, by rintro ⟨⟩⟩, ctrl, pu, ws⟩

theorem Reachable.operateAll {operations : List ControllerOperation}
    (reachable : controller.Reachable)
    (unrestored : ∀ operation ∈ operations, ∀ snapshot, operation ≠ .load snapshot) :
    (controller.operateAll operations).Reachable := by
  induction operations generalizing controller with
  | nil => exact reachable
  | cons operation operations ih =>
    have first := reachable.operate operation (unrestored operation List.mem_cons_self)
    exact ih first fun next inside => unrestored next (List.mem_cons_of_mem _ inside)

/-- The registers of every reachable controller are orderly. -/
theorem Reachable.orderly (reachable : controller.Reachable) : controller.Orderly := by
  induction reachable with
  | new device irq => exact new_orderly device irq
  | operate operation unrestored _ ih => exact operate_orderly ih operation unrestored
  | restore _ _ _ saved => exact restore_orderly saved _

end Controller

end NearField
