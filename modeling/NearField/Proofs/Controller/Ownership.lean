import NearField.Proofs.Controller.Settlement

/-!
Whom the places of the register window belong to. Main statement: what the host writes changes the
place that it writes to and nothing else, unless it acts through the control register; then only
the places change that the controller may fill for that signal.
-/

namespace NearField

namespace Block

variable {size : Nat}

theorem getElem?_octets (block : Block size) (i : Fin size) :
    block.octets[i.val]? = some (block.get i) := by
  have inside : i.val < block.octets.length := by
    rw [block.length_octets]
    exact i.isLt
  rw [List.getElem?_eq_getElem inside]
  rfl

theorem get_set (block : Block size) (i j : Fin size) (value : UInt8) :
    (block.set i value).get j = if j = i then value else block.get j := by
  have place := (block.set i value).getElem?_octets j
  have before := block.getElem?_octets j
  rw [set, List.getElem?_set, before, block.length_octets, if_pos i.isLt] at place
  split
  · rename_i same
    rw [if_pos (congrArg Fin.val same.symm)] at place
    exact (Option.some.inj place).symm
  · rename_i other
    rw [if_neg fun same => other (Fin.ext same.symm)] at place
    exact (Option.some.inj place).symm

theorem get_overlay_beyond (block : Block size) {bytes : Octets} {i : Fin size}
    (beyond : bytes.length ≤ i.val) : (block.overlay 0 bytes).get i = block.get i := by
  have inside := i.isLt
  have fits : bytes.length ≤ block.octets.length := by
    rw [block.length_octets]
    omega
  have laid : (block.overlay 0 bytes).octets = bytes ++ block.octets.drop bytes.length :=
    Octets.overlay_zero fits
  have place := (block.overlay 0 bytes).getElem?_octets i
  rw [laid, List.getElem?_append_right beyond, List.getElem?_drop,
    Nat.add_sub_cancel' beyond, getElem?_octets] at place
  exact (Option.some.inj place).symm

end Block

namespace Register

theorem memory_of_decode {offset : Nat} {register : Register}
    (decoded : decode offset = .ok register) (beyond : cmndOffset ≤ offset) : register.index?.isSome = true := by
  have place := offset_of_decode decoded
  rw [cmndOffset] at beyond
  cases register with
  | status | ctrl | pu | ws =>
    simp only [Register.offset] at place
    omega
  | cmnd | resp | ntfn | data | reserved => rfl

end Register

theorem RegisterFile.get_store (regs : RegisterFile) {register : Register}
    (memory : register.index?.isSome = true) (value : UInt8) (other : Register) :
    (regs.store register value).get other =
      if other = register then value else regs.get other := by
  cases register with
  | status | ctrl | pu | ws => cases memory
  | cmnd | resp | ntfn | data | reserved =>
    cases other <;> first | rfl | simp [store, get, Block.get_set]

namespace Controller

variable {controller : Controller}

theorem writeRegister_memory {register : Register} (memory : register.index?.isSome = true)
    (value : UInt8) : controller.writeRegister register value =
      { controller with regs := controller.regs.store register value } := by
  cases register with
  | status | ctrl | pu | ws => cases memory
  | cmnd | resp | ntfn | data | reserved => rfl

/-- The places that may read otherwise once a signal of the host was handled. -/
def MayChange (controller : Controller) (signal : HostSignal) : Register → Prop
  | .status | .ctrl => True
  | .pu | .ws | .cmnd _ | .reserved _ => False
  | .resp _ => (signal = .nciCommandSent ∨ signal = .hciCommandSent) ∧
      controller.responseLoaded = false
  | .ntfn i => signal = .responseReceived ∧ i.val < deliveryRoom ∧
      ∃ delivery, controller.pending = some delivery ∧ delivery.buffer = .notification
  | .data i => signal = .responseReceived ∧ i.val < deliveryRoom ∧
      ∃ delivery, controller.pending = some delivery ∧ delivery.buffer = .data

/-- A production keeps the other buffer, and its own one after the delivery room. -/
theorem produce_get (controller : Controller) (target : ExchangeBuffer) (producer : Producer)
    {i : Fin packetBufferSize} (beyond : deliveryRoom ≤ i.val) :
    ((controller.produce target producer).2.regs.buffer target).get i =
      (controller.regs.buffer target).get i := by
  have filled : (controller.produce target producer).2.regs.buffer target =
      let blanked := (controller.regs.buffer target).clearFirst deliveryRoom
      blanked.overlay 0 ((producer controller.device
        (blanked.octets.take deliveryRoom)).2.1.take deliveryRoom) := by
    cases target <;> rfl
  rw [filled]
  dsimp only
  rw [Block.get_overlay_beyond _ ((List.length_take_le ..).trans beyond), Block.clearFirst,
    Block.get_overlay_beyond]
  rwa [Octets.length_zeros]

theorem firePending_buffer {target : ExchangeBuffer} {i : Fin packetBufferSize}
    (kept : ∀ delivery, controller.pending = some delivery → delivery.buffer = target →
      deliveryRoom ≤ i.val) :
    (controller.firePending.regs.buffer target).get i = (controller.regs.buffer target).get i := by
  cases waits : controller.pending with
  | none => rw [firePending_none waits]
  | some delivery =>
    rw [firePending_signal waits]
    dsimp only
    rw [buffer_signal]
    by_cases own : delivery.buffer = target
    · rw [← own] at kept ⊢
      exact produce_get _ _ _ (kept delivery waits rfl)
    · rw [produce_other _ _ own]

theorem responseReceived_buffer {target : ExchangeBuffer} {i : Fin packetBufferSize}
    (kept : ∀ delivery, controller.pending = some delivery → delivery.buffer = target →
      deliveryRoom ≤ i.val) :
    (controller.responseReceived.regs.buffer target).get i =
      (controller.regs.buffer target).get i := by
  obtain ⟨⟨_, regs⟩, _, pending⟩ := controller.released_frame
  have stands : controller.released.regs.buffer target = controller.regs.buffer target := by
    rw [regs]
    cases target <;> rfl
  rw [responseReceived_released, firePending_buffer (pending ▸ kept), stands]

theorem handle_get {signal : HostSignal} {register : Register}
    (kept : ¬ controller.MayChange signal register) :
    (controller.handle signal).regs.get register = controller.regs.get register := by
  cases signal with
  | interruptAcknowledged | notificationReceived | dataReceived | unknown =>
    cases register <;> first | rfl | exact absurd trivial kept
  | nciCommandSent =>
    rw [handle]
    cases free : controller.responseLoaded with
    | true => rw [nciCommand_loaded free]
    | false =>
      obtain ⟨status, resp, answered⟩ := controller.nciCommand_regs
      rw [answered]
      cases register with
      | status | ctrl => exact absurd trivial kept
      | resp => exact absurd ⟨.inl rfl, free⟩ kept
      | pu | ws | cmnd | ntfn | data | reserved => rfl
  | hciCommandSent =>
    rw [handle]
    cases free : controller.responseLoaded with
    | true => rw [hciCommand_loaded free]
    | false =>
      obtain ⟨status, resp, answered⟩ := controller.hciCommand_regs
      rw [answered]
      cases register with
      | status | ctrl => exact absurd trivial kept
      | resp => exact absurd ⟨.inr rfl, free⟩ kept
      | pu | ws | cmnd | ntfn | data | reserved => rfl
  | responseReceived =>
    rw [handle]
    cases register with
    | status | ctrl => exact absurd trivial kept
    | ntfn i =>
      have beyond (delivery : Delivery) (waits : controller.pending = some delivery)
          (own : delivery.buffer = .notification) : deliveryRoom ≤ i.val :=
        Nat.not_lt.mp fun inside => kept ⟨rfl, inside, delivery, waits, own⟩
      exact responseReceived_buffer beyond
    | data i =>
      have beyond (delivery : Delivery) (waits : controller.pending = some delivery)
          (own : delivery.buffer = .data) : deliveryRoom ≤ i.val :=
        Nat.not_lt.mp fun inside => kept ⟨rfl, inside, delivery, waits, own⟩
      exact responseReceived_buffer beyond
    | pu | ws | cmnd | resp | reserved =>
      obtain ⟨⟨_, released⟩, _⟩ := controller.released_frame
      obtain ⟨_, _, _, fired⟩ := controller.released.firePending_frame
      rw [responseReceived_released, fired, released]
      rfl

theorem write_inside (controller : Controller) {offset : Nat} (value : UInt8)
    (inside : offset < windowSize) : ∃ register, Register.decode offset = .ok register ∧
      controller.write offset value = .ok (controller.writeRegister register value) := by
  obtain ⟨register, decoded⟩ := Register.decode_inside inside
  refine ⟨register, decoded, ?_⟩
  rw [write, decoded]
  rfl

theorem read_store {offset : Nat} {register : Register}
    (decoded : Register.decode offset = .ok register) (memory : register.index?.isSome = true)
    (value : UInt8) (place : Nat) :
    { controller with regs := controller.regs.store register value }.read place =
      if place = offset then .ok value else controller.read place := by
  rw [read, read]
  cases found : Register.decode place with
  | error e =>
    have other : place ≠ offset := by
      rintro rfl
      cases found.symm.trans decoded
    rw [if_neg other]
    rfl
  | ok here =>
    have same : here = register ↔ place = offset := by
      constructor
      · rintro rfl
        exact (Register.offset_of_decode found).symm.trans (Register.offset_of_decode decoded)
      · rintro rfl
        exact Except.ok.inj (found.symm.trans decoded)
    simp only [Except.map, RegisterFile.get_store _ memory, same]
    split <;> rfl

theorem read_handled {signal : HostSignal} {place : Nat}
    (changed : { controller.handle signal with
        regs := { (controller.handle signal).regs with ctrl := 0 } }.read place ≠
      controller.read place) :
    ∃ register, Register.decode place = .ok register ∧ controller.MayChange signal register := by
  rw [read, read] at changed
  cases found : Register.decode place with
  | error e =>
    rw [found] at changed
    exact absurd rfl changed
  | ok register =>
    refine ⟨register, rfl, ?_⟩
    by_contra kept
    have stands := handle_get kept
    rw [found] at changed
    refine changed (congrArg Except.ok ?_)
    cases register <;> first | exact stands | exact absurd trivial kept

structure Wrote (controller : Controller) (offset : Nat) (value : UInt8) (after : Controller) :
    Prop where
  memory : Register.cmndOffset ≤ offset →
    (∀ place, after.read place = if place = offset then .ok value else controller.read place) ∧
      after.device = controller.device ∧ after.pending = controller.pending ∧
        after.irq = controller.irq
  status : offset = Register.status.offset → after = controller
  control : offset = Register.ctrlOffset → ∀ place, after.read place ≠ controller.read place →
    ∃ register, Register.decode place = .ok register ∧
      controller.MayChange (HostSignal.ofCode value) register
  /-- A command while a response is ready clears the control register and changes nothing else. -/
  refusal : offset = Register.ctrlOffset → controller.responseLoaded = true →
    HostSignal.ofCode value = .nciCommandSent ∨ HostSignal.ofCode value = .hciCommandSent →
      after = { controller with regs := { controller.regs with ctrl := 0 } } ∧
        (controller.Reachable → after = controller)

theorem writeRegister_ctrl (controller : Controller) (value : UInt8) :
    controller.Wrote Register.ctrlOffset value (controller.writeRegister .ctrl value) where
  memory beyond := absurd beyond (by decide)
  status here := absurd here (by decide)
  control _ place changed := read_handled changed
  refusal _ loaded commanded := by
    have refused : controller.handle (HostSignal.ofCode value) = controller := by
      rcases commanded with nci | hci
      · rw [nci]
        exact nciCommand_loaded loaded
      · rw [hci]
        exact hciCommand_loaded loaded
    have after : controller.writeRegister .ctrl value =
        { controller with regs := { controller.regs with ctrl := 0 } } := by
      rw [writeRegister, refused]
    refine ⟨after, fun reachable => ?_⟩
    rw [after, ← reachable.orderly.ctrl]

theorem writeRegister_elsewhere (controller : Controller) {offset : Nat} {register : Register}
    (decoded : Register.decode offset = .ok register) (mute : register ≠ .ctrl) (value : UInt8) :
    controller.Wrote offset value (controller.writeRegister register value) := by
  have elsewhere : offset ≠ Register.ctrlOffset := by
    rintro rfl
    exact mute (Except.ok.inj decoded).symm
  refine ⟨fun beyond => ?_, fun here => ?_, fun here => absurd here elsewhere,
    fun here => absurd here elsewhere⟩
  · have memory := Register.memory_of_decode decoded beyond
    rw [writeRegister_memory memory]
    exact ⟨read_store decoded memory value, rfl, rfl, rfl⟩
  · subst here
    cases Except.ok.inj decoded
    rfl

/-- Every write inside the window keeps to the places that it may change, whatever the registers
say, the command buffer holds and the device does. -/
theorem write_keeps_places (controller : Controller) (offset : Nat) (value : UInt8)
    (inside : offset < windowSize) :
    ∃ after, controller.write offset value = .ok after ∧ controller.Wrote offset value after := by
  obtain ⟨register, decoded, written⟩ := controller.write_inside value inside
  refine ⟨_, written, ?_⟩
  by_cases acts : register = .ctrl
  · subst acts
    have here : Register.ctrlOffset = offset := Register.offset_of_decode decoded
    subst here
    exact controller.writeRegister_ctrl value
  · exact controller.writeRegister_elsewhere decoded acts value

/-- The host gives a command while the answer to another one is ready, and nothing comes of it. -/
theorem write_keeps_places_refused :
    let answered := (new {}).operateAll (hostCommand [0x20, 0x00, 0x01, 0x01])
    answered.responseLoaded = true ∧ answered.write Register.ctrlOffset 0x05 = .ok answered := by
  intro answered
  have loaded : answered.responseLoaded = true := by decide +kernel
  have reachable : answered.Reachable := by
    refine (Reachable.new {} .unwired).operateAll fun operation inside => ?_
    exact (hostCommand_leavesWaiting _ operation inside).2
  obtain ⟨after, written, wrote⟩ :=
    write_keeps_places answered Register.ctrlOffset 0x05 (by decide)
  have same := (wrote.refusal rfl loaded (.inr rfl)).2 reachable
  exact ⟨loaded, written.trans (congrArg Except.ok same)⟩

/-- A snapshot from elsewhere says that a response is ready and has the control register set. Once
it is restored, a command is refused, and the control register reads zero. -/
theorem write_clears_restored :
    let forged := Snapshot.capture { status := StatusBit.nciResponse, ctrl := 0x05 }
    let restored := (new {}).operate (.load forged)
    let after := restored.operate (.write Register.ctrlOffset 0x01)
    restored.responseLoaded = true ∧
      (restored.read Register.ctrlOffset).toOption = some 0x05 ∧
      (after.read Register.ctrlOffset).toOption = some 0x00 := by
  decide +kernel

end Controller

end NearField
