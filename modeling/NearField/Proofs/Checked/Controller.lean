import NearField.Proofs.Checked.Device
import NearField.Proofs.Controller.Publication

/-!
The controller with every access, copy and sum checked, and the host's accesses to its window.
Main statement: whatever sequence of reads and writes the host makes, no check fails; and an access
outside of the window is refused and changes nothing.
-/

namespace NearField

/-- A place in the window whose position nothing bounds. -/
inductive WindowPlace where
  | status
  | ctrl
  | pu
  | ws
  | cmnd (pos : Nat)
  | resp (pos : Nat)
  | ntfn (pos : Nat)
  | data (pos : Nat)
  | reserved (pos : Nat)
deriving DecidableEq, Repr

def Register.place : Register → WindowPlace
  | .status => .status
  | .ctrl => .ctrl
  | .pu => .pu
  | .ws => .ws
  | .cmnd i => .cmnd i
  | .resp i => .resp i
  | .ntfn i => .ntfn i
  | .data i => .data i
  | .reserved i => .reserved i

def WindowPlace.checkedDecode (offset : Nat) : Attempt WindowPlace := do
  if offset = 0x000 then return .status
  else if offset = 0x001 then return .ctrl
  else if offset = 0x002 then return .pu
  else if offset = 0x003 then return .ws
  else if offset < 0x184 then return .cmnd (← Size.sub offset 0x004)
  else if offset < 0x304 then return .resp (← Size.sub offset 0x184)
  else if offset < 0x484 then return .ntfn (← Size.sub offset 0x304)
  else if offset < 0x604 then return .data (← Size.sub offset 0x484)
  else if offset < windowSize then return .reserved (← Size.sub offset 0x604)
  else throw (.badOffset offset)

theorem WindowPlace.checkedDecode_eq (offset : Nat) :
    checkedDecode offset = settled ((Register.decode offset).map Register.place) := by
  unfold checkedDecode Register.decode
  refine settled_ite (fun _ => rfl) fun status => ?_
  refine settled_ite (fun _ => rfl) fun ctrl => ?_
  refine settled_ite (fun _ => rfl) fun pu => ?_
  refine settled_ite (fun _ => rfl) fun ws => ?_
  refine settled_dite (fun _ => ?_) fun cmnd => ?_
  · rw [Size.sub_of_le (by omega)]
    rfl
  refine settled_dite (fun _ => ?_) fun resp => ?_
  · rw [Size.sub_of_le (Nat.not_lt.mp cmnd)]
    rfl
  refine settled_dite (fun _ => ?_) fun ntfn => ?_
  · rw [Size.sub_of_le (Nat.not_lt.mp resp)]
    rfl
  refine settled_dite (fun _ => ?_) fun data => ?_
  · rw [Size.sub_of_le (Nat.not_lt.mp ntfn)]
    rfl
  refine settled_dite (fun _ => ?_) fun _ => rfl
  · rw [Size.sub_of_le (Nat.not_lt.mp data)]
    rfl

theorem Register.decode_outside {offset : Nat} (outside : windowSize ≤ offset) :
    decode offset = .error (.badOffset offset) := by
  rw [windowSize] at outside
  rw [decode, if_neg (by omega), if_neg (by omega), if_neg (by omega), if_neg (by omega),
    dif_neg (by omega), dif_neg (by omega), dif_neg (by omega), dif_neg (by omega),
    dif_neg (by rw [windowSize]; omega)]

namespace RegisterFile

def checkedGet (regs : RegisterFile) : WindowPlace → Checked UInt8
  | .status => pure regs.status
  | .ctrl => pure regs.ctrl
  | .pu => pure regs.pu
  | .ws => pure regs.ws
  | .cmnd pos => regs.cmnd.checkedGet pos
  | .resp pos => regs.resp.checkedGet pos
  | .ntfn pos => regs.ntfn.checkedGet pos
  | .data pos => regs.data.checkedGet pos
  | .reserved pos => regs.reserved.checkedGet pos

def checkedStore (regs : RegisterFile) (place : WindowPlace) (value : UInt8) :
    Checked RegisterFile := do
  match place with
  | .cmnd pos => return { regs with cmnd := ← regs.cmnd.checkedSet pos value }
  | .resp pos => return { regs with resp := ← regs.resp.checkedSet pos value }
  | .ntfn pos => return { regs with ntfn := ← regs.ntfn.checkedSet pos value }
  | .data pos => return { regs with data := ← regs.data.checkedSet pos value }
  | .reserved pos => return { regs with reserved := ← regs.reserved.checkedSet pos value }
  | .status | .ctrl | .pu | .ws => return regs

theorem checkedGet_eq (regs : RegisterFile) (register : Register) :
    regs.checkedGet register.place = pure (regs.get register) := by
  cases register <;> first | rfl | exact Block.checkedGet_fin _ _

theorem checkedStore_eq (regs : RegisterFile) (register : Register) (value : UInt8) :
    regs.checkedStore register.place value = pure (regs.store register value) := by
  cases register <;>
    simp only [checkedStore, Register.place, Block.checkedSet_fin, pure_bind, store]

end RegisterFile

namespace Controller

def checkedLoadResponse (controller : Controller) (response : Option Octets) :
    Checked (Bool × Controller) := do
  let blank : Block packetBufferSize := .zero _
  let controller := { controller with regs := { controller.regs with resp := blank } }
  match response with
  | none => return (false, controller)
  | some bytes =>
    if packetBufferSize < bytes.length then return (false, controller)
    else
      let resp ← blank.checkedCopy 0 bytes.length bytes
      return (true, { controller with regs := { controller.regs with resp } })

def checkedNciCommand (controller : Controller) : Checked Controller := do
  if controller.responseLoaded then return controller
  else
    let (answer, device) ← controller.device.checkedProcessNci controller.regs.cmnd.octets
    let (loaded, controller) ← { controller with device }.checkedLoadResponse
      (answer.map Device.NciAnswer.response)
    let pending := if loaded then answer.bind Device.NciAnswer.delivery else none
    return ({ controller with pending }.clearStatus StatusBit.nciCommand).signal
      StatusBit.nciResponse loaded

def checkedHciCommand (controller : Controller) : Checked Controller := do
  if controller.responseLoaded then return controller
  else
    let (answer, device) ← controller.device.checkedProcessHci controller.regs.cmnd.octets
    let (loaded, controller) ← { controller with device }.checkedLoadResponse answer
    return (controller.clearStatus StatusBit.hciCommand).signal StatusBit.hciResponse loaded

def checkedFirePending (controller : Controller) : Checked Controller := do
  match controller.pending with
  | none => return controller
  | some delivery =>
    let target := delivery.buffer
    let blanked ← (controller.regs.buffer target).checkedBlank 0 deliveryRoom
    let room ← blanked.checkedSlice 0 deliveryRoom
    let (result, filled, device) ←
      Device.checkedDeliver delivery.content controller.device room
    let block ← blanked.checkedCopy 0 deliveryRoom filled
    let regs := controller.regs.setBuffer target block
    return { controller with regs, device, pending := none }.signal (StatusBit.ofBuffer target)
      (0 < result.toOption.getD 0)

def checkedResponseReceived (controller : Controller) : Checked Controller :=
  let controller := controller.clearStatus StatusBit.responses
  let quiet := controller.regs.status &&& StatusBit.ready == 0 && controller.irqPending
  (if quiet then controller.lowerIrq else controller).checkedFirePending

def checkedHandle (controller : Controller) : HostSignal → Checked Controller
  | .interruptAcknowledged => return controller.lowerIrq
  | .nciCommandSent => controller.checkedNciCommand
  | .responseReceived => controller.checkedResponseReceived
  | .notificationReceived => return controller.flipStatus StatusBit.nciNotification
  | .dataReceived => return controller.flipStatus StatusBit.nciData
  | .hciCommandSent => controller.checkedHciCommand
  | .unknown => return controller

/-! ### Accesses -/

def checkedRead (controller : Controller) (offset : Nat) : Attempt UInt8 := do
  let place ← WindowPlace.checkedDecode offset
  controller.regs.checkedGet place

def checkedWritePlace (controller : Controller) (place : WindowPlace) (value : UInt8) :
    Checked Controller := do
  match place with
  | .status => return controller
  | .ctrl =>
    let acted ← controller.checkedHandle (HostSignal.ofCode value)
    return { acted with regs := { acted.regs with ctrl := 0 } }
  | .pu =>
    if value ≤ 1 then return { controller with regs := { controller.regs with pu := value } }
    else return controller
  | .ws =>
    if value ≤ 1 then return { controller with regs := { controller.regs with ws := value } }
    else if value = 2 then
      return { controller with
        regs := { controller.regs with ws := if controller.regs.ws = 0 then 1 else 0 } }
    else return controller
  | place => return { controller with regs := ← controller.regs.checkedStore place value }

def checkedWrite (controller : Controller) (offset : Nat) (value : UInt8) :
    Attempt Controller := do
  let place ← WindowPlace.checkedDecode offset
  controller.checkedWritePlace place value

end Controller

inductive WindowAccess where
  | read (offset : Nat)
  | write (offset : Nat) (value : UInt8)
deriving DecidableEq, Repr

def WindowAccess.offset : WindowAccess → Nat
  | read offset => offset
  | write offset _ => offset

namespace Controller

def access (controller : Controller) :
    WindowAccess → Except Error (Option UInt8) × Controller
  | .read offset => ((controller.read offset).map some, controller)
  | .write offset value =>
    match controller.write offset value with
    | .ok written => (.ok none, written)
    | .error e => (.error e, controller)

def accessAll (controller : Controller) :
    List WindowAccess → List (Except Error (Option UInt8)) × Controller
  | [] => ([], controller)
  | access :: rest =>
    let (answer, controller) := controller.access access
    let (answers, controller) := controller.accessAll rest
    (answer :: answers, controller)

def checkedAccess (controller : Controller) :
    WindowAccess → Checked (Except Error (Option UInt8) × Controller)
  | .read offset => do
    let answer ← (controller.checkedRead offset).run
    return (answer.map some, controller)
  | .write offset value => do
    match ← (controller.checkedWrite offset value).run with
    | .ok written => return (.ok none, written)
    | .error e => return (.error e, controller)

def checkedAccessAll (controller : Controller) :
    List WindowAccess → Checked (List (Except Error (Option UInt8)) × Controller)
  | [] => return ([], controller)
  | access :: rest => do
    let (answer, controller) ← controller.checkedAccess access
    let (answers, controller) ← controller.checkedAccessAll rest
    return (answer :: answers, controller)

variable {controller : Controller}

theorem checkedLoadResponse_eq (controller : Controller) (response : Option Octets) :
    controller.checkedLoadResponse response = pure (controller.loadResponse response) := by
  unfold checkedLoadResponse loadResponse
  cases response with
  | none => rfl
  | some bytes =>
    simp only
    split
    · rfl
    · rename_i fits
      rw [Block.checkedCopy_eq _ (Nat.zero_add _) (Nat.not_lt.mp fits), pure_bind]

theorem checkedNciCommand_eq (sound : controller.device.Sound) :
    controller.checkedNciCommand = pure controller.nciCommand := by
  unfold checkedNciCommand nciCommand
  split
  · rfl
  · rw [Device.checkedProcessNci_eq sound, pure_bind]
    simp only
    rw [checkedLoadResponse_eq, pure_bind]

theorem checkedHciCommand_eq (sound : controller.device.Sound) :
    controller.checkedHciCommand = pure controller.hciCommand := by
  unfold checkedHciCommand hciCommand
  split
  · rfl
  · rw [Device.checkedProcessHci_eq sound, pure_bind]
    simp only
    rw [checkedLoadResponse_eq, pure_bind]

theorem checkedFirePending_eq (controller : Controller) :
    controller.checkedFirePending = pure controller.firePending := by
  unfold checkedFirePending firePending
  cases controller.pending with
  | none => rfl
  | some delivery =>
    have inside : deliveryRoom ≤ packetBufferSize := by decide
    -- what the device fills is as long as the room, so that it is copied back whole
    have filled (block : Block packetBufferSize) (encoding : Except Error Octets) :
        ((block.extract 0 deliveryRoom).place encoding).2.length = deliveryRoom := by
      rw [Octets.length_place, Block.extract, List.length_take, List.drop_zero,
        block.length_octets, Nat.min_eq_left inside]
    simp only
    rw [Block.checkedBlank_le _ (Nat.zero_le _) inside, pure_bind,
      Block.checkedSlice_le _ (Nat.zero_le _) inside, pure_bind, Device.checkedDeliver_eq,
      pure_bind, Nat.sub_zero]
    simp only
    rw [Block.checkedCopy_eq _ (by rw [Nat.zero_add, filled]) inside, pure_bind]
    have whole (block : Block packetBufferSize) (encoding : Except Error Octets) :=
      List.take_of_length_le (Nat.le_of_eq (filled block encoding))
    have start (block : Block packetBufferSize) :
        block.octets.take deliveryRoom = block.extract 0 deliveryRoom := rfl
    simp only [produce, deliveryProducer, start, whole, Block.clearFirst]

theorem checkedResponseReceived_eq (controller : Controller) :
    controller.checkedResponseReceived = pure controller.responseReceived :=
  checkedFirePending_eq _

theorem checkedHandle_eq (sound : controller.device.Sound) (signal : HostSignal) :
    controller.checkedHandle signal = pure (controller.handle signal) := by
  cases signal with
  | nciCommandSent => exact checkedNciCommand_eq sound
  | hciCommandSent => exact checkedHciCommand_eq sound
  | responseReceived => exact controller.checkedResponseReceived_eq
  | interruptAcknowledged | notificationReceived | dataReceived | unknown => rfl

/-! ### Accesses without a fault -/

theorem checkedRead_eq (controller : Controller) (offset : Nat) :
    controller.checkedRead offset = settled (controller.read offset) := by
  rw [checkedRead, WindowPlace.checkedDecode_eq, read]
  cases Register.decode offset with
  | error e => rfl
  | ok register =>
    change (liftM (controller.regs.checkedGet register.place) : Attempt UInt8) = _
    rw [RegisterFile.checkedGet_eq]
    rfl

theorem checkedWritePlace_eq (sound : controller.device.Sound) (register : Register)
    (value : UInt8) :
    controller.checkedWritePlace register.place value =
      pure (controller.writeRegister register value) := by
  have stored := controller.regs.checkedStore_eq register value
  unfold checkedWritePlace writeRegister
  cases register with
  | status => rfl
  | ctrl =>
    simp only [Register.place]
    rw [checkedHandle_eq sound, pure_bind]
  | pu | ws =>
    simp only [Register.place]
    repeat' split
    all_goals rfl
  | _ =>
    simp only [Register.place] at stored ⊢
    rw [stored, pure_bind]

theorem checkedWrite_eq (sound : controller.device.Sound) (offset : Nat) (value : UInt8) :
    controller.checkedWrite offset value = settled (controller.write offset value) := by
  rw [checkedWrite, WindowPlace.checkedDecode_eq, write]
  cases Register.decode offset with
  | error e => rfl
  | ok register =>
    change (liftM (controller.checkedWritePlace register.place value) : Attempt Controller) = _
    rw [checkedWritePlace_eq sound]
    rfl

theorem checkedAccess_eq (sound : controller.device.Sound) (access : WindowAccess) :
    controller.checkedAccess access = pure (controller.access access) := by
  cases access with
  | read offset => rw [checkedAccess, checkedRead_eq, run_settled, pure_bind]; rfl
  | write offset value =>
    rw [checkedAccess, checkedWrite_eq sound, run_settled, pure_bind, Controller.access]
    cases controller.write offset value <;> rfl

theorem loadResponse_device (controller : Controller) (response : Option Octets) :
    (controller.loadResponse response).2.device = controller.device := by
  obtain ⟨resp, frame⟩ := loadResponse_frame controller response
  rw [frame]

theorem nciCommand_sound (sound : controller.device.Sound) :
    controller.nciCommand.device.Sound := by
  have kept := Device.processNci_sound sound controller.regs.cmnd.octets
  unfold nciCommand
  split
  · exact sound
  · generalize controller.device.processNci controller.regs.cmnd.octets = outcome at kept
    obtain ⟨answer, device⟩ := outcome
    have same := loadResponse_device { controller with device }
      (answer.map Device.NciAnswer.response)
    exact same ▸ kept

theorem hciCommand_sound (sound : controller.device.Sound) :
    controller.hciCommand.device.Sound := by
  have kept := Device.processHci_sound sound controller.regs.cmnd.octets
  unfold hciCommand
  split
  · exact sound
  · generalize controller.device.processHci controller.regs.cmnd.octets = outcome at kept
    obtain ⟨answer, device⟩ := outcome
    have same := loadResponse_device { controller with device } answer
    exact same ▸ kept

theorem firePending_sound (sound : controller.device.Sound) :
    controller.firePending.device.Sound := by
  cases pending : controller.pending with
  | none =>
    rw [firePending, pending]
    exact sound
  | some delivery =>
    obtain ⟨producing, fired, _, device⟩ := firePending_some pending
    rw [fired]
    exact Device.deliver_sound (device ▸ sound) delivery.content _

theorem responseReceived_sound (sound : controller.device.Sound) :
    controller.responseReceived.device.Sound := by
  obtain ⟨cleared, fires, _, device, _⟩ := responseReceived_fires controller
  rw [fires]
  exact firePending_sound (device ▸ sound)

theorem handle_sound (sound : controller.device.Sound) (signal : HostSignal) :
    (controller.handle signal).device.Sound := by
  cases signal with
  | nciCommandSent => exact nciCommand_sound sound
  | hciCommandSent => exact hciCommand_sound sound
  | responseReceived => exact responseReceived_sound sound
  | interruptAcknowledged | notificationReceived | dataReceived | unknown => exact sound

theorem writeRegister_sound (sound : controller.device.Sound) (register : Register)
    (value : UInt8) : (controller.writeRegister register value).device.Sound := by
  unfold writeRegister
  cases register with
  | ctrl => exact handle_sound sound _
  | pu =>
    simp only
    split <;> exact sound
  | ws =>
    simp only
    split
    · exact sound
    · split <;> exact sound
  | _ => exact sound

theorem access_sound (sound : controller.device.Sound) (access : WindowAccess) :
    (controller.access access).2.device.Sound := by
  cases access with
  | read offset => exact sound
  | write offset value =>
    rw [Controller.access, write]
    cases Register.decode offset with
    | error e => exact sound
    | ok register => exact writeRegister_sound sound register value

theorem accessAll_sound (sound : controller.device.Sound) (accesses : List WindowAccess) :
    (controller.accessAll accesses).2.device.Sound := by
  induction accesses generalizing controller with
  | nil => exact sound
  | cons access rest ih => exact ih (access_sound sound access)

/-! ### Runs -/

/-- As long as the device is sound, a run of accesses fails no check. -/
theorem checkedAccessAll_eq (sound : controller.device.Sound) (accesses : List WindowAccess) :
    controller.checkedAccessAll accesses = pure (controller.accessAll accesses) := by
  induction accesses generalizing controller with
  | nil => rfl
  | cons access rest ih =>
    rw [checkedAccessAll, checkedAccess_eq sound, pure_bind]
    simp only
    rw [ih (access_sound sound access), pure_bind]
    rfl

theorem access_outside (controller : Controller) {access : WindowAccess}
    (outside : windowSize ≤ access.offset) :
    controller.access access = (.error (.badOffset access.offset), controller) := by
  cases access with
  | read offset =>
    have refused : Register.decode offset = _ := Register.decode_outside outside
    rw [Controller.access, read, refused]
    rfl
  | write offset value =>
    have refused : Register.decode offset = _ := Register.decode_outside outside
    rw [Controller.access, write, refused]
    rfl

/-- The host cannot bring the controller down: whatever endpoints are in the field, whatever the
registers hold and a delivery waits, every run of accesses passes every check and gives what the
unchecked controller gives. After any run an access outside of the window passes them too, is
refused, and leaves the controller as it is. -/
theorem accesses_never_fault (endpoints : List Endpoint) (regs : RegisterFile)
    (pending : Option Delivery) (irq : IrqLine) (accesses : List WindowAccess) :
    let controller : Controller := { regs, device := .ofEndpoints endpoints, pending, irq }
    controller.checkedAccessAll accesses = .ok (controller.accessAll accesses) ∧
      ∀ access : WindowAccess, windowSize ≤ access.offset →
        (controller.accessAll accesses).2.checkedAccess access =
          .ok (.error (.badOffset access.offset), (controller.accessAll accesses).2) := by
  intro controller
  have sound : controller.device.Sound := Device.ofEndpoints_sound endpoints
  refine ⟨checkedAccessAll_eq sound accesses, fun access outside => ?_⟩
  rw [checkedAccess_eq (accessAll_sound sound accesses), access_outside _ outside]
  rfl

/-- A host that sends what stands in an empty command buffer, reads the status and then writes one
octet past the window. -/
theorem accesses_never_fault_past_window :
    let controller : Controller :=
      { regs := {}, device := .ofEndpoints [.peer (.zero 10)], pending := none, irq := .recorder }
    let accesses : List WindowAccess := [.write Register.ctrlOffset 0x01, .read 0x000]
    let past : WindowAccess := .write windowSize 0x01
    windowSize ≤ past.offset ∧
      controller.checkedAccessAll accesses = .ok (controller.accessAll accesses) ∧
        (controller.accessAll accesses).2.checkedAccess past =
          .ok (.error (.badOffset 0x1000), (controller.accessAll accesses).2) := by
  intro controller accesses past
  have safe := accesses_never_fault [.peer (.zero 10)] {} none .recorder accesses
  exact ⟨by decide, safe.1, safe.2 past (by decide)⟩

end Controller

end NearField
