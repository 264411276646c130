import NearField.Proofs.Controller.Orderly

/-!
What becomes of the deliveries that commands leave behind. Main statement: each one is completed
once, when the host first says that it took the response, unless the registers are restored before.
-/

namespace NearField

inductive Settlement where
  | completed (delivery : Delivery)
  | dropped (delivery : Delivery)
deriving DecidableEq

def Settlement.delivery : Settlement → Delivery
  | completed delivery | dropped delivery => delivery

/-- The host does not say that it took the response, and no registers are restored. -/
def ControllerOperation.LeavesWaiting (operation : ControllerOperation) : Prop :=
  operation.signal? ≠ some .responseReceived ∧ ∀ snapshot, operation ≠ .load snapshot

namespace Controller

def asked (controller : Controller) (operation : ControllerOperation) : Option DeviceOperation :=
  operation.signal?.bind controller.request

def returned (controller : Controller) (operation : ControllerOperation) : Option Delivery :=
  match controller.asked operation with
  | some (.nci bytes) => (controller.device.processNci bytes).1.bind Device.NciAnswer.delivery
  | _ => none

/-- What an operation does to the delivery that waits. An NCI command that is carried out would
drop it. -/
def settlement (controller : Controller) (operation : ControllerOperation) : Option Settlement :=
  match controller.asked operation with
  | some (.deliver _ _) => controller.pending.map .completed
  | some (.nci _) => controller.pending.map .dropped
  | _ => if controller.restores operation then controller.pending.map .dropped else none

def collect {Event : Type} (event : Controller → ControllerOperation → Option Event)
    (controller : Controller) : List ControllerOperation → List Event
  | [] => []
  | operation :: operations =>
    (event controller operation).toList ++ (controller.operate operation).collect event operations

variable {controller : Controller} {delivery : Delivery}

theorem handle_pending (controller : Controller) (signal : HostSignal) :
    (controller.handle signal).pending =
      match controller.request signal with
      | some (.nci bytes) => (controller.device.processNci bytes).1.bind Device.NciAnswer.delivery
      | some (.deliver _ _) => none
      | _ => controller.pending := by
  cases signal with
  | interruptAcknowledged | notificationReceived | dataReceived | unknown => rfl
  | nciCommandSent =>
    cases free : controller.responseLoaded with
    | true =>
      rw [handle, nciCommand_loaded free, request, free]
      rfl
    | false =>
      rw [handle, nciCommand_free free, request, free]
      rfl
  | hciCommandSent =>
    cases free : controller.responseLoaded with
    | true =>
      rw [handle, hciCommand_loaded free, request, free]
      rfl
    | false =>
      rw [handle, hciCommand_free free, request, free]
      rfl
  | responseReceived =>
    obtain ⟨_, _, pending⟩ := controller.released_frame
    rw [handle, responseReceived_released, request]
    cases waits : controller.pending with
    | none =>
      rw [firePending_none (pending.trans waits), pending, waits]
      rfl
    | some delivery =>
      rw [firePending_signal (pending.trans waits)]
      rfl

theorem operate_pending_silent {operation : ControllerOperation} (silent : operation.signal? = none)
    (kept : controller.restores operation = false) :
    (controller.operate operation).pending = controller.pending := by
  cases operation with
  | write offset value =>
    obtain ⟨regs, wrote, _⟩ := controller.operate_mute silent
    rw [wrote]
  | publish target producer =>
    rw [operate]
    rcases controller.publish_cases target producer with ⟨_, same⟩ | ⟨_, _, same⟩
    · rw [same]
      rfl
    · rw [same]
      rfl
  | receive act => rfl
  | load snapshot =>
    rw [operate]
    rw [restores] at kept
    cases loaded : controller.load snapshot with
    | error e => rfl
    | ok restored =>
      rw [loaded] at kept
      cases kept

theorem operate_pending_restored {operation : ControllerOperation}
    (restored : controller.restores operation = true) :
    (controller.operate operation).pending = none := by
  cases operation with
  | write | publish | receive => cases restored
  | load snapshot =>
    rw [restores, load] at restored
    rw [operate, load]
    cases found : snapshot.registers with
    | error e =>
      rw [found] at restored
      cases restored
    | ok regs => rfl

theorem restores_silent {operation : ControllerOperation}
    (restored : controller.restores operation = true) : operation.signal? = none := by
  cases operation with
  | write | publish | receive => cases restored
  | load snapshot => rfl

/-- What waits and what comes of a step is what it settles and what waits afterwards. -/
theorem operate_conserves (controller : Controller) (operation : ControllerOperation) :
    controller.pending.toList ++ (controller.returned operation).toList =
      (controller.settlement operation).toList.map Settlement.delivery ++
        (controller.operate operation).pending.toList := by
  rw [returned, settlement, asked]
  cases said : operation.signal? with
  | none =>
    rw [Option.bind_none]
    dsimp only
    split
    · rename_i restored
      rw [operate_pending_restored restored]
      cases controller.pending <;> rfl
    · rename_i kept
      rw [operate_pending_silent said (Bool.eq_false_iff.mpr kept)]
      cases controller.pending <;> rfl
  | some signal =>
    have unrestored : controller.restores operation = false := by
      refine Bool.eq_false_iff.mpr fun restored => ?_
      cases said.symm.trans (restores_silent restored)
    rw [Option.bind_some, operate_signal said, unrestored]
    dsimp only
    rw [handle_pending]
    cases controller.request signal with
    | none => cases controller.pending <;> rfl
    | some asked =>
      cases asked with
      | nci bytes => cases controller.pending <;> rfl
      | hci bytes => cases controller.pending <;> rfl
      | deliver content room => cases controller.pending <;> rfl

theorem collect_conserves (controller : Controller) (operations : List ControllerOperation) :
    controller.pending.toList ++ controller.collect returned operations =
      (controller.collect settlement operations).map Settlement.delivery ++
        (controller.operateAll operations).pending.toList := by
  induction operations generalizing controller with
  | nil => simp [collect, operateAll]
  | cons operation operations ih =>
    simp only [collect, List.map_append]
    -- What waits after the first step is the last that it gives and the first that the rest takes.
    rw [← List.append_assoc, operate_conserves, List.append_assoc, ih, List.append_assoc]
    rfl

theorem Steady.loaded (steady : controller.Steady) (waits : controller.pending = some delivery) :
    controller.responseLoaded = true := by
  have ready := steady.pending (by rw [waits]; rfl)
  have either : controller.responseLoaded = (controller.regs.has StatusBit.nciResponse ||
      controller.regs.has StatusBit.hciResponse) := controller.regs.has_or ..
  rw [either, ready, Bool.true_or]

/-- While a response is ready, the device is asked for nothing but the delivery. -/
theorem request_loaded {signal : HostSignal} (loaded : controller.responseLoaded = true)
    (untaken : signal ≠ .responseReceived) : controller.request signal = none := by
  cases signal with
  | interruptAcknowledged | notificationReceived | dataReceived | unknown => rfl
  | nciCommandSent | hciCommandSent => rw [request, if_pos loaded]
  | responseReceived => exact absurd rfl untaken

theorem asked_loaded {operation : ControllerOperation} (loaded : controller.responseLoaded = true)
    (untaken : operation.signal? ≠ some .responseReceived) : controller.asked operation = none := by
  rw [asked]
  cases said : operation.signal? with
  | none => rfl
  | some signal => exact request_loaded loaded fun taken => untaken (by rw [said, taken])

theorem restores_load {operation : ControllerOperation}
    (unrestored : ∀ snapshot, operation ≠ .load snapshot) :
    controller.restores operation = false := by
  cases operation with
  | write | publish | receive => rfl
  | load snapshot => exact absurd rfl (unrestored snapshot)

theorem asked_nci {operation : ControllerOperation} {bytes : Octets}
    (commanded : controller.asked operation = some (.nci bytes)) :
    operation.signal? = some .nciCommandSent ∧ controller.responseLoaded = false := by
  obtain ⟨signal, said, request⟩ := Option.bind_eq_some_iff.mp commanded
  cases signal with
  | interruptAcknowledged | notificationReceived | dataReceived | unknown => cases request
  | nciCommandSent =>
    rw [Controller.request] at request
    split at request
    · cases request
    · rename_i free
      exact ⟨said, Bool.eq_false_iff.mpr free⟩
  | hciCommandSent =>
    rw [Controller.request] at request
    split at request <;> cases request
  | responseReceived =>
    obtain ⟨_, _, asks⟩ := Option.map_eq_some_iff.mp request
    cases asks

theorem Steady.dropped {operation : ControllerOperation} (steady : controller.Steady)
    (drops : controller.settlement operation = some (.dropped delivery)) :
    controller.restores operation = true := by
  rw [settlement] at drops
  split at drops
  · obtain ⟨_, _, completed⟩ := Option.map_eq_some_iff.mp drops
    cases completed
  · rename_i bytes commanded
    obtain ⟨other, waits, _⟩ := Option.map_eq_some_iff.mp drops
    have free := (asked_nci commanded).2
    exact absurd (steady.loaded waits) (free ▸ Bool.false_ne_true)
  · split at drops
    · assumption
    · cases drops

/-- What a controller does while a delivery waits: it refuses commands without any effect, completes
the delivery once the host says that it took the response, and drops it when registers are
restored. -/
structure Awaits (controller : Controller) (delivery : Delivery) : Prop where
  waits : controller.pending = some delivery
  refuses : ∀ operation : ControllerOperation, operation.signal? = some .nciCommandSent ∨
      operation.signal? = some .hciCommandSent →
    controller.operate operation = controller
  completes : ∀ operation : ControllerOperation, operation.signal? = some .responseReceived →
    controller.settlement operation = some (.completed delivery) ∧
      (controller.operate operation).device =
        (controller.device.deliver delivery.content deliveryRoom).2 ∧
      (controller.operate operation).regs.buffer delivery.buffer =
        (controller.produce delivery.buffer
          (deliveryProducer delivery.content)).2.regs.buffer delivery.buffer ∧
      (controller.operate operation).pending = none
  drops : ∀ operation, controller.restores operation = true →
    controller.settlement operation = some (.dropped delivery) ∧
      (controller.operate operation).pending = none

theorem Orderly.refuses (orderly : controller.Orderly)
    (waits : controller.pending = some delivery) {operation : ControllerOperation}
    (commanded : operation.signal? = some .nciCommandSent ∨
      operation.signal? = some .hciCommandSent) :
    controller.operate operation = controller := by
  have loaded := orderly.loaded waits
  have idle {signal : HostSignal} (said : operation.signal? = some signal)
      (refused : controller.handle signal = controller) :
      controller.operate operation = controller := by
    rw [operate_signal said, refused, ← orderly.ctrl]
  rcases commanded with nci | hci
  · exact idle nci (nciCommand_loaded loaded)
  · exact idle hci (hciCommand_loaded loaded)

theorem Orderly.awaits (orderly : controller.Orderly)
    (waits : controller.pending = some delivery) : controller.Awaits delivery where
  waits := waits
  refuses operation commanded := orderly.refuses waits commanded
  completes operation taken := by
    have asks : controller.request .responseReceived =
        some (.deliver delivery.content deliveryRoom) := by
      rw [request, waits]
      rfl
    have fills : controller.waiting delivery.buffer =
        some (deliveryProducer delivery.content) := by
      rw [waiting, waits, Option.bind_some, if_pos rfl]
    have filled : (controller.operate operation).regs.buffer delivery.buffer =
        (controller.handle .responseReceived).regs.buffer delivery.buffer := by
      rw [operate_signal taken]
      cases delivery.buffer <;> rfl
    refine ⟨?_, ?_, ?_, ?_⟩
    · rw [settlement, asked, taken, Option.bind_some, asks, waits]
      rfl
    · rw [operate_signal taken]
      dsimp only
      rw [handle_device, asks]
      rfl
    · exact filled.trans (handle_produces fills).1
    · rw [operate_signal taken]
      dsimp only
      rw [handle_pending, asks]
  drops operation restored := by
    refine ⟨?_, operate_pending_restored restored⟩
    rw [settlement, asked, restores_silent restored, Option.bind_none, restored, waits]
    rfl

/-- A step that leaves it waiting neither settles it nor brings another one. -/
theorem Steady.keeps_waiting (steady : controller.Steady)
    (waits : controller.pending = some delivery) {operation : ControllerOperation}
    (kept : operation.LeavesWaiting) :
    (controller.operate operation).pending = some delivery ∧
      controller.settlement operation = none := by
  obtain ⟨untaken, unrestored⟩ := kept
  have idle := asked_loaded (steady.loaded waits) untaken
  have unsettled : controller.settlement operation = none := by
    rw [settlement, idle, restores_load unrestored]
    rfl
  have nothing : controller.returned operation = none := by
    rw [returned, idle]
  -- Nothing comes and nothing goes, so what waits afterwards is what waited.
  have conserved := controller.operate_conserves operation
  rw [waits, nothing, unsettled] at conserved
  refine ⟨?_, unsettled⟩
  cases after : (controller.operate operation).pending with
  | none =>
    rw [after] at conserved
    cases conserved
  | some other =>
    rw [after] at conserved
    cases conserved
    rfl

theorem Reachable.keeps_waiting {operations : List ControllerOperation}
    (reachable : controller.Reachable) (waits : controller.pending = some delivery)
    (kept : ∀ operation ∈ operations, operation.LeavesWaiting) :
    (controller.operateAll operations).pending = some delivery ∧
      controller.collect settlement operations = [] := by
  induction operations generalizing controller with
  | nil => exact ⟨waits, rfl⟩
  | cons operation operations ih =>
    have now := kept operation List.mem_cons_self
    have later := fun next inside => kept next (List.mem_cons_of_mem _ inside)
    obtain ⟨still, unsettled⟩ := reachable.orderly.keeps_waiting waits now
    obtain ⟨last, nothing⟩ := ih (reachable.operate operation now.2) still later
    refine ⟨last, ?_⟩
    rw [collect, unsettled, nothing]
    rfl

theorem returned_pending {operation : ControllerOperation}
    (answered : controller.returned operation = some delivery) :
    (controller.operate operation).pending = some delivery := by
  rw [returned] at answered
  split at answered
  · rename_i bytes commanded
    obtain ⟨signal, said, request⟩ := Option.bind_eq_some_iff.mp commanded
    rw [operate_signal said]
    dsimp only
    rw [handle_pending, request]
    exact answered
  · cases answered

/-- In every reachable state, the registers are orderly, only a restoration drops a delivery, and
every delivery that an NCI command leaves behind is completed once, at the first time that the host
says that it took the response, unless registers are restored before. -/
theorem Reachable.delivers_once (reachable : controller.Reachable) :
    controller.Orderly ∧
      (∀ operation delivery, controller.settlement operation = some (.dropped delivery) →
        controller.restores operation = true) ∧
      (∀ operations, controller.pending.toList ++ controller.collect returned operations =
        (controller.collect settlement operations).map Settlement.delivery ++
          (controller.operateAll operations).pending.toList) ∧
      ∀ operation delivery, controller.returned operation = some delivery →
        ∀ later, (∀ next ∈ later, ControllerOperation.LeavesWaiting next) →
          (controller.operate operation).collect settlement later = [] ∧
            ((controller.operate operation).operateAll later).Awaits delivery := by
  refine ⟨reachable.orderly, ?_, controller.collect_conserves, ?_⟩
  · intro operation delivery drops
    exact reachable.orderly.dropped drops
  · intro operation delivery answered later kept
    have unrestored : ∀ snapshot, operation ≠ .load snapshot := by
      rintro snapshot rfl
      cases answered
    have commanded := reachable.operate operation unrestored
    obtain ⟨waits, unsettled⟩ := commanded.keeps_waiting (returned_pending answered) kept
    have last := commanded.operateAll fun next inside => (kept next inside).2
    exact ⟨unsettled, last.orderly.awaits waits⟩

theorem hostCommand_leavesWaiting (bytes : Octets) :
    ∀ operation ∈ hostCommand bytes, operation.LeavesWaiting := by
  intro operation inside
  rcases List.mem_append.mp inside with stores | signals
  · obtain ⟨i, _, rfl⟩ := List.mem_mapIdx.mp stores
    refine ⟨?_, by rintro _ ⟨⟩⟩
    have mute : (Register.decode (Register.cmndOffset + i)).toOption ≠ some .ctrl := by
      intro acts
      cases decoded : Register.decode (Register.cmndOffset + i) with
      | error e =>
        rw [decoded] at acts
        cases acts
      | ok register =>
        rw [decoded] at acts
        cases acts
        have place := Register.offset_of_decode decoded
        simp only [Register.offset, Register.cmndOffset] at place
        omega
    rw [ControllerOperation.signal?, if_neg mute]
    rintro ⟨⟩
  · cases List.mem_singleton.mp signals
    exact ⟨by decide, by rintro _ ⟨⟩⟩

/-- The notification that a peer is active waits while the host gives another command, and is
completed once the host took the response. -/
theorem delivers_once_activation :
    let peer := Endpoint.peer ⟨List.replicate 10 0x22, rfl⟩
    let prepared := (new (.ofEndpoints [peer])).operateAll
      (hostCommand [0x20, 0x00, 0x01, 0x01] ++ [hostTookResponse] ++
        hostCommand [0x20, 0x01, 0x00] ++ [hostTookResponse] ++
        (hostCommand [0x21, 0x03, 0x03, 0x01, 0x00, 0x01]).dropLast)
    let discover := ControllerOperation.write Register.ctrlOffset 0x01
    let activated : Delivery := ⟨.notification, .activated ⟨0, ⟨0, by decide⟩⟩ 1⟩
    let after := (prepared.operate discover).operateAll (hostCommand [0x21, 0x06, 0x01, 0x00])
    prepared.returned discover = some activated ∧
      after.settlement hostTookResponse = some (.completed activated) ∧
      (after.operate hostTookResponse).pending = none := by
  intro peer prepared discover activated after
  have reachable : prepared.Reachable := by
    refine (Reachable.new (.ofEndpoints [peer]) .unwired).operateAll ?_
    intro operation inside
    simp only [List.mem_append, List.mem_singleton, or_assoc] at inside
    rcases inside with reset | rfl | init | rfl | discovery
    · exact (hostCommand_leavesWaiting _ operation reset).2
    · nofun
    · exact (hostCommand_leavesWaiting _ operation init).2
    · nofun
    · exact (hostCommand_leavesWaiting _ operation (List.dropLast_subset _ discovery)).2
  have answered : prepared.returned discover = some activated := by decide +kernel
  obtain ⟨_, _, _, settles⟩ := reachable.delivers_once
  obtain ⟨_, awaits⟩ := settles discover activated answered _ (hostCommand_leavesWaiting _)
  obtain ⟨completed, _, _, last⟩ := awaits.completes hostTookResponse (by decide)
  exact ⟨answered, completed, last⟩

end Controller

end NearField
