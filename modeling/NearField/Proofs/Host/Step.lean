import NearField.Host
import NearField.Proofs.Octets

/-!
What the host's steps do to a controller. Main statements: writing octets one at a time lays them
over the command buffer, reading gives what stands in the response buffer, and neither fails inside
its buffer.
-/

namespace NearField

namespace Host

variable {α β : Type}

theorem on_bind (step : Step α) (next : α → Step β) (controller : Controller) :
    (step >>= next).on controller =
      match step.on controller with
      | (.ok value, after) => (next value).on after
      | (.error e, after) => (.error e, after) := by
  simp only [Step.on, ExceptT.run_bind, StateT.run_bind]
  rcases StateT.run (ExceptT.run step) controller with ⟨_ | _, _⟩ <;> rfl

theorem on_bind_ok {step : Step α} {next : α → Step β} {controller after : Controller} {value : α}
    (worked : step.on controller = (.ok value, after)) :
    (step >>= next).on controller = (next value).on after := by
  rw [on_bind, worked]

@[simp] theorem on_get (controller : Controller) :
    (get : Step Controller).on controller = (.ok controller, controller) := rfl

theorem on_lift {result : Except Error α} {value : α} (worked : result = .ok value)
    (controller : Controller) :
    (liftM result : Step α).on controller = (.ok value, controller) := by
  rw [worked]
  rfl

theorem write_on {offset : Nat} {register : Register}
    (place : Register.decode offset = .ok register) (controller : Controller) (value : UInt8) :
    (write offset value).on controller = (.ok (), controller.writeRegister register value) := by
  have wrote : controller.write offset value = .ok (controller.writeRegister register value) := by
    rw [Controller.write, place]
    rfl
  unfold write
  rw [on_bind_ok (on_get controller), on_bind_ok (on_lift wrote controller)]
  rfl

theorem read_on {offset : Nat} {register : Register}
    (place : Register.decode offset = .ok register) (controller : Controller) :
    (read offset).on controller = (.ok (controller.regs.get register), controller) := by
  unfold read
  rw [on_bind_ok (on_get controller)]
  exact on_lift (by rw [Controller.read, place]; rfl) controller

theorem tell_on (controller : Controller) (code : UInt8) :
    (tell code).on controller = (.ok (), controller.writeRegister .ctrl code) :=
  write_on rfl controller code

theorem decode_cmnd (i : Fin packetBufferSize) :
    Register.decode (Register.cmndOffset + i) = .ok (.cmnd i) := by
  have bound : i.val < 384 := i.isLt
  change Register.decode (0x004 + i.val) = _
  unfold Register.decode
  rw [if_neg (by omega), if_neg (by omega), if_neg (by omega), if_neg (by omega),
    dif_pos (by omega)]
  simp

theorem decode_resp (i : Fin packetBufferSize) :
    Register.decode (Register.respOffset + i) = .ok (.resp i) := by
  have bound : i.val < 384 := i.isLt
  change Register.decode (0x184 + i.val) = _
  unfold Register.decode
  rw [if_neg (by omega), if_neg (by omega), if_neg (by omega), if_neg (by omega),
    dif_neg (by omega), dif_pos (by omega)]
  simp

def setCommand (controller : Controller) (cmnd : Block packetBufferSize) : Controller :=
  { controller with regs := { controller.regs with cmnd } }

theorem writeOctets_on (bytes : Octets) (pos : Nat) (controller : Controller)
    (fits : pos + bytes.length ≤ packetBufferSize) :
    (writeOctets (Register.cmndOffset + pos) bytes).on controller =
      (.ok (), setCommand controller (controller.regs.cmnd.overlay pos bytes)) := by
  induction bytes generalizing pos controller with
  | nil =>
    have same : controller.regs.cmnd.overlay pos [] = controller.regs.cmnd :=
      Block.ext (Octets.overlay_nil _ pos)
    rw [same]
    rfl
  | cons octet rest ih =>
    rw [List.length_cons] at fits
    have inside : pos < packetBufferSize := by omega
    have wrote := write_on (decode_cmnd ⟨pos, inside⟩) controller octet
    have laid : (controller.regs.cmnd.set ⟨pos, inside⟩ octet).overlay (pos + 1) rest =
        controller.regs.cmnd.overlay pos (octet :: rest) := by
      refine Block.ext (Octets.overlay_cons octet rest ?_)
      rw [controller.regs.cmnd.length_octets]
      exact inside
    rw [writeOctets, on_bind_ok wrote, Nat.add_assoc, ih (pos + 1) _ (by omega), ← laid]
    rfl

theorem readOctets_on (count pos : Nat) (controller : Controller)
    (fits : pos + count ≤ packetBufferSize) :
    (readOctets (Register.respOffset + pos) count).on controller =
      (.ok (controller.regs.resp.extract pos count), controller) := by
  induction count generalizing pos with
  | zero =>
    rw [Block.extract, List.take_zero]
    rfl
  | succ count ih =>
    have inside : pos < packetBufferSize := by omega
    have first := read_on (decode_resp ⟨pos, inside⟩) controller
    have split : controller.regs.resp.extract pos (count + 1) =
        controller.regs.resp.get ⟨pos, inside⟩ :: controller.regs.resp.extract (pos + 1) count := by
      have length : pos < controller.regs.resp.octets.length := by
        rw [controller.regs.resp.length_octets]
        exact inside
      rw [Block.extract, List.drop_eq_getElem_cons length, List.take_succ_cons]
      rfl
    rw [readOctets, on_bind_ok first, Nat.add_assoc, on_bind_ok (ih (pos + 1) (by omega)), split]
    rfl

end Host

end NearField
