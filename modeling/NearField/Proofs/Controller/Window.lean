import NearField.Controller.Basic

/-!
Places in the register window. Main statements: every offset inside leads to a place of its own, the
registers in a window are those that it was made from, and a snapshot restores what it was taken of.
-/

namespace NearField

namespace Register

def offset : Register → Nat
  | status => 0x000
  | ctrl => 0x001
  | pu => 0x002
  | ws => 0x003
  | cmnd i => 0x004 + i
  | resp i => 0x184 + i
  | ntfn i => 0x304 + i
  | data i => 0x484 + i
  | reserved i => 0x604 + i

theorem offset_of_decode {offset : Nat} {register : Register}
    (decoded : decode offset = .ok register) : register.offset = offset := by
  unfold decode at decoded
  repeat' split at decoded
  all_goals cases decoded
  all_goals simp only [Register.offset]; omega

theorem decode_inside {offset : Nat} (inside : offset < windowSize) :
    ∃ register, decode offset = .ok register := by
  cases decoded : decode offset with
  | ok register => exact ⟨register, rfl⟩
  | error e =>
    unfold decode at decoded
    repeat' split at decoded
    all_goals cases decoded

end Register

namespace RegisterFile

theorem split_append {size rest : Nat} (block : Block size) {tail : Octets}
    (length : (block.octets ++ tail).length = size + rest) (short : tail.length = rest) :
    split size (block.octets ++ tail) length = (block, ⟨tail, short⟩) := by
  have front : (block.octets ++ tail).take size = block.octets := by
    rw [List.take_left' block.length_octets]
  have back : (block.octets ++ tail).drop size = tail := by
    rw [List.drop_left' block.length_octets]
  refine Prod.ext (Block.ext front) (Subtype.ext back)

theorem ofWindow_window (regs : RegisterFile) : ofWindow regs.window = .ok regs := by
  have length : (regs.cmnd.octets ++ (regs.resp.octets ++ (regs.ntfn.octets ++
      (regs.data.octets ++ regs.reserved.octets)))).length = packetBufferSize +
        (packetBufferSize + (packetBufferSize + (packetBufferSize + reservedSize))) := by
    simp only [List.length_append, Block.length_octets]
  simp only [window, List.append_assoc, List.cons_append, List.nil_append, ofWindow, dif_pos length]
  rw [split_append regs.cmnd _ (by simp only [List.length_append, Block.length_octets])]
  dsimp only
  rw [split_append regs.resp _ (by simp only [List.length_append, Block.length_octets])]
  dsimp only
  rw [split_append regs.ntfn _ (by simp only [List.length_append, Block.length_octets])]
  dsimp only
  rw [split_append regs.data _ regs.reserved.length_octets]

end RegisterFile

theorem Snapshot.registers_capture (regs : RegisterFile) : (capture regs).registers = .ok regs := by
  rw [registers, capture, if_neg (by simp)]
  exact regs.ofWindow_window

theorem Controller.load_save (controller source : Controller) :
    controller.load source.save =
      let restored := { controller with regs := source.regs, pending := none }
      .ok (restored.driveIrq source.irqPending) := by
  rw [load, save, Snapshot.registers_capture]
  rfl

end NearField
