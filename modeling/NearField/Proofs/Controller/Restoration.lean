import NearField.Proofs.Controller.Ownership

/-!
Snapshots and what they restore. Main statement: the window shows at each offset what the host reads
there, the window and the octets of a snapshot can be turned into each other without loss, and a
controller takes over the registers in a snapshot whole or not at all.
-/

namespace NearField

theorem Block.getElem?_between {size : Nat} (block : Block size) (front tail : Octets)
    (i : Fin size) {place : Nat} (here : place = front.length + i.val) :
    (front ++ (block.octets ++ tail))[place]? = some (block.get i) := by
  have inside : i.val < block.octets.length := by
    rw [block.length_octets]
    exact i.isLt
  rw [here, List.getElem?_append_right (Nat.le_add_right ..), Nat.add_sub_cancel_left,
    List.getElem?_append_left inside, block.getElem?_octets]

namespace RegisterFile

/-- The window shows every register where it is read. -/
theorem getElem?_window (regs : RegisterFile) (register : Register) :
    regs.window[register.offset]? = some (regs.get register) := by
  let heads : Octets := [regs.status, regs.ctrl, regs.pu, regs.ws]
  have length : heads.length = 4 := rfl
  cases register with
  | status | ctrl | pu | ws => rfl
  | cmnd i =>
    have parts : regs.window = heads ++ (regs.cmnd.octets ++ (regs.resp.octets ++
        (regs.ntfn.octets ++ (regs.data.octets ++ regs.reserved.octets)))) := by
      simp only [window, heads, List.append_assoc]
    rw [parts]
    exact regs.cmnd.getElem?_between _ _ i rfl
  | resp i =>
    have parts : regs.window = (heads ++ regs.cmnd.octets) ++ (regs.resp.octets ++
        (regs.ntfn.octets ++ (regs.data.octets ++ regs.reserved.octets))) := by
      simp only [window, heads, List.append_assoc]
    rw [parts]
    refine regs.resp.getElem?_between _ _ i ?_
    rw [List.length_append, Block.length_octets, length]
    rfl
  | ntfn i =>
    have parts : regs.window = (heads ++ regs.cmnd.octets ++ regs.resp.octets) ++
        (regs.ntfn.octets ++ (regs.data.octets ++ regs.reserved.octets)) := by
      simp only [window, heads, List.append_assoc]
    rw [parts]
    refine regs.ntfn.getElem?_between _ _ i ?_
    simp only [List.length_append, Block.length_octets, length]
    rfl
  | data i =>
    have parts : regs.window = (heads ++ regs.cmnd.octets ++ regs.resp.octets ++
        regs.ntfn.octets) ++ (regs.data.octets ++ regs.reserved.octets) := by
      simp only [window, heads, List.append_assoc]
    rw [parts]
    refine regs.data.getElem?_between _ _ i ?_
    simp only [List.length_append, Block.length_octets, length]
    rfl
  | reserved i =>
    have parts : regs.window = (heads ++ regs.cmnd.octets ++ regs.resp.octets ++
        regs.ntfn.octets ++ regs.data.octets) ++ (regs.reserved.octets ++ []) := by
      simp only [window, heads, List.append_assoc, List.append_nil]
    rw [parts]
    refine regs.reserved.getElem?_between _ _ i ?_
    simp only [List.length_append, Block.length_octets, length]
    rfl

theorem ofWindow_whole {octets : Octets} (whole : octets.length = windowSize) :
    ∃ regs, ofWindow octets = .ok regs ∧ regs.window = octets := by
  rcases octets with _ | ⟨status, _ | ⟨ctrl, _ | ⟨pu, _ | ⟨ws, rest⟩⟩⟩⟩
  iterate 4 cases whole
  have length : rest.length = packetBufferSize + (packetBufferSize + (packetBufferSize +
      (packetBufferSize + reservedSize))) := by
    simp only [List.length_cons, windowSize] at whole
    simp only [packetBufferSize, reservedSize]
    omega
  refine ⟨_, by rw [ofWindow, dif_pos length], ?_⟩
  simp only [window, split, List.append_assoc, List.take_append_drop, List.cons_append,
    List.nil_append]

theorem length_of_ofWindow {octets : Octets} {regs : RegisterFile}
    (read : ofWindow octets = .ok regs) : octets.length = windowSize := by
  rcases octets with _ | ⟨status, _ | ⟨ctrl, _ | ⟨pu, _ | ⟨ws, rest⟩⟩⟩⟩
  iterate 4 cases read
  by_contra other
  have length : rest.length ≠ packetBufferSize + (packetBufferSize + (packetBufferSize +
      (packetBufferSize + reservedSize))) := by
    simp only [List.length_cons, windowSize] at other
    simp only [packetBufferSize, reservedSize]
    omega
  rw [ofWindow, dif_neg length] at read
  cases read

end RegisterFile

namespace Snapshot

theorem ofOctets_toOctets (snapshot : Snapshot) : ofOctets snapshot.toOctets = .ok snapshot := by
  have version := Octets.word32_ofWord32 snapshot.version
  exact congrArg (fun version => Except.ok (mk version snapshot.window)) version

theorem toOctets_ofOctets {bytes : Octets} (versioned : 4 ≤ bytes.length) :
    ∃ snapshot, ofOctets bytes = .ok snapshot ∧ snapshot.toOctets = bytes := by
  rcases bytes with _ | ⟨b0, _ | ⟨b1, _ | ⟨b2, _ | ⟨b3, window⟩⟩⟩⟩
  iterate 4
    simp only [List.length_cons, List.length_nil] at versioned
    omega
  refine ⟨_, rfl, ?_⟩
  rw [toOctets, Octets.ofWord32_word32]
  rfl

theorem registers_error_iff (snapshot : Snapshot) :
    (∃ e, snapshot.registers = .error e) ↔
      snapshot.version ≠ currentVersion ∨ snapshot.window.length ≠ windowSize := by
  by_cases other : snapshot.version ≠ currentVersion
  · rw [registers, if_pos other]
    exact ⟨fun _ => .inl other, fun _ => ⟨_, rfl⟩⟩
  rw [registers, if_neg other]
  constructor
  · rintro ⟨e, failed⟩
    refine .inr fun whole => ?_
    obtain ⟨regs, read, _⟩ := RegisterFile.ofWindow_whole whole
    rw [read] at failed
    cases failed
  · intro unfit
    cases read : RegisterFile.ofWindow snapshot.window with
    | error e => exact ⟨e, rfl⟩
    | ok regs => exact absurd (RegisterFile.length_of_ofWindow read) (unfit.resolve_left other)

end Snapshot

namespace Controller

theorem load_error_iff (controller : Controller) (snapshot : Snapshot) :
    (∃ e, controller.load snapshot = .error e) ↔ ∃ e, snapshot.registers = .error e := by
  rw [load]
  cases snapshot.registers <;> simp [Except.map]

theorem operate_unloadable {controller : Controller} {snapshot : Snapshot}
    (refused : ∃ e, controller.load snapshot = .error e) :
    controller.operate (.load snapshot) = controller := by
  obtain ⟨e, refused⟩ := refused
  rw [operate, refused]
  rfl

theorem read_window (controller : Controller) {offset : Nat} (inside : offset < windowSize) :
    ∃ octet, controller.read offset = .ok octet ∧
      controller.regs.window[offset]? = some octet := by
  obtain ⟨register, decoded⟩ := Register.decode_inside inside
  refine ⟨controller.regs.get register, ?_, ?_⟩
  · rw [read, decoded]
    rfl
  · rw [← controller.regs.getElem?_window register, Register.offset_of_decode decoded]

/-- Every offset reads as the window shows it, and registers, windows and the octets of a snapshot
are turned into each other without loss. So what one controller saved gives another one its
registers, drops the delivery that waits there and leaves the device alone; a snapshot of another
version or size is refused and leaves the whole controller as it is. -/
theorem restore_faithful :
    (∀ (controller : Controller) (offset : Nat), offset < windowSize →
      ∃ octet, controller.read offset = .ok octet ∧
        controller.regs.window[offset]? = some octet) ∧
    (∀ regs : RegisterFile, regs.window.length = 4096 ∧
      RegisterFile.ofWindow regs.window = .ok regs) ∧
    (∀ window : Octets, window.length = 4096 →
      ∃ regs, RegisterFile.ofWindow window = .ok regs ∧ regs.window = window) ∧
    (∀ snapshot : Snapshot, Snapshot.ofOctets snapshot.toOctets = .ok snapshot) ∧
    (∀ bytes : Octets, 4 ≤ bytes.length →
      ∃ snapshot, Snapshot.ofOctets bytes = .ok snapshot ∧ snapshot.toOctets = bytes) ∧
    (∀ source controller : Controller, ∃ snapshot restored,
      Snapshot.ofOctets source.save.toOctets = .ok snapshot ∧
        controller.load snapshot = .ok restored ∧
        (∀ offset, restored.read offset = source.read offset) ∧
        restored.pending = none ∧ restored.device = controller.device) ∧
    ∀ (controller : Controller) (snapshot : Snapshot),
      snapshot.version ≠ 2 ∨ snapshot.window.length ≠ 4096 →
        (∃ e, controller.load snapshot = .error e) ∧
          controller.operate (.load snapshot) = controller := by
  refine ⟨fun controller offset => controller.read_window,
    fun regs => ⟨regs.length_window, regs.ofWindow_window⟩,
    fun window => RegisterFile.ofWindow_whole, Snapshot.ofOctets_toOctets,
    fun bytes => Snapshot.toOctets_ofOctets, fun source controller => ?_,
    fun controller snapshot unfit => ?_⟩
  · exact ⟨source.save, _, Snapshot.ofOctets_toOctets _, controller.load_save source,
      fun _ => rfl, rfl, rfl⟩
  · have refused : ∃ e, controller.load snapshot = .error e :=
      (controller.load_error_iff snapshot).mpr (snapshot.registers_error_iff.mpr unfit)
    exact ⟨refused, operate_unloadable refused⟩

/-- A snapshot in a former format and one whose last octet is missing are refused; a whole window
and the least octets that hold a version are read. -/
theorem restore_faithful_sizes :
    let former : Snapshot := ⟨1, RegisterFile.window {}⟩
    let cut : Snapshot := ⟨2, Octets.zeros 4095⟩
    (new {}).operate (.load former) = new {} ∧ (new {}).operate (.load cut) = new {} ∧
      (∃ octet, (new {}).read 0xfff = .ok octet ∧ (RegisterFile.window {})[0xfff]? = some octet) ∧
      (∃ regs, RegisterFile.ofWindow (Octets.zeros 4096) = .ok regs ∧
        regs.window = Octets.zeros 4096) ∧
      ∃ snapshot, Snapshot.ofOctets [0x02, 0x00, 0x00, 0x00] = .ok snapshot ∧
        snapshot.toOctets = [0x02, 0x00, 0x00, 0x00] := by
  intro former cut
  have short : cut.window.length ≠ 4096 := by
    rw [Octets.length_zeros]
    decide
  obtain ⟨reads, _, windows, _, octets, _, refuses⟩ := restore_faithful
  exact ⟨(refuses (new {}) former (.inl (by decide))).2, (refuses (new {}) cut (.inr short)).2,
    reads (new {}) 0xfff (by decide), windows _ (Octets.length_zeros 4096), octets _ (by decide)⟩

end Controller

end NearField
