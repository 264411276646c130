import NearField.Llcp.ReceiveBuffer
import Mathlib.Tactic.Common

/-!
The receive buffer as a string of octets that wait, followed by zeros. Main statements: writing
appends what fits, consuming takes the front away, both keep everything behind zero, and reading
copies the front.
-/

namespace NearField.Llcp.ReceiveBuffer

/-- A buffer that is zero past the octets that wait. -/
structure Sound (buffer : ReceiveBuffer) : Prop where
  used_le : buffer.used ≤ receiveRoom
  blank : buffer.memory.octets.drop buffer.used = Octets.zeros (receiveRoom - buffer.used)

theorem empty_sound : empty.Sound := ⟨by decide, rfl⟩

theorem length_contents {buffer : ReceiveBuffer} (sound : buffer.Sound) :
    buffer.contents.length = buffer.used := by
  have size := buffer.memory.length_octets
  simp [contents, size, sound.used_le]

theorem sound_of_octets {buffer : ReceiveBuffer} {bytes : Octets} (rest : Nat)
    (used : bytes.length = buffer.used)
    (memory : buffer.memory.octets = bytes ++ Octets.zeros rest) :
    buffer.Sound ∧ buffer.contents = bytes := by
  have size := buffer.memory.length_octets
  have total : bytes.length + rest = receiveRoom := by
    rw [← size, memory, List.length_append, Octets.length_zeros]
  refine ⟨⟨by omega, ?_⟩, ?_⟩
  · rw [memory, ← used, List.drop_left]
    congr 1
    omega
  · rw [contents, memory, ← used, List.take_left]

theorem write_sound {buffer : ReceiveBuffer} (sound : buffer.Sound) (bytes : Octets) :
    (buffer.write bytes).2.Sound ∧
      (buffer.write bytes).2.contents =
        buffer.contents ++ bytes.take (receiveRoom - buffer.used) := by
  have size := buffer.memory.length_octets
  have bound := sound.used_le
  let stored := bytes.take (min bytes.length (receiveRoom - buffer.used))
  have same : bytes.take (receiveRoom - buffer.used) = stored := by
    rcases Nat.le_total bytes.length (receiveRoom - buffer.used) with fits | beyond
    · simp [stored, Nat.min_eq_left fits, List.take_of_length_le fits]
    · simp [stored, Nat.min_eq_right beyond]
  have count : stored.length = min bytes.length (receiveRoom - buffer.used) := by
    simp [stored]
  have tail : buffer.memory.octets.drop (buffer.used + stored.length) =
      Octets.zeros (receiveRoom - buffer.used - stored.length) := by
    rw [← List.drop_drop, sound.blank]
    exact List.drop_replicate
  rw [same]
  apply sound_of_octets (receiveRoom - buffer.used - stored.length)
  · rw [List.length_append, length_contents sound, count]
    rfl
  · change buffer.memory.octets.take buffer.used ++ stored.take _ ++
      buffer.memory.octets.drop (buffer.used + stored.length) = _
    have whole : stored.take (buffer.memory.octets.length - buffer.used) = stored :=
      List.take_of_length_le (by omega)
    rw [tail, whole]
    rfl

theorem consume_sound {buffer : ReceiveBuffer} (sound : buffer.Sound) (count : Nat) :
    (buffer.consume count).2.Sound ∧
      (buffer.consume count).2.contents = buffer.contents.drop count := by
  have size := buffer.memory.length_octets
  have bound := sound.used_le
  have waiting := length_contents sound
  have rest : buffer.memory.extract (min count buffer.used) (buffer.used - min count buffer.used) =
      buffer.contents.drop count := by
    rw [Block.extract, contents, List.drop_take, List.take_drop, List.take_drop]
    rcases Nat.le_total count buffer.used with fits | beyond
    · simp [Nat.min_eq_left fits]
    · simp [beyond]
  have size_rest : (buffer.contents.drop count).length = buffer.used - min count buffer.used := by
    rw [List.length_drop, waiting]
    omega
  apply sound_of_octets (receiveRoom - (buffer.contents.drop count).length)
  · exact size_rest
  · simp only [consume, Block.overlay, Block.zero]
    have short : (buffer.contents.drop count).length ≤ (Octets.zeros receiveRoom).length := by
      rw [Octets.length_zeros]
      omega
    rw [rest, Octets.overlay_zero short, Octets.zeros, List.drop_replicate, Octets.zeros]

theorem contents_write {buffer : ReceiveBuffer} (sound : buffer.Sound) (bytes : Octets) :
    (buffer.write bytes).2.contents = buffer.contents ++ bytes.take (buffer.write bytes).1 := by
  have counted : bytes.take (receiveRoom - buffer.used) = bytes.take (buffer.write bytes).1 := by
    rw [List.take_eq_take_min, Nat.min_comm]
    rfl
  rw [(write_sound sound bytes).2, counted]

theorem contents_consume {buffer : ReceiveBuffer} (sound : buffer.Sound) (length : Nat) :
    (buffer.consume length).2.contents = buffer.contents.drop (buffer.consume length).1 := by
  have waiting := length_contents sound
  have counted : (buffer.consume length).1 = min length buffer.used := rfl
  rw [(consume_sound sound length).2, counted]
  rcases Nat.le_total length buffer.used with fits | beyond
  · rw [Nat.min_eq_left fits]
  · rw [Nat.min_eq_right beyond, List.drop_of_length_le (by omega),
      List.drop_of_length_le (by omega)]

theorem read_eq {buffer : ReceiveBuffer} (sound : buffer.Sound) (out : Octets) :
    buffer.read out = (min out.length buffer.used,
      buffer.contents.take (min out.length buffer.used) ++
        out.drop (min out.length buffer.used)) := by
  have size := buffer.memory.length_octets
  have bound := sound.used_le
  have front : buffer.contents.take (min out.length buffer.used) =
      buffer.memory.octets.take (min out.length buffer.used) := by
    rw [contents, List.take_take, Nat.min_eq_left (Nat.min_le_right _ _)]
  have copied : (buffer.memory.octets.take (min out.length buffer.used)).length =
      min out.length buffer.used := by
    rw [List.length_take]
    omega
  have fits : (buffer.memory.octets.take (min out.length buffer.used)).length ≤ out.length := by
    rw [copied]
    exact Nat.min_le_left _ _
  rw [read, Octets.overlay_zero fits, copied, front]

end NearField.Llcp.ReceiveBuffer
