import NearField.Nci.Command
import NearField.Proofs.Nci.Packet
import NearField.Proofs.Octets.Reader
import Mathlib.Tactic.SplitIfs

/-!
How much the packet of a command holds. Main statement: a command is the one its opcode names, and
has no more parameters than there is room for.
-/

namespace NearField.Nci

def Command.Modest : Command → Prop
  | .coreSetConfig params => params.length < 256
  | .coreGetConfig ids => ids.length < 256
  | _ => True

/-- A command as it is read from a payload: it is the one its opcode names, and parameters to be set
take two octets each at least. -/
structure Command.ReadFrom (opcode : Opcode) (payload : Octets) (command : Command) : Prop where
  named : command.opcode = opcode
  modest : command.Modest
  sized : ∀ params, command = .coreSetConfig params → 1 + 2 * params.length ≤ payload.length

theorem Command.readFrom_of_decode {opcode : Opcode} {payload : Octets} {command : Command}
    (read : decode opcode payload = .ok command) : command.ReadFrom opcode payload := by
  unfold decode at read
  split_ifs at read with reset init set get map discover deactivate
  · obtain ⟨resetType, _, read⟩ := bind_eq_ok read
    cases read
    exact ⟨reset.symm, trivial, fun _ other => by cases other⟩
  · cases read
    exact ⟨init.symm, trivial, fun _ other => by cases other⟩
  · obtain ⟨count, first, read⟩ := bind_eq_ok read
    obtain ⟨params, entries, read⟩ := bind_eq_ok read
    cases read
    have counted := Octets.taggedEntries_count entries
    have sized := Octets.taggedEntries_sized (Octets.byteAt_inside first) entries
    refine ⟨set.symm, ?_, ?_⟩
    · rw [Modest, counted]
      exact count.toNat_lt
    · rintro _ ⟨⟩
      rw [counted]
      exact sized
  · obtain ⟨entries, counted, read⟩ := bind_eq_ok read
    obtain ⟨ids, each, read⟩ := bind_eq_ok read
    cases read
    refine ⟨get.symm, ?_, fun _ other => by cases other⟩
    rw [Modest, mapM_count each]
    exact (Octets.countedEntries_shape counted).1
  · obtain ⟨entries, _, read⟩ := bind_eq_ok read
    obtain ⟨mappings, _, read⟩ := bind_eq_ok read
    cases read
    exact ⟨map.symm, trivial, fun _ other => by cases other⟩
  · obtain ⟨entries, _, read⟩ := bind_eq_ok read
    obtain ⟨configs, _, read⟩ := bind_eq_ok read
    cases read
    exact ⟨discover.symm, trivial, fun _ other => by cases other⟩
  · obtain ⟨deactivation, _, read⟩ := bind_eq_ok read
    cases read
    exact ⟨deactivate.symm, trivial, fun _ other => by cases other⟩
  · cases read
    exact ⟨rfl, trivial, fun _ other => by cases other⟩

end NearField.Nci
