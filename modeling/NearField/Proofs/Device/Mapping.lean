import NearField.Proofs.Device.Answer
import NearField.Proofs.Device.Coherence
import NearField.Proofs.Device.Command
import NearField.Proofs.Octets

/-!
How the host maps interfaces to protocols. Main statement: a list of mappings is applied as a whole
or, if it asks for an interface that the device does not have, not at all; a slot is then served by
the interface of the last mapping that concerns it, and is found as before.
-/

namespace NearField

namespace Rf

/-- A mapping concerns a slot: it is for the slot's protocol, and its mode has the bit for the
slot's side, the second one for listening and the first one for polling. -/
def Slot.ConcernedBy (slot : Slot) (mapping : Nci.DiscoverMapping) : Prop :=
  mapping.protocol = slot.protocol ∧
    if slot.techMode.isListen then mapping.mode.toBitVec[1] = true
    else mapping.mode.toBitVec[0] = true

inductive Slot.Mapped (mappings : List Nci.DiscoverMapping) (slot : Slot) : Slot → Prop
  | last (earlier later : List Nci.DiscoverMapping) {mapping : Nci.DiscoverMapping}
      (listed : mappings = earlier ++ mapping :: later) (concerned : slot.ConcernedBy mapping)
      (overruled : ∀ other ∈ later, ¬slot.ConcernedBy other) :
      Mapped mappings slot { slot with interface := mapping.interface }
  | kept (unconcerned : ∀ mapping ∈ mappings, ¬slot.ConcernedBy mapping) :
      Mapped mappings slot slot

theorem Slot.coveredBy_iff (slot : Slot) (mapping : Nci.DiscoverMapping) :
    slot.coveredBy mapping = true ↔ slot.ConcernedBy mapping := by
  have listening : (mapping.mode &&& 0x02 != 0) = mapping.mode.toBitVec[1] := by
    rw [and_flag mapping.mode 1 (by decide) (by decide)]
    cases mapping.mode.toBitVec[1] <;> rfl
  have polling : (mapping.mode &&& 0x01 != 0) = mapping.mode.toBitVec[0] := by
    rw [and_flag mapping.mode 0 (by decide) (by decide)]
    cases mapping.mode.toBitVec[0] <;> rfl
  rw [coveredBy, ConcernedBy, listening, polling, Bool.and_eq_true, beq_iff_eq, eq_comm]
  cases slot.techMode.isListen <;> rfl

namespace Table

variable {table : Table}

theorem foldl_remap_mapped (table : Table) (mappings : List Nci.DiscoverMapping)
    (index : Fin slotCount) :
    (table.get index).Mapped mappings ((mappings.foldl remap table).get index) := by
  induction mappings generalizing table with
  | nil => exact .kept nofun
  | cons mapping mappings ih =>
    have mapped := ih (table.remap mapping)
    rw [List.foldl_cons]
    generalize (mappings.foldl remap (table.remap mapping)).get index = after at mapped ⊢
    rw [get_remap] at mapped
    -- a later mapping that concerns the slot overrules this one in either case
    by_cases covered : (table.get index).coveredBy mapping = true
    · rw [if_pos covered] at mapped
      have concerned := (Slot.coveredBy_iff _ _).mp covered
      cases mapped with
      | last earlier later listed decides overruled =>
        exact .last (mapping :: earlier) later (congrArg _ listed) decides overruled
      | kept unconcerned => exact .last [] mappings rfl concerned unconcerned
    · rw [if_neg covered] at mapped
      have unconcerned := mt (Slot.coveredBy_iff _ _).mpr covered
      cases mapped with
      | last earlier later listed decides overruled =>
        exact .last (mapping :: earlier) later (congrArg _ listed) decides overruled
      | kept others => exact .kept (List.forall_mem_cons.mpr ⟨unconcerned, others⟩)

theorem find_congr {other : Table}
    (same : ∀ index, (other.get index).protocol = (table.get index).protocol ∧
      (other.get index).techMode = (table.get index).techMode)
    (protocol : Protocol) (techMode : TechMode) :
    other.find protocol techMode = table.find protocol techMode := by
  unfold find
  congr 1
  funext index
  rw [(same index).1, (same index).2]

end Table

end Rf

namespace Device

open Nci (Status)

/-- What a list of mappings makes of the table: each slot is mapped, and protocols are found where
they were. -/
structure Remaps (mappings : List Nci.DiscoverMapping) (before after : Rf.Table) : Prop where
  mapped : ∀ index, (before.get index).Mapped mappings (after.get index)
  found : ∀ protocol techMode, after.find protocol techMode = before.find protocol techMode

theorem foldl_remap_remaps (table : Rf.Table) (mappings : List Nci.DiscoverMapping) :
    Remaps mappings table (mappings.foldl Rf.Table.remap table) where
  mapped := table.foldl_remap_mapped mappings
  found := Rf.Table.find_congr (table.get_foldl_remap mappings)

/-- An initialised device applies a list of mappings in order, the last one that concerns a slot
deciding, and says so; but if one of them asks for an interface that the device does not have, it
rejects the list and nothing changes. -/
theorem map_all_or_none (device : Device) {bytes : Octets} {mappings : List Nci.DiscoverMapping}
    (ready : device.state = .initialized)
    (asked : commandIn? bytes = some (.rfDiscoverMap mappings)) :
    ∃ answer after, device.processNci bytes = (some answer, after) ∧ answer.delivery = none ∧
      (Offers mappings →
        answer.Carries (.response .rfDiscoverMap [Status.ok.code]) ∧
          after = { device with rf := after.rf } ∧ Remaps mappings device.rf after.rf) ∧
      ((∃ mapping ∈ mappings, mapping.interface ≠ .frame ∧ mapping.interface ≠ .nfcDep) →
        answer.Carries (.response .rfDiscoverMap [Status.rejected.code]) ∧ after = device) := by
  have carried : device.processNci bytes = device.rfDiscoverMap mappings :=
    (processNci_command asked).trans (if_neg (not_not.mpr ready))
  have few : ([] : Octets).length < Nci.maxPayload := by decide
  rw [carried, rfDiscoverMap]
  by_cases offered : Offers mappings
  · rw [if_pos ((offers_iff mappings).mpr offered)]
    obtain ⟨answer, replied, carries, silent⟩ := sends_response .rfDiscoverMap .ok few none
    refine ⟨answer, { device with rf := mappings.foldl Rf.Table.remap device.rf }, ?_, silent, ?_,
      ?_⟩
    · exact Prod.ext replied rfl
    · exact fun _ => ⟨carries, rfl, foldl_remap_remaps device.rf mappings⟩
    · rintro ⟨mapping, listed, foreign, other⟩
      rcases offered mapping listed with frame | peer
      · exact absurd frame foreign
      · exact absurd peer other
  · rw [if_neg (mt (offers_iff mappings).mp offered)]
    obtain ⟨answer, replied, carries, silent⟩ := sends_response .rfDiscoverMap .rejected few none
    refine ⟨answer, device, Prod.ext replied rfl, silent, fun all => absurd all offered, ?_⟩
    exact fun _ => ⟨carries, rfl⟩

/-- Of two mappings for peers the first is for both sides and the second for polling alone. -/
theorem map_all_or_none_overruled :
    let device := (ofEndpoints []).operateAll
      [.nci [0x20, 0x00, 0x01, 0x01], .nci [0x20, 0x01, 0x00]]
    let bytes : Octets := [0x21, 0x00, 0x07, 0x02, 0x05, 0x03, 0x01, 0x05, 0x01, 0x03]
    let mappings : List Nci.DiscoverMapping := [⟨.nfcDep, 0x03, .frame⟩, ⟨.nfcDep, 0x01, .nfcDep⟩]
    let polling : Fin Rf.slotCount := ⟨0, by decide⟩
    let listening : Fin Rf.slotCount := ⟨2, by decide⟩
    device.state = .initialized ∧ commandIn? bytes = some (.rfDiscoverMap mappings) ∧
      ∃ answer after, device.processNci bytes = (some answer, after) ∧
        answer.Carries (.response .rfDiscoverMap [Status.ok.code]) ∧
          Remaps mappings device.rf after.rf ∧
            (after.rf.get polling).interface = .nfcDep ∧
              (after.rf.get listening).interface = .frame := by
  intro device bytes mappings polling listening
  have ready : device.state = .initialized := by decide +kernel
  have asked : commandIn? bytes = some (.rfDiscoverMap mappings) := by decide +kernel
  have offered : Offers mappings := by
    unfold Offers
    decide
  obtain ⟨answer, after, carried, _, mapped, _⟩ := device.map_all_or_none ready asked
  obtain ⟨carries, _, remaps⟩ := mapped offered
  have polled : ((device.processNci bytes).2.rf.get polling).interface = .nfcDep := by
    decide +kernel
  have listened : ((device.processNci bytes).2.rf.get listening).interface = .frame := by
    decide +kernel
  rw [carried] at polled listened
  exact ⟨ready, asked, answer, after, carried, carries, remaps, polled, listened⟩

end Device

end NearField
