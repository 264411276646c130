import NearField.Nci.Command

/-!
The table of radio interfaces: eight slots, each for a protocol in a technology and mode, and the
interface that serves it. Protocols and technologies are fixed; the host may remap interfaces.
-/

namespace NearField.Rf

def slotCount : Nat := 8

structure Slot where
  protocol : Protocol
  techMode : TechMode
  interface : Interface
deriving DecidableEq, Repr

structure Table where
  slots : List Slot
  length_slots : slots.length = slotCount
deriving DecidableEq, Repr

/-- Whether a mapping covers a slot: the same protocol, and the bit for the slot's side is set,
0x02 for listening and 0x01 for polling. -/
def Slot.coveredBy (slot : Slot) (mapping : Nci.DiscoverMapping) : Bool :=
  slot.protocol == mapping.protocol &&
    (if slot.techMode.isListen then mapping.mode &&& 0x02 != 0 else mapping.mode &&& 0x01 != 0)

namespace Table

def default : Table where
  slots :=
    [⟨.nfcDep, .passivePollA, .nfcDep⟩, ⟨.nfcDep, .passivePollF, .nfcDep⟩,
      ⟨.nfcDep, .passiveListenA, .nfcDep⟩, ⟨.nfcDep, .passiveListenF, .nfcDep⟩,
      ⟨.t1t, .passivePollA, .frame⟩, ⟨.t2t, .passivePollA, .frame⟩,
      ⟨.t3t, .passivePollF, .frame⟩, ⟨.isoDep, .passivePollA, .frame⟩]
  length_slots := rfl

def get (table : Table) (index : Fin slotCount) : Slot :=
  table.slots.get (index.cast table.length_slots.symm)

def find (table : Table) (protocol : Protocol) (techMode : TechMode) : Option (Fin slotCount) :=
  (List.finRange slotCount).find? fun index =>
    (table.get index).protocol == protocol && (table.get index).techMode == techMode

def covered (table : Table) (mapping : Nci.DiscoverMapping) : Nat :=
  table.slots.countP (·.coveredBy mapping)

def remap (table : Table) (mapping : Nci.DiscoverMapping) : Table where
  slots := table.slots.map fun slot =>
    if slot.coveredBy mapping then { slot with interface := mapping.interface } else slot
  length_slots := by simp [table.length_slots]

end Table

end NearField.Rf
