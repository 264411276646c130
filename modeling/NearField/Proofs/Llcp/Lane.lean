import NearField.Proofs.Llcp.Reaction

/-!
The queues of a logical link, each on its own: the PDUs without a connection, and the frames of
each connection. Main statement: storing a connection whose queue has grown lengthens one queue and
leaves the others, and what waits in all grows by as much.
-/

namespace NearField.Llcp

inductive Lane where
  | control
  | connection (address : LinkAddress)
deriving DecidableEq

namespace LogicalLink

/-- What waits in a queue, oldest first; nothing where there is no connection. -/
def waiting (link : LogicalLink) : Lane → List Octets
  | .control => link.control
  | .connection address => (link.linkAt address).queue.toList

variable (link : LogicalLink) (address : LinkAddress) (dataLink : DataLink)

theorem linkAt_of_found {link : LogicalLink} {address : LinkAddress} {dataLink : DataLink}
    (found : link.links.get? address = some dataLink) : link.linkAt address = dataLink := by
  rw [linkAt, found]
  rfl

theorem waiting_of_found {link : LogicalLink} {address : LinkAddress} {dataLink : DataLink}
    (found : link.links.get? address = some dataLink) :
    link.waiting (.connection address) = dataLink.queue.toList := by
  rw [waiting, linkAt_of_found found]

@[simp] theorem linkAt_store_self : (link.store address dataLink).linkAt address = dataLink :=
  linkAt_of_found (Table.get?_insert_self _ _ _)

theorem store_waiting_self :
    (link.store address dataLink).waiting (.connection address) = dataLink.queue.toList := by
  rw [waiting, linkAt_store_self]

theorem store_waiting_of_ne {lane : Lane} (apart : lane ≠ .connection address) :
    (link.store address dataLink).waiting lane = link.waiting lane := by
  cases lane with
  | control => rfl
  | connection other =>
    have keys : address ≠ other := fun same => apart (by rw [same])
    simp only [waiting, linkAt, store, Table.get?_insert_of_ne dataLink keys]

/-- What waits in all, before and after a connection is stored: the frames of that connection, and
the same others. -/
theorem store_outbound :
    ∃ others, link.outbound.Perm (link.waiting (.connection address) ++ others) ∧
      (link.store address dataLink).outbound.Perm (dataLink.queue.toList ++ others) := by
  obtain ⟨others, found, stored⟩ := link.links.insert_values address dataLink
  have here : (link.links.get? address).toList.flatMap (fun dataLink => dataLink.queue.toList) =
      link.waiting (.connection address) := by
    rw [waiting, linkAt]
    cases link.links.get? address with
    | none => rfl
    | some dataLink => exact List.append_nil _
  have before := found.flatMap_right fun dataLink => dataLink.queue.toList
  have after := stored.flatMap_right fun dataLink => dataLink.queue.toList
  rw [List.flatMap_append, here] at before
  refine ⟨link.control ++ others.flatMap fun dataLink => dataLink.queue.toList, ?_, ?_⟩
  · exact (before.append_left link.control).trans (List.perm_append_comm_assoc _ _ _)
  · exact (after.append_left link.control).trans (List.perm_append_comm_assoc _ _ _)

/-- One queue is longer than before by the PDUs added, every other one is as it was. -/
structure Gains (before after : LogicalLink) (lane : Lane) (added : List Octets) : Prop where
  here : after.waiting lane = before.waiting lane ++ added
  elsewhere : ∀ other, other ≠ lane → after.waiting other = before.waiting other
  outbound : after.outbound.Perm (before.outbound ++ added)

variable {link address dataLink}

theorem Gains.refl (lane : Lane) : Gains link link lane [] where
  here := (List.append_nil _).symm
  elsewhere := fun _ _ => rfl
  outbound := by rw [List.append_nil]

theorem Gains.grown {after : LogicalLink} {lane : Lane} {added : List Octets}
    (gains : Gains link after lane added) (other : Lane) :
    ∃ more, after.waiting other = link.waiting other ++ more ∧ ∀ pdu ∈ more, pdu ∈ added := by
  by_cases same : other = lane
  · rw [same]
    exact ⟨added, gains.here, fun _ inside => inside⟩
  · refine ⟨[], ?_, fun _ inside => by cases inside⟩
    rw [gains.elsewhere other same, List.append_nil]

theorem services_gains (services : Table Sap Octets) :
    Gains link { link with services } .control [] where
  here := (List.append_nil _).symm
  elsewhere := fun _ _ => rfl
  outbound := by
    rw [List.append_nil]
    exact .rfl

theorem store_gains {added : List Octets}
    (grown : dataLink.queue.toList = link.waiting (.connection address) ++ added) :
    Gains link (link.store address dataLink) (.connection address) added where
  here := by rw [store_waiting_self, grown]
  elsewhere := fun _ apart => store_waiting_of_ne link address dataLink apart
  outbound := by
    obtain ⟨others, before, after⟩ := link.store_outbound address dataLink
    rw [grown, List.append_assoc] at after
    calc (link.store address dataLink).outbound
      _ |>.Perm (link.waiting (.connection address) ++ (added ++ others)) := after
      _ |>.Perm (link.waiting (.connection address) ++ (others ++ added)) :=
        List.perm_append_comm.append_left _
      _ |>.Perm (link.outbound ++ added) := by
        rw [← List.append_assoc]
        exact before.symm.append_right added

theorem control_gains (added : List Octets) :
    Gains link { link with control := link.control ++ added } .control added where
  here := rfl
  elsewhere := by
    intro other apart
    cases other with
    | control => exact absurd rfl apart
    | connection address => rfl
  outbound := by
    rw [outbound, outbound, List.append_assoc, List.append_assoc]
    exact List.perm_append_comm.append_left _

end LogicalLink

end NearField.Llcp
