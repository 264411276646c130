import NearField.Proofs.Llcp.Reaction

/-!
Connections do not disturb each other. Main statement: a received PDU leaves every connection but
the one it goes to as it was, and two PDUs that go to different connections may be received in
either order.
-/

namespace NearField.Llcp.LogicalLink

variable (link : LogicalLink)

theorem react_links_of_ne (reaction : Reaction) {address other : LinkAddress}
    (apart : address ≠ other) :
    (link.react address reaction).links.get? other = link.links.get? other := by
  unfold react
  cases reaction.connection with
  | none => rfl
  | some dataLink => exact Table.get?_insert_of_ne dataLink apart

theorem react_comm (first second : Reaction) {address other : LinkAddress}
    (apart : address ≠ other) :
    ((link.react address first).react other second).links =
        ((link.react other second).react address first).links ∧
      ((link.react address first).react other second).control.Perm
        ((link.react other second).react address first).control := by
  constructor
  · unfold react
    cases first.connection with
    | none => rfl
    | some one =>
      cases second.connection with
      | none => rfl
      | some two => exact Table.insert_comm apart one two
  · change (link.control ++ first.control ++ second.control).Perm
      (link.control ++ second.control ++ first.control)
    rw [List.append_assoc, List.append_assoc]
    exact List.perm_append_comm.append_left _

/-- A PDU comes to the same after another that goes to a different connection. -/
theorem Reacts.after {link : LogicalLink} {pdu : Pdu} {reaction : Reaction} {address : LinkAddress}
    (reacts : link.Reacts pdu receivePdu reaction) (apart : address ≠ link.recipient pdu)
    (other : Reaction) :
    (link.react address other).receivePdu pdu =
      (reaction.result, (link.react address other).react (link.recipient pdu) reaction) :=
  reacts _ _ (link.react_links_of_ne other apart)

theorem receive_read {bytes : Octets} {pdu : Pdu} (read : Pdu.decode bytes = .ok pdu) :
    link.receive bytes = link.receivePdu pdu := by
  rw [receive, read]

/-- A received PDU leaves the bound services and all connections but the one that it goes to as they
were. Two PDUs for different connections come to the same results, the same connections and the same
answers, whichever is received first; only those answers may change places that belong to no
connection. -/
theorem receive_isolated :
    (∀ bytes, (link.receive bytes).2.services = link.services) ∧
      (∀ bytes pdu, Pdu.decode bytes = .ok pdu → ∀ address, address ≠ link.recipient pdu →
        (link.receive bytes).2.links.get? address = link.links.get? address) ∧
      ∀ first second p q, Pdu.decode first = .ok p → Pdu.decode second = .ok q →
        link.recipient p ≠ link.recipient q →
        let one := link.receive first
        let two := link.receive second
        (two.2.receive first).1 = one.1 ∧ (one.2.receive second).1 = two.1 ∧
          (one.2.receive second).2.links = (two.2.receive first).2.links ∧
          (one.2.receive second).2.control.Perm (two.2.receive first).2.control := by
  refine ⟨link.receive_services, fun bytes pdu read address apart => ?_, ?_⟩
  · obtain ⟨reaction, _, eq⟩ := link.receivePdu_heard pdu
    rw [receive_read link read, eq]
    exact link.react_links_of_ne reaction apart.symm
  · intro first second p q readFirst readSecond apart one two
    obtain ⟨left, _, reactsLeft⟩ := link.receivePdu_reacts p
    obtain ⟨right, _, reactsRight⟩ := link.receivePdu_reacts q
    have onlyLeft : one = (left.result, link.react (link.recipient p) left) :=
      (link.receive_read readFirst).trans (reactsLeft link.links link.control rfl)
    have onlyRight : two = (right.result, link.react (link.recipient q) right) :=
      (link.receive_read readSecond).trans (reactsRight link.links link.control rfl)
    have leftLast : two.2.receive first = (left.result,
        (link.react (link.recipient q) right).react (link.recipient p) left) := by
      rw [onlyRight, receive_read _ readFirst]
      exact reactsLeft.after apart.symm right
    have rightLast : one.2.receive second = (right.result,
        (link.react (link.recipient p) left).react (link.recipient q) right) := by
      rw [onlyLeft, receive_read _ readSecond]
      exact reactsRight.after apart left
    rw [leftLast, rightLast, onlyLeft, onlyRight]
    exact ⟨rfl, rfl, link.react_comm left right apart⟩

/-- A frame out of order from one peer and a good one from another, in either order. -/
theorem isolated_two_peers :
    let link := new.operateAll [.receive [0x11, 0x20], .receive [0x11, 0x21]]
    let one := (link.receive [0x13, 0x20, 0x50]).2
    let two := (link.receive [0x13, 0x21, 0x00]).2
    (one.receive [0x13, 0x21, 0x00]).2.links = (two.receive [0x13, 0x20, 0x50]).2.links ∧
      one.links.get? ⟨.masked 4, .masked 33⟩ = link.links.get? ⟨.masked 4, .masked 33⟩ := by
  intro link one two
  obtain ⟨_, kept, swapped⟩ := link.receive_isolated
  let bad : Pdu :=
    { dsap := .masked 4, type := .i, ssap := .masked 32, sequence := some ⟨5, 0⟩ }
  let good : Pdu :=
    { dsap := .masked 4, type := .i, ssap := .masked 33, sequence := some ⟨0, 0⟩ }
  have readBad : Pdu.decode [0x13, 0x20, 0x50] = .ok bad := by rfl
  have readGood : Pdu.decode [0x13, 0x21, 0x00] = .ok good := by rfl
  have here : link.recipient bad = ⟨.masked 4, .masked 32⟩ := by rfl
  have there : link.recipient good = ⟨.masked 4, .masked 33⟩ := by rfl
  have apart : link.recipient bad ≠ link.recipient good := by
    rw [here, there]
    decide
  have either := swapped _ _ bad good readBad readGood apart
  have still := kept _ bad readBad ⟨.masked 4, .masked 33⟩ (by rw [here]; decide)
  refine ⟨?_, still⟩
  simp only [one, two]
  exact either.2.2.1

end NearField.Llcp.LogicalLink
