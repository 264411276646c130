import NearField.Proofs.Llcp.Outbound

/-!
What a received PDU does to a logical link, said once: it is ignored, answered outside connections,
or handled by one connection. Main statement: this is decided by the bound services and by the
connection that the PDU goes to, whatever else the logical link holds.
-/

namespace NearField.Llcp

def PduType.concernsConnection : PduType → Bool
  | symm | ui | pax | agf | snl => false
  | _ => true

/-- All that a connection makes of a PDU: after taking it in, a request is granted and a numbered
frame acknowledged. -/
def DataLink.handle (link : DataLink) (pdu : Pdu) : Except Error Unit × DataLink :=
  match link.receive pdu with
  | (.error e, after) => (.error e, after)
  | (.ok (), after) =>
    if pdu.type = .connect ∧ after.session.status = .connecting ∧ !after.session.initiator then
      after.accept
    else if pdu.type = .i ∧ after.session.vr ≠ link.session.vr then after.acknowledge
    else (.ok (), after)

theorem DataLink.handle_cases (link : DataLink) (pdu : Pdu) :
    (link.handle pdu).2 = (link.receive pdu).2 ∨
      (pdu.type = .connect ∧ (link.receive pdu).2.session.status = .connecting ∧
        (link.receive pdu).2.session.initiator = false ∧
        (link.handle pdu).2 = (link.receive pdu).2.accept.2) ∨
      (pdu.type = .i ∧ (link.receive pdu).2.session.vr ≠ link.session.vr ∧
        (link.handle pdu).2 = (link.receive pdu).2.acknowledge.2) := by
  unfold handle
  generalize link.receive pdu = outcome
  obtain ⟨result, after⟩ := outcome
  cases result with
  | error e => exact .inl rfl
  | ok done =>
    simp only
    split
    · rename_i asks
      exact .inr (.inl ⟨asks.1, asks.2.1, by simpa using asks.2.2, rfl⟩)
    · split
      · rename_i moved
        exact .inr (.inr ⟨moved.1, moved.2, rfl⟩)
      · exact .inl rfl

namespace LogicalLink

/-- The connection that a PDU goes to. A request addressed to discovery goes to the access point
that its service name stands for, if there is one. -/
def recipient (link : LogicalLink) (pdu : Pdu) : LinkAddress :=
  if pdu.type = .connect ∧ pdu.dsap = .discovery then
    ⟨(link.connectTarget pdu).toOption.join.getD pdu.dsap, pdu.ssap⟩
  else ⟨pdu.dsap, pdu.ssap⟩

/-- What receiving a PDU comes to: its result, PDUs without a connection to send, and the
connection it goes to as it is left, if it has a say in it. -/
structure Reaction where
  result : Except Error Unit
  control : List Octets := []
  connection : Option DataLink := none

def react (link : LogicalLink) (address : LinkAddress) (reaction : Reaction) : LogicalLink :=
  { link with
    control := link.control ++ reaction.control
    links :=
      match reaction.connection with
      | none => link.links
      | some dataLink => link.links.insert address dataLink }

/-- What a logical link can make of a PDU. -/
inductive Heard (link : LogicalLink) (pdu : Pdu) : Reaction → Prop
  | silent (result : Except Error Unit) : Heard link pdu { result }
  | refused (reason : DisconnectReason) (concerns : pdu.type.concernsConnection = true)
      (spoken : pdu.type ≠ .dm) :
      Heard link pdu
        { result := .ok (), control := [header pdu.ssap .dm pdu.dsap ++ [reason.code]] }
  | answered (params : List Param) (info : Octets) (type : pdu.type = .snl)
      (read : Param.parseAll pdu.info = .ok params) (asked : params.filterMap link.answer? ≠ [])
      (encoded : Param.encodeAll (params.filterMap link.answer?) = .ok info)
      (fits : info.length ≤ 254) :
      Heard link pdu
        { result := .ok (), control := [header pdu.ssap .snl .discovery ++ info] }
  | handled (concerns : pdu.type.concernsConnection = true) :
      Heard link pdu
        { result := ((link.linkAt (link.recipient pdu)).handle pdu).1
          connection := some ((link.linkAt (link.recipient pdu)).handle pdu).2 }

/-- Whether a way to receive a PDU comes to a reaction, here and on every logical link with the same
services and the same connection for the PDU. -/
def Reacts (link : LogicalLink) (pdu : Pdu)
    (receive : LogicalLink → Pdu → Except Error Unit × LogicalLink) (reaction : Reaction) : Prop :=
  ∀ links control, links.get? (link.recipient pdu) = link.links.get? (link.recipient pdu) →
    receive { link with links, control } pdu =
      (reaction.result, { link with links, control }.react (link.recipient pdu) reaction)

variable (link : LogicalLink) (pdu : Pdu)

theorem react_silent (address : LinkAddress) (result : Except Error Unit) :
    link.react address { result } = link := by
  simp only [react, List.append_nil]

theorem react_handled (address : LinkAddress) (result : Except Error Unit)
    (dataLink : DataLink) :
    link.react address { result, connection := some dataLink } = link.store address dataLink := by
  simp only [react, store, List.append_nil]

theorem receiveLookup_reacts (type : pdu.type = .snl) :
    ∃ reaction, Heard link pdu reaction ∧ link.Reacts pdu receiveLookup reaction := by
  cases read : Param.parseAll pdu.info with
  | error e =>
    refine ⟨_, .silent (.error e), ?_⟩
    intro links control _
    rw [receiveLookup, read, react_silent]
  | ok params =>
    -- answers depend on the bound services alone
    have same (links : Table LinkAddress DataLink) (control : List Octets) :
        ({ link with links, control } : LogicalLink).answer? = link.answer? := rfl
    have all := link.answers_all params
    cases asked : params.filterMap link.answer? with
    | nil =>
      refine ⟨_, .silent (.ok ()), ?_⟩
      intro links control _
      simp only [receiveLookup, read, same, asked, react_silent]
    | cons first others =>
      obtain ⟨info, encoded, _⟩ := Param.encodeAll_answers all
      by_cases fits : info.length ≤ 254
      · have several : params.filterMap link.answer? ≠ [] := by
          rw [asked]
          exact List.cons_ne_nil _ _
        refine ⟨_, .answered params info type read several encoded fits, ?_⟩
        intro links control _
        rw [asked] at encoded
        simp only [receiveLookup, read, same, asked, encoded, queueControl]
        rw [Pdu.encode_plain rfl rfl, encodeWithInfo_ok pdu.ssap .discovery .snl info fits]
        rfl
      · have long : maxPduLength < (header pdu.ssap .snl .discovery ++ info).length := by
          rw [List.length_append, length_header, maxPduLength]
          omega
        let refusal : Error := .invalidLength maxPduLength
          (header pdu.ssap .snl .discovery ++ info).length
        refine ⟨_, .silent (.error refusal), ?_⟩
        intro links control _
        rw [asked] at encoded
        simp only [receiveLookup, read, same, asked, encoded, queueControl, react_silent]
        rw [Pdu.encode_plain rfl rfl, encodeWithInfo, bounded, if_pos long]

theorem recipient_target {sap : Sap} (type : pdu.type = .connect)
    (target : link.connectTarget pdu = .ok (some sap)) :
    link.recipient pdu = ⟨sap, pdu.ssap⟩ := by
  by_cases named : pdu.dsap = .discovery
  · rw [recipient, if_pos ⟨type, named⟩, target]
    rfl
  · rw [recipient, if_neg fun asks => named asks.2]
    rw [connectTarget, if_neg named] at target
    split at target
    · cases target
      rfl
    · cases target

theorem receiveConnect_handle {sap : Sap} (type : pdu.type = .connect)
    (target : link.connectTarget pdu = .ok (some sap)) :
    link.receiveConnect pdu = (((link.linkAt ⟨sap, pdu.ssap⟩).handle pdu).1,
      link.store ⟨sap, pdu.ssap⟩ ((link.linkAt ⟨sap, pdu.ssap⟩).handle pdu).2) := by
  simp only [receiveConnect, target, DataLink.handle, type, true_and, reduceCtorEq, false_and,
    if_false]
  generalize (link.linkAt ⟨sap, pdu.ssap⟩).receive pdu = outcome
  obtain ⟨result, after⟩ := outcome
  cases result with
  | error e => rfl
  | ok done =>
    simp only
    split <;> rfl

theorem receiveConnect_reacts (type : pdu.type = .connect) :
    ∃ reaction, Heard link pdu reaction ∧ link.Reacts pdu receiveConnect reaction := by
  have concerns : pdu.type.concernsConnection = true := by rw [type]; rfl
  -- where the request goes depends on the bound services alone
  have same (links : Table LinkAddress DataLink) (control : List Octets) :
      ({ link with links, control } : LogicalLink).connectTarget pdu = link.connectTarget pdu := rfl
  cases target : link.connectTarget pdu with
  | error e =>
    refine ⟨_, .silent (.error e), ?_⟩
    intro links control _
    simp only [receiveConnect, same, target, react_silent]
  | ok choice =>
    cases choice with
    | none =>
      refine ⟨_, .refused .noService concerns (by rw [type]; rintro ⟨⟩), ?_⟩
      intro links control _
      simp only [receiveConnect, same, target, queueDisconnected_eq]
      rfl
    | some sap =>
      refine ⟨_, .handled concerns, ?_⟩
      intro links control found
      rw [link.recipient_target pdu type target] at found ⊢
      have here : ({ link with links, control } : LogicalLink).linkAt ⟨sap, pdu.ssap⟩ =
          link.linkAt ⟨sap, pdu.ssap⟩ := by
        simp only [linkAt, found]
      rw [receiveConnect_handle _ pdu type ((same links control).trans target), here,
        react_handled]

theorem recipient_plain (type : pdu.type ≠ .connect) :
    link.recipient pdu = ⟨pdu.dsap, pdu.ssap⟩ := by
  rw [recipient, if_neg fun asks => type asks.1]

theorem receiveOnLink_handle {before : DataLink} (type : pdu.type ≠ .connect)
    (found : link.links.get? ⟨pdu.dsap, pdu.ssap⟩ = some before) :
    link.receiveOnLink pdu =
      ((before.handle pdu).1, link.store ⟨pdu.dsap, pdu.ssap⟩ (before.handle pdu).2) := by
  simp only [receiveOnLink, found, DataLink.handle, type, false_and, if_false]
  generalize before.receive pdu = outcome
  obtain ⟨result, after⟩ := outcome
  cases result with
  | error e => rfl
  | ok done =>
    simp only
    split <;> rfl

theorem receiveOnLink_reacts (type : pdu.type ≠ .connect)
    (concerns : pdu.type.concernsConnection = true) :
    ∃ reaction, Heard link pdu reaction ∧ link.Reacts pdu receiveOnLink reaction := by
  have recipient := link.recipient_plain pdu type
  cases found : link.links.get? ⟨pdu.dsap, pdu.ssap⟩ with
  | none =>
    by_cases closed : pdu.type = .dm
    · refine ⟨_, .silent (.ok ()), ?_⟩
      intro links control same
      rw [recipient, found] at same
      simp only [receiveOnLink, same, closed, if_true, react_silent]
    · refine ⟨_, .refused .notConnected concerns closed, ?_⟩
      intro links control same
      rw [recipient, found] at same
      simp only [receiveOnLink, same, closed, if_false, queueDisconnected_eq]
      rfl
  | some before =>
    refine ⟨_, .handled concerns, ?_⟩
    intro links control same
    rw [recipient] at same ⊢
    have here : link.linkAt ⟨pdu.dsap, pdu.ssap⟩ = before := by
      rw [linkAt, found]
      rfl
    rw [receiveOnLink_handle _ pdu type (same.trans found), here, react_handled]

/-- What a logical link makes of a PDU, every other one that offers the same services and has the
same connection for the PDU makes of it too. -/
theorem receivePdu_reacts :
    ∃ reaction, Heard link pdu reaction ∧ link.Reacts pdu receivePdu reaction := by
  unfold Reacts receivePdu
  cases type : pdu.type with
  | symm | ui | pax | agf =>
    refine ⟨_, .silent (.ok ()), ?_⟩
    intro links control _
    rw [react_silent]
  | snl => exact link.receiveLookup_reacts pdu type
  | connect => exact link.receiveConnect_reacts pdu type
  | _ => exact link.receiveOnLink_reacts pdu (by rw [type]; rintro ⟨⟩) (by rw [type]; rfl)

theorem receivePdu_heard :
    ∃ reaction, Heard link pdu reaction ∧
      link.receivePdu pdu = (reaction.result, link.react (link.recipient pdu) reaction) := by
  obtain ⟨reaction, heard, reacts⟩ := link.receivePdu_reacts pdu
  exact ⟨reaction, heard, reacts link.links link.control rfl⟩

theorem receive_services (bytes : Octets) :
    (link.receive bytes).2.services = link.services := by
  unfold receive
  cases Pdu.decode bytes with
  | error e => rfl
  | ok pdu =>
    obtain ⟨reaction, _, eq⟩ := link.receivePdu_heard pdu
    simp only
    rw [eq]
    rfl

end LogicalLink

end NearField.Llcp
