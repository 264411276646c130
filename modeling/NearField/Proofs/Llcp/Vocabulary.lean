import NearField.Proofs.Llcp.Answer

/-!
What a logical link has to say, and to whom. Main statement: whatever a logical link was used for,
each of its connections has the address it is kept under and sends only PDUs of connections from
there, the PDUs without a connection refuse or answer questions for names, and neither link
management nor discovery ever has a service or gets a connection from a received PDU.
-/

namespace NearField.Llcp

def PduType.ofConnections : List PduType := [connect, cc, disc, dm, frmr, i, rr]

theorem LinkOperation.writes_ofConnections (operation : LinkOperation) :
    ∀ type ∈ operation.writes, type ∈ PduType.ofConnections := by
  cases operation <;> simp only [writes] <;> decide

def LinkAddress.Speaks (address : LinkAddress) (frame : Octets) : Prop :=
  ∃ type ∈ PduType.ofConnections, address.Writes type frame

/-- A connection that sends what it may send at its address. -/
structure DataLink.WellSpoken (link : DataLink) (address : LinkAddress) : Prop where
  address_eq : link.address = address
  speaks : ∀ frame ∈ link.queue.toList, address.Speaks frame

namespace DataLink

variable {link : DataLink} {address : LinkAddress}

theorem offering_wellSpoken (address : LinkAddress) (window : UInt8) :
    (offering address window).WellSpoken address :=
  ⟨rfl, fun _ inside => by cases inside⟩

theorem use_wellSpoken (wellSpoken : link.WellSpoken address) (use : LinkUse) :
    (link.use use).WellSpoken address := by
  cases use with
  | operate operation =>
    have here := wellSpoken.address_eq
    refine ⟨(link.operate_address operation).trans here, ?_⟩
    apply operate_frames wellSpoken.speaks
    intro transition frame leads sends
    obtain ⟨type, said, writes⟩ := Session.leads_writes leads sends
    exact ⟨type, operation.writes_ofConnections type said, here ▸ writes⟩
  | write bytes =>
    rw [DataLink.use, writeReceived_link]
    exact ⟨wellSpoken.address_eq, wellSpoken.speaks⟩

end DataLink

/-- Octets that a logical link may send outside connections: a disconnected mode with its reason, or
answers from discovery to questions for service names. -/
def ControlSpeech (bytes : Octets) : Prop :=
  ∃ pdu, Pdu.decode bytes = .ok pdu ∧
    (pdu.type = .dm ∧ pdu.info.length = 1 ∨
      pdu.type = .snl ∧ pdu.ssap = .discovery ∧
        ∃ params, Param.parseAll pdu.info = .ok params ∧ ∀ param ∈ params, param.IsAnswer)

namespace LogicalLink

variable {link : LogicalLink} {pdu : Pdu}

theorem answered_speech {added : List Octets} (answered : Answered link pdu added) :
    ∀ answer ∈ added, ControlSpeech answer := by
  cases answered with
  | silent => exact fun _ inside => by cases inside
  | refused other reason =>
    intro answer inside
    rw [List.mem_singleton.mp inside]
    exact ⟨_, decode_plain _ _ .dm [reason.code] rfl (by simp), .inl ⟨rfl, rfl⟩⟩
  | answered type few sent all =>
    intro answer inside
    rw [List.mem_singleton.mp inside]
    have size := all.length_eq
    obtain ⟨dsap, answers, info, number, every, encoded, rfl⟩ := all
    rw [List.length_append, length_header] at size
    exact ⟨_, decode_plain dsap .discovery .snl info rfl (by omega),
      .inr ⟨rfl, rfl, Param.parseAll_answers every encoded⟩⟩

theorem use_speech (before : ∀ bytes ∈ link.control, ControlSpeech bytes) (use : LogicalUse) :
    ∀ bytes ∈ (link.use use).control, ControlSpeech bytes := by
  cases use with
  | operate operation => exact operate_control before (fun _ _ => answered_speech) operation
  | adjust address use =>
    simp only [LogicalLink.use]
    split <;> exact before
  | offer window => exact before
  | reset => exact fun _ inside => by cases inside

theorem useAll_speech (before : ∀ bytes ∈ link.control, ControlSpeech bytes)
    (uses : List LogicalUse) : ∀ bytes ∈ (link.useAll uses).control, ControlSpeech bytes := by
  induction uses generalizing link with
  | nil => exact before
  | cons use uses ih => exact ih (use_speech before use)

/-- Link management and discovery have no service. -/
structure Unserved (link : LogicalLink) : Prop where
  linkManagement : link.isBound .linkManagement = false
  discovery : link.isBound .discovery = false

theorem bound_insert {sap other : Sap} {name : Octets}
    (free : link.isBound other = false) (apart : sap ≠ other) :
    ({ link with services := link.services.insert sap name } : LogicalLink).isBound other =
      false := by
  rw [isBound, Table.contains] at free ⊢
  rw [Table.get?_insert_of_ne name apart, free]

theorem bound_erase {sap other : Sap} (free : link.isBound other = false) :
    (link.unbind sap).2.isBound other = false := by
  rw [isBound, Table.contains] at free ⊢
  rw [unbind, Table.erase, Table.get?_filterKeys]
  split
  · exact free
  · rfl

theorem next_services (link : LogicalLink) : link.next.2.services = link.services := by
  unfold next
  split
  · rfl
  · split <;> rfl

theorem use_unserved (unserved : link.Unserved) (use : LogicalUse) :
    (link.use use).Unserved := by
  have same {after : LogicalLink} (eq : after.services = link.services) : after.Unserved := by
    refine ⟨?_, ?_⟩
    · rw [isBound, eq]
      exact unserved.linkManagement
    · rw [isBound, eq]
      exact unserved.discovery
  cases use with
  | operate operation =>
    cases operation with
    | bind sap name =>
      simp only [LogicalLink.use, operate, bind]
      by_cases reserved : sap = .linkManagement ∨ sap = .discovery
      · rw [if_pos reserved]
        exact unserved
      · rw [if_neg reserved]
        rw [not_or] at reserved
        exact ⟨bound_insert unserved.linkManagement reserved.1,
          bound_insert unserved.discovery reserved.2⟩
    | unbind sap => exact ⟨bound_erase unserved.linkManagement, bound_erase unserved.discovery⟩
    | connect address => exact same rfl
    | send address data =>
      apply same
      simp only [LogicalLink.use, operate, send]
      split <;> rfl
    | receive bytes => exact same (link.receive_services bytes)
    | next => exact same link.next_services
    | transmit send =>
      apply same
      simp only [LogicalLink.use, operate, transmit]
      split
      · rfl
      · exact link.next_services
  | adjust address use =>
    apply same
    simp only [LogicalLink.use]
    split <;> rfl
  | offer window => exact same rfl
  | reset => exact same rfl

theorem useAll_unserved (unserved : link.Unserved) (uses : List LogicalUse) :
    (link.useAll uses).Unserved := by
  induction uses generalizing link with
  | nil => exact unserved
  | cons use uses ih => exact ih (use_unserved unserved use)

theorem bound_of_target {sap : Sap} (target : link.connectTarget pdu = .ok (some sap)) :
    link.isBound sap = true := by
  unfold connectTarget at target
  split at target
  · cases read : Param.parseAll pdu.info with
    | error e =>
      rw [read] at target
      cases target
    | ok params =>
      rw [read] at target
      obtain ⟨name, _, named⟩ := Option.bind_eq_some_iff.mp (Except.ok.inj target)
      obtain ⟨⟨found, other⟩, first, rfl⟩ := Option.map_eq_some_iff.mp named
      rw [isBound, Table.contains, (Table.first?_get? first).1]
      rfl
  · split at target
    · rename_i bound
      cases target
      exact bound
    · cases target

/-- A received PDU opens a new connection only where a service is bound. -/
theorem receivePdu_opens (pdu : Pdu) {address : LinkAddress}
    (closed : link.links.get? address = none) (free : link.isBound address.localSap = false) :
    (link.receivePdu pdu).2.links.get? address = none := by
  have onLink (type : pdu.type ≠ .connect) :
      (link.receiveOnLink pdu).2.links.get? address = none := by
    cases found : link.links.get? ⟨pdu.dsap, pdu.ssap⟩ with
    | none =>
      simp only [receiveOnLink, found, queueDisconnected_eq]
      split <;> exact closed
    | some dataLink =>
      have apart : (⟨pdu.dsap, pdu.ssap⟩ : LinkAddress) ≠ address := by
        rintro rfl
        rw [closed] at found
        cases found
      rw [receiveOnLink_handle link pdu type found, store, Table.get?_insert_of_ne _ apart]
      exact closed
  unfold receivePdu
  cases type : pdu.type with
  | symm | ui | pax | agf => exact closed
  | snl =>
    simp only [receiveLookup]
    split
    · exact closed
    · split
      · exact closed
      · split
        · exact closed
        · unfold queueControl
          split <;> exact closed
  | connect =>
    cases target : link.connectTarget pdu with
    | error e =>
      simp only [receiveConnect, target]
      exact closed
    | ok choice =>
      cases choice with
      | none =>
        simp only [receiveConnect, target, queueDisconnected_eq]
        exact closed
      | some sap =>
        have apart : (⟨sap, pdu.ssap⟩ : LinkAddress) ≠ address := by
          rintro rfl
          rw [bound_of_target target] at free
          cases free
        simp only [receiveConnect_handle link pdu type target]
        rw [store, Table.get?_insert_of_ne _ apart]
        exact closed
  | _ => exact onLink (by rw [type]; rintro ⟨⟩)

theorem receive_opens (bytes : Octets) {address : LinkAddress}
    (closed : link.links.get? address = none) (free : link.isBound address.localSap = false) :
    (link.receive bytes).2.links.get? address = none := by
  unfold receive
  cases Pdu.decode bytes with
  | error e => exact closed
  | ok pdu => exact receivePdu_opens pdu closed free

/-- Whatever a logical link was used for, each connection has the address it is kept under, and
every frame that it has to send is short, speaks for that address and is of a type that belongs to
connections. What is to be sent outside connections is a disconnected mode with one reason, or
answers from discovery to questions for names. Link management and discovery have no service, and
no received PDU opens a connection there. -/
theorem vocabulary_kept (window : UInt8) (uses : List LogicalUse) :
    let link := (new.offering window).useAll uses
    (∀ address dataLink, link.links.get? address = some dataLink →
      dataLink.address = address ∧ ∀ frame ∈ dataLink.queue.toList, address.Speaks frame) ∧
    (∀ bytes ∈ link.control, ControlSpeech bytes) ∧
    (link.isBound .linkManagement = false ∧ link.isBound .discovery = false) ∧
    ∀ bytes address, address.localSap = .linkManagement ∨ address.localSap = .discovery →
      link.links.get? address = none → (link.receive bytes).2.links.get? address = none := by
  intro link
  have wellSpoken : link.Keeps fun address dataLink => dataLink.WellSpoken address :=
    useAll_keeps (fun _ _ use here => DataLink.use_wellSpoken here use)
      DataLink.offering_wellSpoken (new_keeps window) uses
  have unserved : link.Unserved := useAll_unserved ⟨rfl, rfl⟩ uses
  refine ⟨fun address dataLink found => ?_, useAll_speech (fun _ inside => by cases inside) uses,
    ⟨unserved.linkManagement, unserved.discovery⟩, fun bytes address reserved closed => ?_⟩
  · have here := wellSpoken address dataLink found
    exact ⟨here.address_eq, here.speaks⟩
  · apply receive_opens bytes closed
    rcases reserved with here | here <;> rw [here]
    · exact unserved.linkManagement
    · exact unserved.discovery

/-- A connection that was granted and used, a PDU for a connection that is not there, a question for
a name, and a request to discovery that names nothing. -/
theorem vocabulary_kept_used :
    let address : LinkAddress := ⟨.snep, .masked 32⟩
    let uses : List LogicalUse := [.operate (.receive [0x11, 0x20]),
      .adjust address (.operate (.send [0xaa])), .operate (.receive [0x19, 0x68]),
      .operate (.receive ([0x06, 0x60, 0x08, 0x10, 0x07] ++ snepName))]
    let link := (new.offering 4).useAll uses
    (∃ dataLink, link.links.get? address = some dataLink ∧ dataLink.address = address ∧
        address.Speaks [0x83, 0x04, 0x00, 0xaa]) ∧
      ControlSpeech [0xa1, 0xc6, 0x01] ∧ ControlSpeech [0x82, 0x41, 0x09, 0x02, 0x07, 0x04] ∧
      (link.receive [0x05, 0x20]).2.links.get? ⟨.discovery, .masked 32⟩ = none := by
  intro address uses link
  have frames : (link.links.get? address).map (·.queue.toList) =
      some [[0x81, 0x84, 0x05, 0x01, 0x04], [0x83, 0x04, 0x00, 0xaa]] := by decide +kernel
  have waits : link.control = [[0xa1, 0xc6, 0x01], [0x82, 0x41, 0x09, 0x02, 0x07, 0x04]] := by
    decide +kernel
  have closed : link.links.get? ⟨.discovery, .masked 32⟩ = none := by decide +kernel
  obtain ⟨dataLink, found, listed⟩ := Option.map_eq_some_iff.mp frames
  obtain ⟨connections, control, _, opens⟩ := vocabulary_kept 4 uses
  obtain ⟨placed, speaks⟩ := connections address dataLink found
  refine ⟨⟨dataLink, found, placed, speaks _ ?_⟩, control _ ?_, control _ ?_,
    opens [0x05, 0x20] ⟨.discovery, .masked 32⟩ (.inr rfl) closed⟩
  · rw [listed]
    exact List.mem_cons_of_mem _ List.mem_cons_self
  · exact waits ▸ List.mem_cons_self
  · exact waits ▸ List.mem_cons_of_mem _ List.mem_cons_self

end LogicalLink

end NearField.Llcp
