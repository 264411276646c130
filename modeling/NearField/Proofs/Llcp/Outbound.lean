import NearField.Proofs.Llcp.LogicalOperation

/-!
What a logical link has to send. Main statements: every frame of a connection is a PDU from its own
end to the other that fits a data packet; every PDU without a connection fits one too, except the
answer to sixty-three questions at once; PDUs go out in one order, first those without a connection
and then the frames of each connection.
-/

namespace NearField.Llcp

/-- The longest PDU that one data packet carries into a delivery of 255 octets. -/
def packetRoom : Nat := 252

/-! ### Frames of connections -/

def Transition.frame? : Transition → Option (Except Error Octets)
  | quiet _ => none
  | sending frame _ | parting frame _ => some frame

theorem DataLink.commit_queue (link : DataLink) (transition : Transition) :
    (link.commit transition).2.queue = link.queue ∨
      ∃ frame, transition.frame? = some (.ok frame) ∧
        (link.commit transition).2.queue.toList = link.queue.toList ++ [frame] := by
  have done := link.commit_committed transition
  generalize link.commit transition = outcome at done
  cases done with
  | kept | refused | dropped => exact .inl rfl
  | queued encoding _ queue pushed | parted encoding _ queue pushed =>
    obtain ⟨_, frame, encoded, _, listed⟩ := TransmitQueue.push_ok pushed
    exact .inr ⟨frame, congrArg some encoded, listed⟩

/-- A frame is a PDU of a type from the end of a connection at an address to the other one, short
enough for a data packet. -/
structure LinkAddress.Writes (address : LinkAddress) (type : PduType) (frame : Octets) : Prop where
  short : frame.length ≤ packetRoom
  read : ∃ pdu, Pdu.decode frame = .ok pdu ∧ pdu.dsap = address.remoteSap ∧
    pdu.ssap = address.localSap ∧ pdu.type = type

section Writes

variable (address : LinkAddress) (type : PduType)

theorem writes_plain (info : Octets) (plain : type.isSequenced = false) (fits : info.length ≤ 250) :
    address.Writes type (header address.remoteSap type address.localSap ++ info) where
  short := by
    rw [List.length_append, length_header, packetRoom]
    omega
  read := ⟨_, decode_plain _ _ type info plain (by omega), rfl, rfl, rfl⟩

theorem writes_numbered (octet : UInt8) (data : Octets) (numbered : type.isSequenced = true)
    (fits : data.length ≤ 249) :
    address.Writes type (header address.remoteSap type address.localSap ++ octet :: data) where
  short := by
    rw [List.length_append, length_header, List.length_cons, packetRoom]
    omega
  read := ⟨_, decode_numbered _ _ type octet data numbered (by omega), rfl, rfl, rfl⟩

end Writes

section Frames

variable {address : LinkAddress} {frame : Octets}

theorem Session.windowFrame_writes {s : Session} {type : PduType} (plain : type.isSequenced = false)
    (encoded : s.windowFrame address type = .ok frame) : address.Writes type frame := by
  rw [Session.windowFrame_ok] at encoded
  cases encoded
  exact writes_plain _ type _ plain (by simp)

theorem Session.disconnectedFrame_writes {reason : DisconnectReason}
    (encoded : Session.disconnectedFrame address reason = .ok frame) :
    address.Writes .dm frame := by
  rw [Session.disconnectedFrame_ok] at encoded
  cases encoded
  exact writes_plain _ .dm _ rfl (by simp)

theorem Session.rejectFrame_writes {s : Session} {flags : UInt8} {pdu : Pdu}
    (encoded : s.rejectFrame address flags pdu = .ok frame) : address.Writes .frmr frame := by
  rw [Session.rejectFrame_ok] at encoded
  cases encoded
  exact writes_plain _ .frmr _ rfl (by simp [FrameReject.toOctets])

end Frames

theorem encodeInformation_head {dsap ssap : Sap} {ns nr : UInt8} {head : Octets}
    (encoded : encodeInformation dsap ssap ns nr = .ok head) :
    ∃ octet, head = header dsap .i ssap ++ [octet] := by
  rw [encodeInformation] at encoded
  cases checked : Sequence.checked ns nr with
  | error e =>
    rw [checked] at encoded
    cases encoded
  | ok sequence =>
    rw [checked] at encoded
    change encodeWithInfo dsap .i ssap [sequence.toOctet] = .ok head at encoded
    rw [encodeWithInfo_ok _ _ _ _ (by simp)] at encoded
    cases encoded
    exact ⟨_, rfl⟩

theorem encodeInformation_length {dsap ssap : Sap} {ns nr : UInt8} {head : Octets}
    (encoded : encodeInformation dsap ssap ns nr = .ok head) : head.length = 3 := by
  obtain ⟨octet, rfl⟩ := encodeInformation_head encoded
  rfl

def LinkOperation.writes : LinkOperation → List PduType
  | connect => [.connect]
  | accept => [.cc]
  | reject => [.dm]
  | disconnect => [.disc]
  | acknowledge => [.rr]
  | send _ => [.i]
  | receive _ => [.dm, .frmr]
  | next | clear | consume _ => []

theorem Session.leads_writes {s : Session} {address : LinkAddress} {operation : LinkOperation}
    {transition : Transition} {frame : Octets} (leads : Leads s address operation transition)
    (sends : transition.frame? = some (.ok frame)) :
    ∃ type ∈ operation.writes, address.Writes type frame := by
  cases leads with
  | connect => exact ⟨_, List.mem_singleton_self _, windowFrame_writes rfl (Option.some.inj sends)⟩
  | accept => exact ⟨_, List.mem_singleton_self _, windowFrame_writes rfl (Option.some.inj sends)⟩
  | reject => exact ⟨_, List.mem_singleton_self _, disconnectedFrame_writes (Option.some.inj sends)⟩
  | disconnect =>
    rw [Transition.frame?, encodeHeader, encodeWithInfo_ok _ _ _ _ (by simp)] at sends
    cases sends
    exact ⟨_, List.mem_singleton_self _, writes_plain _ .disc [] rfl (by simp)⟩
  | acknowledge =>
    have encoded := Option.some.inj sends
    rw [encodeReady_ok _ _ (encodeReady_narrow encoded)] at encoded
    cases encoded
    exact ⟨_, List.mem_singleton_self _, writes_numbered _ .rr _ [] rfl (by simp)⟩
  | send data _ short =>
    have built := Option.some.inj sends
    have limit : s.maxInfo ≤ 249 := Nat.min_le_right _ _
    cases encoded : encodeInformation address.remoteSap address.localSap s.vs s.vr with
    | error e =>
      rw [encoded] at built
      cases built
    | ok head =>
      rw [encoded] at built
      cases built
      obtain ⟨octet, rfl⟩ := encodeInformation_head encoded
      rw [List.append_assoc]
      exact ⟨_, List.mem_singleton_self _, writes_numbered _ .i octet data rfl (by omega)⟩
  | receive pdu _ reception =>
    cases reception with
    | ended | asked | granted | taken | ready => cases sends
    | parted =>
      exact ⟨_, List.mem_cons_self, disconnectedFrame_writes (Option.some.inj sends)⟩
    | rejected =>
      exact ⟨_, List.mem_cons_of_mem _ List.mem_cons_self,
        rejectFrame_writes (Option.some.inj sends)⟩

theorem Session.leads_fits {s : Session} {address : LinkAddress} {operation : LinkOperation}
    {transition : Transition} {frame : Octets} (leads : Leads s address operation transition)
    (sends : transition.frame? = some (.ok frame)) : frame.length ≤ packetRoom := by
  obtain ⟨_, _, writes⟩ := Session.leads_writes leads sends
  exact writes.short

/-- What holds of the frames that wait, and of those that an operation sends, holds of the frames
that wait afterwards. -/
theorem DataLink.operate_frames {P : Octets → Prop} {link : DataLink} {operation : LinkOperation}
    (before : ∀ frame ∈ link.queue.toList, P frame)
    (sent : ∀ transition frame, Leads link.session link.address operation transition →
      transition.frame? = some (.ok frame) → P frame) :
    ∀ frame ∈ (link.operate operation).queue.toList, P frame := by
  have operated := link.operate_operated operation
  generalize link.operate operation = after at operated
  cases operated with
  | still => exact before
  | consumed count =>
    rw [DataLink.consumeReceived_link]
    exact before
  | popped frame queue first =>
    intro other inside
    exact before other (first ▸ List.mem_cons_of_mem _ inside)
  | cleared =>
    have empty : link.clear.queue.toList = [] := by
      apply List.eq_nil_of_length_eq_zero
      rw [← TransmitQueue.size_eq]
      exact TransmitQueue.size_clear link.queue
    intro frame inside
    rw [empty] at inside
    cases inside
  | moved _ transition leads =>
    rcases link.commit_queue transition with same | ⟨frame, sends, listed⟩
    · rw [same]
      exact before
    · intro other inside
      rw [listed] at inside
      rcases List.mem_append.mp inside with waiting | last
      · exact before other waiting
      · rw [List.mem_singleton.mp last]
        exact sent transition frame leads sends

def DataLink.Fits (link : DataLink) : Prop := ∀ frame ∈ link.queue.toList, frame.length ≤ packetRoom

theorem DataLink.offering_fits (address : LinkAddress) (window : UInt8) :
    (DataLink.offering address window).Fits := fun _ inside => by cases inside

theorem DataLink.operate_fits (link : DataLink) (operation : LinkOperation) (fits : link.Fits) :
    (link.operate operation).Fits :=
  operate_frames fits fun _ _ => Session.leads_fits

/-! ### PDUs without a connection -/

def Param.IsAnswer (param : Param) : Prop := ∃ tid sap, param = .sdres tid sap

theorem Param.encodeAll_answers {answers : List Param}
    (all : ∀ answer ∈ answers, answer.IsAnswer) :
    ∃ info, Param.encodeAll answers = .ok info ∧ info.length = 4 * answers.length := by
  induction answers with
  | nil => exact ⟨[], rfl, rfl⟩
  | cons answer answers ih =>
    obtain ⟨first, others⟩ := List.forall_mem_cons.mp all
    obtain ⟨tid, sap, rfl⟩ := first
    obtain ⟨info, encoded, size⟩ := ih others
    refine ⟨[0x09, 0x02, tid, sap &&& 0x3f] ++ info, ?_, ?_⟩
    · rw [encodeAll, encoded]
      rfl
    · rw [List.length_append, size, List.length_cons]
      simp only [List.length_cons, List.length_nil]
      omega

def LookupAnswer (count : Nat) (pdu : Octets) : Prop :=
  ∃ dsap answers info, answers.length = count ∧ (∀ answer ∈ answers, Param.IsAnswer answer) ∧
    Param.encodeAll answers = .ok info ∧ pdu = header dsap .snl .discovery ++ info

theorem LookupAnswer.length_eq {count : Nat} {pdu : Octets} (answer : LookupAnswer count pdu) :
    pdu.length = 2 + 4 * count := by
  obtain ⟨dsap, answers, info, number, all, encoded, rfl⟩ := answer
  obtain ⟨other, again, size⟩ := Param.encodeAll_answers all
  rw [encoded] at again
  cases again
  rw [List.length_append, length_header, size, number]

/-- A PDU without a connection that may wait to be sent: short enough for a data packet, or the
answer to sixty-three questions, which is two octets too long. -/
def ControlPdu (pdu : Octets) : Prop := pdu.length ≤ packetRoom ∨ LookupAnswer 63 pdu

namespace LogicalLink

variable {link : LogicalLink} {pdu : Pdu}

theorem queueControl_control (link : LogicalLink) (pdu : Pdu) :
    (link.queueControl pdu).2.control = link.control ++ pdu.encode.toOption.toList := by
  unfold queueControl
  cases pdu.encode with
  | error e => simp [Except.toOption]
  | ok bytes => rfl

theorem queueDisconnected_eq (link : LogicalLink) (pdu : Pdu) (reason : DisconnectReason) :
    link.queueDisconnected pdu reason = (.ok (), { link with
      control := link.control ++ [header pdu.ssap .dm pdu.dsap ++ [reason.code]] }) := by
  rw [queueDisconnected, queueControl, Pdu.encode_plain rfl rfl,
    encodeWithInfo_ok _ _ _ _ (by simp)]

theorem queueDisconnected_control (link : LogicalLink) (pdu : Pdu) (reason : DisconnectReason) :
    (link.queueDisconnected pdu reason).2.control =
      link.control ++ [header pdu.ssap .dm pdu.dsap ++ [reason.code]] := by
  rw [queueDisconnected_eq]

theorem answers_all (link : LogicalLink) (params : List Param) :
    ∀ answer ∈ params.filterMap link.answer?, Param.IsAnswer answer := by
  intro answer inside
  obtain ⟨param, _, eq⟩ := List.mem_filterMap.mp inside
  cases param with
  | sdreq tid uri =>
    cases eq
    exact ⟨tid, _, rfl⟩
  | _ => cases eq

def questions (link : LogicalLink) (pdu : Pdu) : Nat :=
  match Param.parseAll pdu.info with
  | .error _ => 0
  | .ok params => (params.filterMap link.answer?).length

theorem receiveLookup_control (link : LogicalLink) (pdu : Pdu) :
    (link.questions pdu = 0 ∨ 63 < link.questions pdu) ∧
        (link.receiveLookup pdu).2.control = link.control ∨
      link.questions pdu ≤ 63 ∧ ∃ answer, LookupAnswer (link.questions pdu) answer ∧
        (link.receiveLookup pdu).2.control = link.control ++ [answer] := by
  unfold receiveLookup questions
  cases Param.parseAll pdu.info with
  | error e => exact .inl ⟨.inl rfl, rfl⟩
  | ok params =>
    have all := link.answers_all params
    simp only
    generalize params.filterMap link.answer? = answers at all
    cases answers with
    | nil => exact .inl ⟨.inl rfl, rfl⟩
    | cons first others =>
      obtain ⟨info, encoded, size⟩ := Param.encodeAll_answers all
      simp only [encoded]
      rw [queueControl_control, Pdu.encode_plain rfl rfl]
      by_cases few : (first :: others).length ≤ 63
      · have fits : info.length ≤ 254 := by omega
        rw [encodeWithInfo_ok _ _ _ _ fits]
        exact .inr ⟨few, _, ⟨pdu.ssap, first :: others, info, rfl, all, encoded, rfl⟩, rfl⟩
      · have long : maxPduLength < (header pdu.ssap .snl .discovery ++ info).length := by
          rw [List.length_append, length_header, maxPduLength]
          omega
        rw [encodeWithInfo, bounded, if_pos long]
        exact .inl ⟨.inr (Nat.not_le.mp few), List.append_nil _⟩

theorem receiveConnect_control (link : LogicalLink) (pdu : Pdu) :
    (link.receiveConnect pdu).2.control = link.control ∨
      ∃ reason, (link.receiveConnect pdu).2.control =
        link.control ++ [header pdu.ssap .dm pdu.dsap ++ [DisconnectReason.code reason]] := by
  unfold receiveConnect
  split
  · exact .inl rfl
  · exact .inr ⟨_, queueDisconnected_control link pdu _⟩
  · simp only
    split
    · exact .inl rfl
    · split <;> exact .inl rfl

theorem receiveOnLink_control (link : LogicalLink) (pdu : Pdu) :
    (link.receiveOnLink pdu).2.control = link.control ∨
      ∃ reason, (link.receiveOnLink pdu).2.control =
        link.control ++ [header pdu.ssap .dm pdu.dsap ++ [DisconnectReason.code reason]] := by
  unfold receiveOnLink
  simp only
  split
  · split
    · exact .inl rfl
    · exact .inr ⟨_, queueDisconnected_control link pdu _⟩
  · split
    · exact .inl rfl
    · split <;> exact .inl rfl

/-- What a received PDU adds to the PDUs without a connection: nothing, a disconnected mode, or the
answer to its questions. -/
inductive Answered (link : LogicalLink) (pdu : Pdu) : List Octets → Prop
  | silent (unasked : pdu.type = .snl → link.questions pdu = 0 ∨ 63 < link.questions pdu) :
      Answered link pdu []
  | refused (other : pdu.type ≠ .snl) (reason : DisconnectReason) :
      Answered link pdu [header pdu.ssap .dm pdu.dsap ++ [reason.code]]
  | answered (type : pdu.type = .snl) (few : link.questions pdu ≤ 63) (answer : Octets)
      (all : LookupAnswer (link.questions pdu) answer) : Answered link pdu [answer]

theorem receivePdu_control (link : LogicalLink) (pdu : Pdu) :
    ∃ added, Answered link pdu added ∧
      (link.receivePdu pdu).2.control = link.control ++ added := by
  unfold receivePdu
  have quiet : link.control = link.control ++ [] := (List.append_nil _).symm
  cases type : pdu.type with
  | symm | ui | pax | agf => exact ⟨[], .silent (by rw [type]; nofun), quiet⟩
  | snl =>
    rcases link.receiveLookup_control pdu with ⟨none, same⟩ | ⟨few, answer, all, added⟩
    · exact ⟨[], .silent fun _ => none, same.trans quiet⟩
    · exact ⟨_, .answered type few answer all, added⟩
  | connect =>
    rcases link.receiveConnect_control pdu with same | ⟨reason, added⟩
    · exact ⟨[], .silent (by rw [type]; nofun), same.trans quiet⟩
    · exact ⟨_, .refused (by rw [type]; nofun) reason, added⟩
  | _ =>
    rcases link.receiveOnLink_control pdu with same | ⟨reason, added⟩
    · exact ⟨[], .silent (by rw [type]; nofun), same.trans quiet⟩
    · exact ⟨_, .refused (by rw [type]; nofun) reason, added⟩

/-! ### Everything that waits -/

/-- What a logical link has to send, in the order of sending. -/
def outbound (link : LogicalLink) : List Octets :=
  link.control ++ link.links.values.flatMap fun dataLink => dataLink.queue.toList

/-- Everything that waits is of a kind that connections and answers give rise to. -/
structure Bounded (link : LogicalLink) : Prop where
  links : link.Links DataLink.Fits
  control : ∀ pdu ∈ link.control, ControlPdu pdu

theorem outbound_bounded (bounded : link.Bounded) : ∀ pdu ∈ link.outbound, ControlPdu pdu := by
  intro pdu inside
  rcases List.mem_append.mp inside with waiting | framed
  · exact bounded.control pdu waiting
  · obtain ⟨dataLink, stored, here⟩ := List.mem_flatMap.mp framed
    obtain ⟨⟨address, other⟩, entry, same⟩ := List.mem_map.mp stored
    cases same
    exact .inl (bounded.links address _ (Table.mem_entries_iff.mp entry) pdu here)

theorem empty_bounded (links : link.links = ∅) (control : link.control = []) : link.Bounded where
  links address dataLink inside := by
    rw [links] at inside
    cases inside
  control pdu inside := by
    rw [control] at inside
    cases inside

theorem answered_control {added : List Octets} (answered : Answered link pdu added) :
    ∀ answer ∈ added, ControlPdu answer := by
  cases answered with
  | silent => exact fun _ inside => by cases inside
  | refused other reason =>
    intro answer inside
    rw [List.mem_singleton.mp inside]
    exact .inl (by simp [packetRoom])
  | answered type few sent all =>
    intro answer inside
    rw [List.mem_singleton.mp inside]
    by_cases most : link.questions pdu = 63
    · exact .inr (most ▸ all)
    · left
      rw [all.length_eq, packetRoom]
      omega

section Control

variable {P : Octets → Prop} (before : ∀ pdu ∈ link.control, P pdu)

include before

theorem next_control : ∀ pdu ∈ link.next.2.control, P pdu := by
  unfold next
  split
  · rename_i first rest eq
    rw [eq] at before
    exact (List.forall_mem_cons.mp before).2
  · split <;> exact before

variable (answers : ∀ pdu added, Answered link pdu added → ∀ answer ∈ added, P answer)

include answers

theorem receive_control (bytes : Octets) : ∀ pdu ∈ (link.receive bytes).2.control, P pdu := by
  unfold receive
  cases Pdu.decode bytes with
  | error e => exact before
  | ok pdu =>
    obtain ⟨added, answered, eq⟩ := link.receivePdu_control pdu
    simp only
    rw [eq]
    intro other inside
    rcases List.mem_append.mp inside with waiting | last
    · exact before other waiting
    · exact answers pdu added answered other last

/-- What holds of the PDUs without a connection, and of every answer to a received PDU, holds of the
PDUs without a connection afterwards. -/
theorem operate_control (operation : LogicalOperation) :
    ∀ pdu ∈ (link.operate operation).control, P pdu := by
  cases operation with
  | bind sap name =>
    simp only [operate, bind]
    split <;> rename_i eq
    · split at eq
      · cases eq
      · cases eq
        exact before
    · exact before
  | unbind sap => exact before
  | connect address => exact before
  | send address data =>
    simp only [operate, send]
    split <;> exact before
  | receive bytes => exact receive_control before answers bytes
  | next => exact next_control before
  | transmit send =>
    simp only [operate, transmit]
    split
    · exact before
    · exact next_control before

end Control

theorem operate_bounded (bounded : link.Bounded) (operation : LogicalOperation) :
    (link.operate operation).Bounded where
  links := operate_keeps (fun _ link operation _ => DataLink.operate_fits link operation)
    DataLink.offering_fits bounded.links operation
  control := operate_control bounded.control (fun _ _ => answered_control) operation

theorem operateAll_bounded (bounded : link.Bounded) (operations : List LogicalOperation) :
    (link.operateAll operations).Bounded := by
  induction operations generalizing link with
  | nil => exact bounded
  | cons operation operations ih => exact ih (operate_bounded bounded operation)

def Used (link : LogicalLink) : Prop :=
  ∃ window operations, link = (LogicalLink.new.offering window).operateAll operations

theorem used_bounded (used : link.Used) : link.Bounded := by
  obtain ⟨window, operations, rfl⟩ := used
  exact operateAll_bounded (empty_bounded rfl rfl) operations

/-! ### The order of sending -/

theorem waiting_iff (dataLink : DataLink) :
    (dataLink.pending ≠ 0 : Bool) = false ↔ dataLink.queue.toList = [] := by
  simp [DataLink.pending, TransmitQueue.size_eq]

theorem firstPending_none (none : link.firstPending = none) :
    (link.links.values.flatMap fun dataLink => dataLink.queue.toList) = [] := by
  rw [List.flatMap_eq_nil_iff]
  intro dataLink stored
  obtain ⟨entry, inside, same⟩ := List.mem_map.mp stored
  have idle := List.find?_eq_none.mp none entry inside
  rw [same] at idle
  exact (waiting_iff dataLink).mp (by simpa using idle)

theorem firstPending_some {address : LinkAddress} {dataLink : DataLink}
    (first : link.firstPending = some (address, dataLink)) :
    ∃ frame later rest, dataLink.queue.toList = frame :: later ∧
      (link.links.values.flatMap fun dataLink => dataLink.queue.toList) =
        frame :: later ++ rest ∧
        ∀ after : DataLink, ((link.store address after).links.values.flatMap
          fun dataLink => dataLink.queue.toList) = after.queue.toList ++ rest := by
  have pending := (Table.first?_get? first).2
  obtain ⟨before, after, entries, idle, stored⟩ := Table.first?_entries first
  -- the connections before the first with something to send contribute nothing
  have blank : (before.map (·.2)).flatMap (fun dataLink => dataLink.queue.toList) = [] := by
    rw [List.flatMap_eq_nil_iff]
    intro other inside
    obtain ⟨entry, here, rfl⟩ := List.mem_map.mp inside
    exact (waiting_iff _).mp (idle entry here)
  cases frames : dataLink.queue.toList with
  | nil =>
    rw [(waiting_iff dataLink).mpr frames] at pending
    cases pending
  | cons frame later =>
    refine ⟨frame, later, (after.map (·.2)).flatMap fun dataLink => dataLink.queue.toList, rfl,
      ?_, fun changed => ?_⟩
    · rw [Table.values, entries, List.map_append, List.flatMap_append, blank, List.map_cons,
        List.flatMap_cons, frames]
      rfl
    · rw [Table.values, store, stored, List.map_append, List.flatMap_append, blank, List.map_cons,
        List.flatMap_cons]
      rfl

/-- Taking out the next PDU takes the head off what waits. -/
theorem next_outbound (link : LogicalLink) :
    link.next.1 = link.outbound.head? ∧ link.next.2.outbound = link.outbound.tail := by
  cases control : link.control with
  | cons bytes rest =>
    rw [next, control]
    simp only [outbound, control, List.cons_append]
    exact ⟨rfl, rfl⟩
  | nil =>
    rw [next, control]
    cases first : link.firstPending with
    | none =>
      simp only [outbound, control, firstPending_none first]
      exact ⟨rfl, rfl⟩
    | some entry =>
      obtain ⟨address, dataLink⟩ := entry
      obtain ⟨frame, later, rest, frames, listed, stored⟩ := firstPending_some first
      rcases dataLink.next_eq with ⟨none, _⟩ | ⟨popped, queue, taken, eq⟩
      · rw [none] at frames
        cases frames
      · rw [taken, List.cons_eq_cons] at frames
        have same : (link.store address { dataLink with queue }).control = [] := control
        simp only [eq, outbound, same, control, listed, stored, frames]
        exact ⟨rfl, rfl⟩

theorem peek_outbound (link : LogicalLink) : link.peek = link.outbound.head? := by
  cases control : link.control with
  | cons bytes rest =>
    simp only [peek, outbound, control, List.cons_append, List.head?_cons]
  | nil =>
    simp only [peek, outbound, control, List.nil_append]
    cases first : link.firstPending with
    | none => simp [firstPending_none first]
    | some entry =>
      obtain ⟨address, dataLink⟩ := entry
      obtain ⟨frame, later, rest, frames, listed, stored⟩ := firstPending_some first
      simp [listed, DataLink.peek, TransmitQueue.peek_eq, frames]

end LogicalLink

end NearField.Llcp
