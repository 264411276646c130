import NearField.Proofs.Llcp.Atomicity
import NearField.Proofs.Llcp.LogicalUse
import NearField.Proofs.Llcp.ParamCodec

/-!
Answers to received PDUs. Main statements: a connection answers a PDU by one of a lower kind, and
twice only if a numbered frame reaches it while it is being closed; and so does a logical link,
whose answers come last in one queue and go back to where the PDU came from.
-/

namespace NearField.Llcp

/-! ### The order of PDUs -/

/-- The types of PDU below a type, in the order in which answers descend. -/
def PduType.below : PduType → List PduType
  | i => [rr, rnr, frmr, dm]
  | rr | rnr => [frmr, dm]
  | frmr | cc | disc => [dm]
  | connect => [cc, dm]
  | _ => []

theorem PduType.dm_below {type : PduType} (concerns : type.concernsConnection = true)
    (spoken : type ≠ .dm) : .dm ∈ type.below := by
  cases type with
  | dm => exact absurd rfl spoken
  | symm | ui | pax | agf | snl => cases concerns
  | _ => decide

theorem PduType.frmr_below {type : PduType} (sequenced : type.isSequenced = true) :
    .frmr ∈ type.below := by
  cases type with
  | i | rr | rnr => decide
  | _ => cases sequenced

def Param.isQuestion : Param → Bool
  | sdreq _ _ => true
  | _ => false

def Pdu.asks (pdu : Pdu) : Bool :=
  match Param.parseAll pdu.info with
  | .error _ => false
  | .ok params => params.any Param.isQuestion

/-- Whether a PDU is of a lower kind than another: of a type below, or about service names without
asking for any as the other does. -/
def Pdu.Below (answer received : Pdu) : Prop :=
  answer.type ∈ received.type.below ∨
    received.type = .snl ∧ received.asks = true ∧ answer.type = .snl ∧ answer.asks = false

instance (answer received : Pdu) : Decidable (answer.Below received) :=
  inferInstanceAs (Decidable (_ ∨ _))

/-- Octets that are read as a PDU of a type for an access point. -/
def Carries (bytes : Octets) (peer : Sap) (type : PduType) : Prop :=
  ∃ pdu, Pdu.decode bytes = .ok pdu ∧ pdu.dsap = peer ∧ pdu.type = type

theorem carries_plain (dsap ssap : Sap) (type : PduType) (info : Octets)
    (plain : type.isSequenced = false) (fits : info.length ≤ 254) :
    Carries (header dsap type ssap ++ info) dsap type :=
  ⟨_, decode_plain dsap ssap type info plain fits, rfl, rfl⟩

/-- The PDUs that a logical link may answer another with, for an access point. -/
inductive Answers (peer : Sap) (received : Pdu) : List Octets → Prop
  | silent : Answers peer received []
  | lower (bytes : Octets) (type : PduType) (carries : Carries bytes peer type)
      (below : type ∈ received.type.below) : Answers peer received [bytes]
  | named (bytes : Octets) (answer : Pdu) (read : Pdu.decode bytes = .ok answer)
      (destined : answer.dsap = peer) (below : answer.Below received) : Answers peer received [bytes]
  | twice (first second : Octets) (type : received.type = .i) (ended : Carries first peer .dm)
      (ready : Carries second peer .rr) : Answers peer received [first, second]

theorem Answers.below {peer : Sap} {received : Pdu} {added : List Octets}
    (answers : Answers peer received added) :
    ∀ bytes ∈ added, ∃ answer, Pdu.decode bytes = .ok answer ∧ answer.dsap = peer ∧
      answer.Below received := by
  have lower {bytes : Octets} {type : PduType} (carries : Carries bytes peer type)
      (below : type ∈ received.type.below) :
      ∃ answer, Pdu.decode bytes = .ok answer ∧ answer.dsap = peer ∧ answer.Below received := by
    obtain ⟨answer, read, destined, kind⟩ := carries
    exact ⟨answer, read, destined, .inl (kind ▸ below)⟩
  intro bytes inside
  cases answers with
  | silent => cases inside
  | lower _ type carries below =>
    rw [List.mem_singleton.mp inside]
    exact lower carries below
  | named _ answer read destined below =>
    rw [List.mem_singleton.mp inside]
    exact ⟨answer, read, destined, below⟩
  | twice first second type ended ready =>
    rcases List.mem_cons.mp inside with here | later
    · rw [here]
      exact lower ended (by rw [type]; decide)
    · rw [List.mem_singleton.mp later]
      exact lower ready (by rw [type]; decide)

theorem Answers.length_le {peer : Sap} {received : Pdu} {added : List Octets}
    (answers : Answers peer received added) : added.length ≤ 2 := by
  cases answers <;> simp

theorem Answers.eq_nil {peer : Sap} {received : Pdu} {added : List Octets}
    (answers : Answers peer received added)
    (quiet : received.type ∈ [PduType.dm, .symm, .ui, .pax, .agf]) : added = [] := by
  have none : received.type.below = [] ∧ received.type ≠ .snl := by
    generalize received.type = type at quiet
    revert type
    simp only [List.forall_mem_cons]
    decide
  apply List.eq_nil_iff_forall_not_mem.mpr
  intro bytes inside
  obtain ⟨answer, _, _, lower | ⟨type, _⟩⟩ := answers.below bytes inside
  · rw [none.1] at lower
    cases lower
  · exact none.2 type

/-! ### Answers of a connection -/

namespace DataLink

variable (link : DataLink) {pdu : Pdu}

theorem acknowledge_carries :
    link.acknowledge.2.queue.toList = link.queue.toList ∨
      link.pending < queueDepth ∧ ∃ frame, Carries frame link.address.remoteSap .rr ∧
        link.acknowledge.2.queue.toList = link.queue.toList ++ [frame] := by
  have done := link.commit_committed (link.session.acknowledge link.address)
  unfold acknowledge
  generalize link.commit _ = outcome at done
  cases done with
  | refused => exact .inl rfl
  | queued _ _ queue pushed =>
    obtain ⟨room, frame, encoded, _, listed⟩ := TransmitQueue.push_ok pushed
    refine .inr ⟨room, frame, ?_, listed⟩
    have narrow := encodeReady_narrow encoded
    rw [encodeReady_ok _ _ narrow] at encoded
    cases encoded
    exact ⟨_, decode_ready _ _ narrow, rfl, rfl⟩

theorem accept_carries (asked : link.session.status = .connecting)
    (peer : link.session.initiator = false) :
    link.accept.2.queue.toList = link.queue.toList ∨
      ∃ frame, Carries frame link.address.remoteSap .cc ∧
        link.accept.2.queue.toList = link.queue.toList ++ [frame] := by
  rw [link.accept_asked asked peer]
  rcases link.commit_queue _ with same | ⟨frame, sends, listed⟩
  · exact .inl (congrArg TransmitQueue.toList same)
  · cases sends
    exact .inr ⟨_, carries_plain _ _ .cc _ rfl (by simp), listed⟩

/-- Taking a PDU in queues nothing or a PDU of a type below. -/
theorem receive_carries (concerns : pdu.type.concernsConnection = true) :
    (link.receive pdu).2.queue.toList = link.queue.toList ∨
      ∃ frame type, Carries frame link.address.remoteSap type ∧ type ∈ pdu.type.below ∧
        (link.receive pdu).2.queue.toList = link.queue.toList ++ [frame] := by
  have reception := link.session.receive_reception link.address pdu
  unfold receive
  generalize link.session.receive link.address pdu = transition at reception
  rcases link.commit_queue transition with same | ⟨frame, sends, listed⟩
  · exact .inl (congrArg TransmitQueue.toList same)
  · right
    cases reception with
    | ended | asked | granted | taken | ready => cases sends
    | parted reason spoken =>
      rw [Transition.frame?, Session.disconnectedFrame_ok] at sends
      cases sends
      exact ⟨_, .dm, carries_plain _ _ .dm _ rfl (by simp), PduType.dm_below concerns spoken,
        listed⟩
    | rejected flags _ sequenced =>
      rw [Session.refuse, Transition.frame?, Session.rejectFrame_ok] at sends
      cases sends
      exact ⟨_, .frmr, carries_plain _ _ .frmr _ rfl (by simp [FrameReject.toOctets]),
        PduType.frmr_below sequenced, listed⟩

theorem receive_moved {frame : Octets} (type : pdu.type = .i)
    (moved : (link.receive pdu).2.session.vr ≠ link.session.vr)
    (grown : (link.receive pdu).2.queue.toList = link.queue.toList ++ [frame]) :
    Carries frame link.address.remoteSap .dm ∧ link.session.status ≠ .connected ∧
      link.session.vr ≠ 0 := by
  have reception := link.session.receive_reception link.address pdu
  unfold receive at moved grown
  generalize link.session.receive link.address pdu = transition at reception moved grown
  have done := link.commit_committed transition
  generalize link.commit transition = outcome at done moved grown
  cases reception with
  | ended silent =>
    rw [type] at silent
    rcases silent with kind | ⟨_, kind⟩ <;> cases kind
  | asked _ kind | granted _ _ kind =>
    rw [type] at kind
    cases kind
  | ready _ kind =>
    rw [type] at kind
    rcases kind with kind | kind <;> cases kind
  | taken =>
    cases done
    exact absurd grown (by simp)
  | rejected =>
    cases done <;> exact absurd rfl moved
  | parted reason spoken unexpected =>
    cases done with
    | dropped => exact absurd grown (by simp)
    | parted _ _ queue pushed =>
      obtain ⟨_, other, encoded, _, listed⟩ := TransmitQueue.push_ok pushed
      rw [Session.disconnectedFrame_ok] at encoded
      cases encoded
      cases List.append_cancel_left (listed.symm.trans grown)
      refine ⟨carries_plain _ _ .dm _ rfl (by simp), fun connected => ?_, fun zero => ?_⟩
      · have plain := unexpected connected
        rw [type] at plain
        cases plain
      · exact moved zero.symm

/-- A queue that has grown by answers to a PDU; by two only if the connection was not open although
it had taken something in. -/
structure Replies (link after : DataLink) (pdu : Pdu) (added : List Octets) : Prop where
  grown : after.queue.toList = link.queue.toList ++ added
  answers : Answers link.address.remoteSap pdu added
  pair : 1 < added.length → pdu.type = .i ∧ link.session.status ≠ .connected ∧
    link.session.vr ≠ 0 ∧ link.pending + 2 ≤ queueDepth

variable {link} {after : DataLink}

theorem replies_nil (same : after.queue.toList = link.queue.toList) : Replies link after pdu [] where
  grown := same.trans (List.append_nil _).symm
  answers := .silent
  pair := fun two => by simp at two

theorem replies_single {frame : Octets} {type : PduType}
    (grown : after.queue.toList = link.queue.toList ++ [frame])
    (carries : Carries frame link.address.remoteSap type) (below : type ∈ pdu.type.below) :
    Replies link after pdu [frame] where
  grown := grown
  answers := .lower frame type carries below
  pair := fun two => by simp at two

theorem receive_replies (concerns : pdu.type.concernsConnection = true) :
    ∃ added, Replies link (link.receive pdu).2 pdu added := by
  rcases link.receive_carries concerns with still | ⟨frame, type, carries, below, grown⟩
  · exact ⟨[], replies_nil still⟩
  · exact ⟨[frame], replies_single grown carries below⟩

theorem accept_replies (type : pdu.type = .connect)
    (asked : (link.receive pdu).2.session.status = .connecting)
    (peer : (link.receive pdu).2.session.initiator = false) :
    ∃ added, Replies link (link.receive pdu).2.accept.2 pdu added := by
  by_cases free : link.session.status = .disconnected
  · -- a request that is taken in is not answered before it is granted
    have grants := (link.receive pdu).2.accept_carries asked peer
    rw [receive_request free type] at grants ⊢
    rcases grants with still | ⟨frame, carries, grown⟩
    · exact ⟨[], replies_nil still⟩
    · exact ⟨[frame], replies_single grown carries (by rw [type]; decide)⟩
  · rw [(receive_unasked type free).2] at asked
    cases asked

theorem acknowledge_replies (type : pdu.type = .i)
    (moved : (link.receive pdu).2.session.vr ≠ link.session.vr) :
    ∃ added, Replies link (link.receive pdu).2.acknowledge.2 pdu added := by
  have address : (link.receive pdu).2.address = link.address := rfl
  have acknowledges := (link.receive pdu).2.acknowledge_carries
  rw [address] at acknowledges
  have below : PduType.rr ∈ pdu.type.below := by rw [type]; decide
  rcases link.receive_carries (by rw [type]; rfl : pdu.type.concernsConnection = true) with
    still | ⟨frame, kind, carries, lower, grown⟩
  · rw [still] at acknowledges
    rcases acknowledges with idle | ⟨_, ready, reads, listed⟩
    · exact ⟨[], replies_nil idle⟩
    · exact ⟨[ready], replies_single listed reads below⟩
  · rw [grown] at acknowledges
    rcases acknowledges with idle | ⟨room, ready, reads, listed⟩
    · exact ⟨[frame], replies_single idle carries lower⟩
    · -- the receive number moved although the connection spoke: it has ended
      obtain ⟨ended, closed, advanced⟩ := link.receive_moved type moved grown
      rw [List.append_assoc] at listed
      rw [pending, TransmitQueue.size_eq, grown, List.length_append] at room
      refine ⟨[frame, ready], listed, .twice frame ready type ended reads, fun _ => ?_⟩
      rw [pending, TransmitQueue.size_eq]
      exact ⟨type, closed, advanced, room⟩

/-- What handling a PDU adds to the queue. -/
theorem handle_replies (link : DataLink) (concerns : pdu.type.concernsConnection = true) :
    ∃ added, Replies link (link.handle pdu).2 pdu added := by
  rcases link.handle_cases pdu with same | ⟨type, asked, peer, granted⟩ | ⟨type, moved, answered⟩
  · rw [same]
    exact receive_replies concerns
  · rw [granted]
    exact accept_replies type asked peer
  · rw [answered]
    exact acknowledge_replies type moved

/-- Whether a connection answers a PDU twice: it is being closed and told that it is no more, and
then a frame is acknowledged that it did not take in. -/
def AnswersTwice (link : DataLink) (pdu : Pdu) : Prop :=
  pdu.type = .i ∧ link.session.status = .disconnecting ∧ link.session.vr ≠ 0 ∧
    link.pending + 2 ≤ queueDepth

/-- A connection that is fresh until it is open answers twice only while it is being closed. -/
theorem Replies.twice {added : List Octets} (replies : Replies link after pdu added)
    (fresh : link.session.Fresh) (two : 1 < added.length) : link.AnswersTwice pdu := by
  obtain ⟨type, closed, advanced, room⟩ := replies.pair two
  refine ⟨type, ?_, advanced, room⟩
  cases status : link.session.status with
  | disconnected => exact absurd (fresh (.inl status)) advanced
  | connecting => exact absurd (fresh (.inr status)) advanced
  | connected => exact absurd status closed
  | disconnecting => rfl

theorem acknowledge_room (narrow : link.session.vr < 16) (room : link.queue.size < queueDepth) :
    ∃ frame, link.acknowledge.2.queue.toList = link.queue.toList ++ [frame] := by
  rw [acknowledge, Session.acknowledge, encodeReady_ok _ _ narrow]
  have fits : (header link.address.remoteSap .rr link.address.localSap ++
      [Sequence.toOctet ⟨0, link.session.vr⟩]).length ≤ bufferRoom := by simp [bufferRoom]
  obtain ⟨queue, committed, listed⟩ :=
    link.commit_room { link.session with vra := link.session.vr } room fits
  rw [committed]
  exact ⟨_, listed⟩

theorem handle_twice (twice : link.AnswersTwice pdu) :
    ∃ first second, (link.handle pdu).2.queue.toList = link.queue.toList ++ [first, second] := by
  obtain ⟨type, closing, advanced, room⟩ := twice
  let farewell : Octets := header link.address.remoteSap .dm link.address.localSap ++
    [DisconnectReason.notConnected.code]
  have fits : farewell.length ≤ bufferRoom := by simp [farewell, bufferRoom]
  have first : link.queue.size < queueDepth := Nat.lt_of_succ_lt room
  obtain ⟨queue, pushed, listed⟩ := TransmitQueue.push_room first fits
  -- the session that is left has nothing but zeros, and it expected another number before
  let after : DataLink := ⟨link.address, link.session.reset, queue⟩
  have heard : link.receive pdu = (.ok (), after) := by
    rw [receive, Session.receive, closing, type]
    simp only [Session.disconnectedFrame_ok, commit, Transition.commit, farewell] at pushed ⊢
    rw [pushed]
  have handled : (link.handle pdu).2 = after.acknowledge.2 := by
    simp only [handle, heard, type, reduceCtorEq, false_and, if_false, true_and]
    rw [if_pos fun zero => advanced zero.symm]
  have space : after.queue.size < queueDepth := by
    rw [pending, TransmitQueue.size_eq] at room
    rw [TransmitQueue.size_eq, listed, List.length_append]
    exact room
  obtain ⟨ready, grown⟩ := after.acknowledge_room (by change (0 : UInt8) < 16; decide) space
  refine ⟨farewell, ready, ?_⟩
  rw [handled, grown]
  change queue.toList ++ [ready] = _
  rw [listed, List.append_assoc]
  rfl

end DataLink

/-! ### Answers of a logical link -/

theorem Param.parseAll_answers {answers : List Param} {info : Octets}
    (all : ∀ answer ∈ answers, answer.IsAnswer) (encoded : encodeAll answers = .ok info) :
    ∃ params, parseAll info = .ok params ∧ ∀ param ∈ params, param.IsAnswer := by
  refine ⟨answers.map normal, parseAll_encodeAll encoded, ?_⟩
  intro param inside
  obtain ⟨answer, listed, rfl⟩ := List.mem_map.mp inside
  obtain ⟨tid, sap, rfl⟩ := all answer listed
  exact ⟨tid, _, rfl⟩

theorem Param.answers_ask_nothing {params : List Param}
    (all : ∀ param ∈ params, param.IsAnswer) : params.any isQuestion = false := by
  apply List.any_eq_false.mpr
  intro param inside
  obtain ⟨tid, sap, rfl⟩ := all param inside
  rintro ⟨⟩

namespace LogicalLink

variable (link : LogicalLink) (pdu : Pdu)

theorem asks_of_answered {params : List Param} (read : Param.parseAll pdu.info = .ok params)
    (asked : params.filterMap link.answer? ≠ []) : pdu.asks = true := by
  obtain ⟨answer, inside⟩ := List.exists_mem_of_ne_nil _ asked
  obtain ⟨param, here, answers⟩ := List.mem_filterMap.mp inside
  rw [Pdu.asks, read]
  refine List.any_eq_true.mpr ⟨param, here, ?_⟩
  cases param with
  | sdreq tid uri => rfl
  | _ => cases answers

theorem recipient_remote : (link.recipient pdu).remoteSap = pdu.ssap := by
  unfold recipient
  split <;> rfl

theorem receivePdu_twice {dataLink : DataLink}
    (found : link.links.get? ⟨pdu.dsap, pdu.ssap⟩ = some dataLink)
    (twice : dataLink.AnswersTwice pdu) :
    ∃ first second, (link.receivePdu pdu).2.waiting (.connection ⟨pdu.dsap, pdu.ssap⟩) =
      link.waiting (.connection ⟨pdu.dsap, pdu.ssap⟩) ++ [first, second] := by
  have type := twice.1
  obtain ⟨first, second, grown⟩ := dataLink.handle_twice twice
  have received : link.receivePdu pdu = link.receiveOnLink pdu := by rw [receivePdu, type]
  refine ⟨first, second, ?_⟩
  rw [received, receiveOnLink_handle link pdu (by rw [type]; rintro ⟨⟩) found,
    store_waiting_self, grown, waiting_of_found found]

def TwiceAnswered (link : LogicalLink) (pdu : Pdu) : Prop :=
  ∃ dataLink, link.links.get? ⟨pdu.dsap, pdu.ssap⟩ = some dataLink ∧ dataLink.AnswersTwice pdu

theorem TwiceAnswered.added {link : LogicalLink} {pdu : Pdu} {lane : Lane} {added : List Octets}
    (twice : link.TwiceAnswered pdu) (gains : Gains link (link.receivePdu pdu).2 lane added) :
    1 < added.length := by
  obtain ⟨dataLink, found, both⟩ := twice
  obtain ⟨first, second, grown⟩ := link.receivePdu_twice pdu found both
  by_cases here : .connection ⟨pdu.dsap, pdu.ssap⟩ = lane
  · subst here
    rw [List.append_cancel_left (gains.here.symm.trans grown)]
    simp
  · exact absurd ((gains.elsewhere _ here).symm.trans grown) (by simp)

theorem twiceAnswered_of_handled {link : LogicalLink} {pdu : Pdu} (type : pdu.type = .i)
    (twice : (link.linkAt (link.recipient pdu)).AnswersTwice pdu) : link.TwiceAnswered pdu := by
  rw [link.recipient_plain pdu (by rw [type]; rintro ⟨⟩)] at twice
  cases found : link.links.get? ⟨pdu.dsap, pdu.ssap⟩ with
  | none =>
    have advanced := twice.2.2.1
    rw [linkAt, found] at advanced
    exact absurd rfl advanced
  | some dataLink =>
    rw [linkAt_of_found found] at twice
    exact ⟨dataLink, found, twice⟩

theorem receivePdu_answers :
    ∃ lane added peer, Gains link (link.receivePdu pdu).2 lane added ∧ Answers peer pdu added ∧
      (link.Placed → peer = pdu.ssap ∧ (1 < added.length → link.TwiceAnswered pdu)) := by
  obtain ⟨reaction, heard, eq⟩ := link.receivePdu_heard pdu
  rw [eq]
  cases heard with
  | silent result =>
    rw [react_silent]
    exact ⟨.control, [], pdu.ssap, .refl .control, .silent,
      fun _ => ⟨rfl, fun two => by simp at two⟩⟩
  | refused reason concerns spoken =>
    have gains := link.control_gains [header pdu.ssap .dm pdu.dsap ++ [reason.code]]
    have carries := carries_plain pdu.ssap pdu.dsap .dm [reason.code] rfl (by simp)
    exact ⟨.control, _, pdu.ssap, gains, .lower _ .dm carries (PduType.dm_below concerns spoken),
      fun _ => ⟨rfl, fun two => by simp at two⟩⟩
  | answered params info type read asked encoded fits =>
    have gains := link.control_gains [header pdu.ssap .snl .discovery ++ info]
    have written := decode_plain pdu.ssap .discovery .snl info rfl fits
    refine ⟨.control, _, pdu.ssap, gains, .named _ _ written rfl ?_,
      fun _ => ⟨rfl, fun two => by simp at two⟩⟩
    obtain ⟨named, again, answers⟩ := Param.parseAll_answers (link.answers_all params) encoded
    refine .inr ⟨type, link.asks_of_answered pdu read asked, rfl, ?_⟩
    rw [Pdu.asks, again]
    exact Param.answers_ask_nothing answers
  | handled concerns =>
    obtain ⟨added, replies⟩ := (link.linkAt (link.recipient pdu)).handle_replies concerns
    rw [react_handled]
    refine ⟨_, added, _, store_gains replies.grown, replies.answers,
      fun placed => ⟨?_, fun two => ?_⟩⟩
    · rw [(linkAt_placed placed _).address_eq, recipient_remote]
    · have twice := replies.twice (linkAt_placed placed _).fresh two
      exact twiceAnswered_of_handled twice.1 twice

/-- Whether the octets of a PDU are answered twice: they are a numbered frame for a connection that
is being closed and has taken in something before. -/
def AnswersTwice (link : LogicalLink) (bytes : Octets) : Prop :=
  ∃ pdu, Pdu.decode bytes = .ok pdu ∧ link.TwiceAnswered pdu

theorem receive_answers {link : LogicalLink} (placed : link.Placed) (bytes : Octets) :
    ∃ lane added, Gains link (link.receive bytes).2 lane added ∧
      (added = [] ∨ ∃ received, Pdu.decode bytes = .ok received ∧
        Answers received.ssap received added) ∧
      (1 < added.length ↔ link.AnswersTwice bytes) := by
  unfold receive
  cases read : Pdu.decode bytes with
  | error e =>
    refine ⟨.control, [], .refl .control, .inl rfl, fun two => by simp at two, ?_⟩
    rintro ⟨_, unread, _⟩
    rw [read] at unread
    cases unread
  | ok pdu =>
    obtain ⟨lane, added, peer, gains, answers, exactly⟩ := link.receivePdu_answers pdu
    obtain ⟨rfl, twice⟩ := exactly placed
    refine ⟨lane, added, gains, .inr ⟨pdu, rfl, answers⟩, ?_⟩
    constructor
    · exact fun two => ⟨pdu, read, twice two⟩
    · rintro ⟨other, again, both⟩
      rw [read] at again
      cases again
      exact both.added gains

end LogicalLink

end NearField.Llcp
