import NearField.Proofs.Llcp.LogicalOperation

/-!
Failures of a logical link to take in a PDU. Main statement: a failure leaves everything as it was,
except when a connection whose queue is full takes in a numbered frame or is asked for anew; then
the session has moved on and only the answer is missing.
-/

namespace NearField.Llcp

def Session.TakesIn (s : Session) (pdu : Pdu) : Prop :=
  s.status = .connected ∧ pdu.type = .i ∧ s.received.used + pdu.info.length ≤ receiveRoom ∧
    ∃ sequence, pdu.sequence = some sequence ∧ sequence.ns = s.vr ∧
      s.acknowledgeable sequence.nr = true

/-- Whether a connection takes a step that it cannot answer any more. -/
def DataLink.StopsHalfway (link : DataLink) (pdu : Pdu) : Prop :=
  link.pending = queueDepth ∧
    (link.session.TakesIn pdu ∨ link.session.status = .disconnected ∧ pdu.type = .connect)

namespace DataLink

variable {link : DataLink} {pdu : Pdu}

theorem commit_fails_iff {frame : Octets} (next : Session) (fits : frame.length ≤ bufferRoom)
    (bound : link.pending ≤ queueDepth) :
    (∃ e, (link.commit (.sending (.ok frame) next)).1 = .error e) ↔ link.pending = queueDepth := by
  constructor
  · rintro ⟨e, failed⟩
    by_contra other
    obtain ⟨queue, eq, _⟩ := commit_room next (lt_of_le_of_ne bound other) fits
    rw [eq] at failed
    cases failed
  · intro full
    refine ⟨.poolExhausted queueDepth, ?_⟩
    rw [commit, Transition.commit, TransmitQueue.push_full (Nat.le_of_eq full.symm)]

theorem acknowledge_fails_iff (narrow : link.session.vr < 16) (bound : link.pending ≤ queueDepth) :
    (∃ e, link.acknowledge.1 = .error e) ↔ link.pending = queueDepth := by
  unfold acknowledge Session.acknowledge
  rw [encodeReady_ok _ _ narrow]
  exact commit_fails_iff _ (by simp [bufferRoom]) bound

theorem accept_fails_iff (asked : link.session.status = .connecting)
    (peer : link.session.initiator = false) (bound : link.pending ≤ queueDepth) :
    (∃ e, link.accept.1 = .error e) ↔ link.pending = queueDepth := by
  rw [link.accept_asked asked peer]
  exact commit_fails_iff _ (by simp [bufferRoom]) bound

theorem receive_takesIn (takes : link.session.TakesIn pdu) :
    (link.receive pdu).1 = .ok () ∧
      (link.receive pdu).2.session.vr = nextNumber link.session.vr ∧
        (link.receive pdu).2.pending = link.pending := by
  obtain ⟨connected, type, fits, sequence, numbered, expected, covered⟩ := takes
  rw [receive, Session.receive, connected, type]
  simp only [Session.receiveInformation, numbered]
  rw [if_neg (not_not.mpr expected), if_neg (by simp [covered]), if_neg (Nat.not_lt.mpr fits)]
  exact ⟨rfl, rfl, rfl⟩

/-- A numbered frame moves the receive number of a steady connection only where it is taken in. -/
theorem takesIn_of_moved (steady : link.Steady) (type : pdu.type = .i)
    (moved : (link.receive pdu).2.session.vr ≠ link.session.vr) : link.session.TakesIn pdu := by
  have reception := link.session.receive_reception link.address pdu
  unfold receive at moved
  generalize link.session.receive link.address pdu = transition at reception moved
  rcases link.commit_session transition with same | next
  · rw [same] at moved
    exact absurd rfl moved
  · rw [next] at moved
    cases reception with
    | ended silent =>
      rw [type] at silent
      rcases silent with kind | ⟨_, kind⟩ <;> cases kind
    | parted _ _ unexpected =>
      -- a session that is not connected has nothing but zeros to lose
      have unopened := steady.session.unopened
      have open_or := steady.continuing
      cases status : link.session.status with
      | disconnected => exact absurd (unopened (.inl status)).2.2.1.symm moved
      | connecting => exact absurd (unopened (.inr status)).2.2.1.symm moved
      | connected =>
        have plain := unexpected status
        rw [type] at plain
        cases plain
      | disconnecting => exact absurd status open_or
    | asked _ kind => rw [type] at kind; cases kind
    | granted _ _ kind => rw [type] at kind; cases kind
    | taken sequence connected _ numbered expected covered fits =>
      exact ⟨connected, type, fits, sequence, numbered, expected, covered⟩
    | ready _ kind => rw [type] at kind; rcases kind with kind | kind <;> cases kind
    | rejected => exact absurd rfl moved

theorem receive_unasked (type : pdu.type = .connect)
    (busy : link.session.status ≠ .disconnected) :
    (link.receive pdu).1 = .ok () ∧ (link.receive pdu).2.session.status = .disconnected := by
  have reception := link.session.receive_reception link.address pdu
  unfold receive
  generalize link.session.receive link.address pdu = transition at reception
  cases reception with
  | ended => exact ⟨rfl, rfl⟩
  | parted reason =>
    have done := link.commit_committed
      (.parting (Session.disconnectedFrame link.address reason) link.session.reset)
    generalize link.commit _ = outcome at done
    cases done with
    | parted => exact ⟨rfl, rfl⟩
    | dropped => exact ⟨rfl, rfl⟩
  | asked free => exact absurd free busy
  | granted _ _ kind => rw [type] at kind; cases kind
  | taken _ _ kind => rw [type] at kind; cases kind
  | ready _ kind => rw [type] at kind; rcases kind with kind | kind <;> cases kind
  | rejected _ _ kind => rw [type] at kind; cases kind

end DataLink

namespace LogicalLink

def connectionFor? (link : LogicalLink) (pdu : Pdu) : Option DataLink :=
  match pdu.type with
  | .connect =>
    match link.connectTarget pdu with
    | .ok (some sap) => link.links.get? ⟨sap, pdu.ssap⟩
    | _ => none
  | _ => link.links.get? ⟨pdu.dsap, pdu.ssap⟩

/-- Whether the octets of a PDU make a connection take a step that it cannot answer any more. -/
def StopsHalfway (link : LogicalLink) (bytes : Octets) : Prop :=
  ∃ pdu dataLink, Pdu.decode bytes = .ok pdu ∧ link.connectionFor? pdu = some dataLink ∧
    dataLink.StopsHalfway pdu

/-- Whether taking in a PDU fails and yet changes something. -/
def ChangedByFailure (before : LogicalLink) (outcome : Except Error Unit × LogicalLink) : Prop :=
  (∃ e, outcome.1 = .error e) ∧ outcome.2 ≠ before

theorem queueControl_atomic (link : LogicalLink) (pdu : Pdu) :
    ¬link.ChangedByFailure (link.queueControl pdu) := by
  rintro ⟨⟨e, failed⟩, changed⟩
  unfold queueControl at failed changed
  split at failed <;> rename_i eq
  · rw [eq] at changed
    exact changed rfl
  · cases failed

theorem receiveLookup_atomic (link : LogicalLink) (pdu : Pdu) :
    ¬link.ChangedByFailure (link.receiveLookup pdu) := by
  unfold receiveLookup
  split
  · exact fun halfway => halfway.2 rfl
  · split
    · exact fun halfway => halfway.2 rfl
    · split
      · exact fun halfway => halfway.2 rfl
      · exact queueControl_atomic link _

variable {link : LogicalLink} {pdu : Pdu}

theorem store_ne {address : LinkAddress} {before after : DataLink}
    (found : link.links.get? address = some before) (other : after ≠ before) :
    link.store address after ≠ link := by
  intro same
  have stored := Table.get?_insert_self link.links address after
  rw [show link.links.insert address after = link.links from congrArg links same, found] at stored
  exact other (Option.some.inj stored).symm

theorem receiveOnLink_changed (steady : link.Links DataLink.Steady) :
    link.ChangedByFailure (link.receiveOnLink pdu) ↔
      ∃ dataLink, link.links.get? ⟨pdu.dsap, pdu.ssap⟩ = some dataLink ∧
        dataLink.pending = queueDepth ∧ dataLink.session.TakesIn pdu := by
  unfold receiveOnLink
  simp only
  cases found : link.links.get? ⟨pdu.dsap, pdu.ssap⟩ with
  | none =>
    simp only [reduceCtorEq, false_and, exists_false, iff_false]
    split
    · exact fun halfway => halfway.2 rfl
    · exact queueControl_atomic link _
  | some before =>
    have good := steady _ before found
    simp only [Option.some.injEq, exists_eq_left']
    have same (e : Error) (failed : (before.receive pdu).1 = .error e) :
        (before.receive pdu).2 = before := DataLink.commit_error failed
    have moves (type : pdu.type = .i)
        (moved : (before.receive pdu).2.session.vr ≠ before.session.vr) :
        before.session.TakesIn pdu := DataLink.takesIn_of_moved good type moved
    have worked (takes : before.session.TakesIn pdu) := DataLink.receive_takesIn takes
    generalize before.receive pdu = outcome at same moves worked
    obtain ⟨result, after⟩ := outcome
    simp only at same moves worked
    cases result with
    | error e =>
      simp only [same e rfl, store, Table.insert_same found]
      constructor
      · exact fun halfway => absurd rfl halfway.2
      · rintro ⟨_, takes⟩
        cases (worked takes).1
    | ok =>
      simp only
      split
      · rename_i moved
        -- the frame was taken in, so only the acknowledgement can fail
        have takes := moves moved.1 moved.2
        obtain ⟨_, next, pending⟩ := worked takes
        have narrow : after.session.vr < 16 := next ▸ nextNumber_lt _
        have fails := DataLink.acknowledge_fails_iff narrow (pending ▸ good.pending_le)
        rw [pending] at fails
        constructor
        · exact fun halfway => ⟨fails.mp halfway.1, takes⟩
        · rintro ⟨full, _⟩
          obtain ⟨e, failed⟩ := fails.mpr full
          have kept : after.acknowledge.2 = after := DataLink.commit_error failed
          refine ⟨⟨e, failed⟩, store_ne found ?_⟩
          rw [kept]
          exact fun same => moved.2 (by rw [same])
      · rename_i still
        constructor
        · rintro ⟨⟨e, failed⟩, _⟩
          cases failed
        · rintro ⟨_, takes⟩
          refine absurd ⟨takes.2.1, ?_⟩ still
          rw [(worked takes).2.1]
          exact nextNumber_ne _

theorem receiveConnect_target {sap : Sap} (steady : link.Links DataLink.Steady)
    (type : pdu.type = .connect) (target : link.connectTarget pdu = .ok (some sap)) :
    link.ChangedByFailure (link.receiveConnect pdu) ↔
      ∃ dataLink, link.links.get? ⟨sap, pdu.ssap⟩ = some dataLink ∧
        dataLink.pending = queueDepth ∧ dataLink.session.status = .disconnected := by
  simp only [receiveConnect, target]
  have good := linkAt_keeps DataLink.offering_steady steady ⟨sap, pdu.ssap⟩
  by_cases free : (link.linkAt ⟨sap, pdu.ssap⟩).session.status = .disconnected
  · have asks := DataLink.receive_request free type
    generalize heard : (link.linkAt ⟨sap, pdu.ssap⟩).receive pdu = outcome at asks
    obtain ⟨result, after⟩ := outcome
    have pending : after.pending = (link.linkAt ⟨sap, pdu.ssap⟩).pending := by
      rw [(Prod.mk.inj asks).2]
      rfl
    have asked : after.session.status = .connecting ∧ after.session.initiator = false := by
      rw [(Prod.mk.inj asks).2]
      exact ⟨rfl, rfl⟩
    rw [(Prod.mk.inj asks).1]
    simp only [asked, Bool.not_false, and_self, if_true]
    have fails := DataLink.accept_fails_iff asked.1 asked.2 (pending ▸ good.pending_le)
    rw [pending] at fails
    constructor
    · intro halfway
      have full := fails.mp halfway.1
      cases found : link.links.get? ⟨sap, pdu.ssap⟩ with
      | none =>
        rw [linkAt, found] at full
        cases full
      | some before =>
        rw [linkAt, found] at full free
        exact ⟨before, rfl, full, free⟩
    · rintro ⟨before, found, full, _⟩
      have here : link.linkAt ⟨sap, pdu.ssap⟩ = before := by
        rw [linkAt, found]
        rfl
      obtain ⟨e, failed⟩ := fails.mpr (here ▸ full)
      have kept : after.accept.2 = after := by
        rw [DataLink.accept_asked _ asked.1 asked.2] at failed ⊢
        exact DataLink.commit_error failed
      refine ⟨⟨e, failed⟩, store_ne found ?_⟩
      rw [kept]
      intro same
      rw [here, ← same, asked.1] at free
      cases free
  · obtain ⟨worked, closed⟩ := DataLink.receive_unasked type free
    generalize (link.linkAt ⟨sap, pdu.ssap⟩).receive pdu = outcome at worked closed
    obtain ⟨result, after⟩ := outcome
    simp only at worked closed
    simp only [worked, closed, reduceCtorEq, false_and, if_false]
    constructor
    · rintro ⟨⟨e, failed⟩, _⟩
      cases failed
    · rintro ⟨before, found, _, disconnected⟩
      rw [linkAt, found] at free
      exact absurd disconnected free

theorem receiveConnect_changed (steady : link.Links DataLink.Steady) (type : pdu.type = .connect) :
    link.ChangedByFailure (link.receiveConnect pdu) ↔
      ∃ dataLink, link.connectionFor? pdu = some dataLink ∧
        dataLink.pending = queueDepth ∧ dataLink.session.status = .disconnected := by
  simp only [connectionFor?, type]
  cases target : link.connectTarget pdu with
  | error e =>
    simp only [receiveConnect, target]
    constructor
    · exact fun halfway => absurd rfl halfway.2
    · rintro ⟨_, missing, _⟩
      cases missing
  | ok choice =>
    cases choice with
    | none =>
      simp only [receiveConnect, target]
      constructor
      · exact fun halfway => absurd halfway (queueControl_atomic link _)
      · rintro ⟨_, missing, _⟩
        cases missing
    | some sap => exact receiveConnect_target steady type target

theorem receivePdu_changed (steady : link.Links DataLink.Steady) :
    link.ChangedByFailure (link.receivePdu pdu) ↔
      ∃ dataLink, link.connectionFor? pdu = some dataLink ∧ dataLink.StopsHalfway pdu := by
  by_cases asks : pdu.type = .connect
  · have connect : link.receivePdu pdu = link.receiveConnect pdu := by rw [receivePdu, asks]
    rw [connect, receiveConnect_changed steady asks]
    simp [DataLink.StopsHalfway, Session.TakesIn, asks]
  · have plain : link.connectionFor? pdu = link.links.get? ⟨pdu.dsap, pdu.ssap⟩ := by
      unfold connectionFor?
      split
      · exact absurd (by assumption) asks
      · rfl
    have takes (dataLink : DataLink) : dataLink.StopsHalfway pdu ↔
        dataLink.pending = queueDepth ∧ dataLink.session.TakesIn pdu := by
      simp [DataLink.StopsHalfway, asks]
    simp only [plain, takes]
    rw [← receiveOnLink_changed steady]
    have other (type : pdu.type ≠ .i) : ¬link.ChangedByFailure (link.receiveOnLink pdu) := by
      rw [receiveOnLink_changed steady]
      rintro ⟨_, _, _, takes⟩
      exact type takes.2.1
    unfold receivePdu
    cases type : pdu.type with
    | symm | ui | pax | agf =>
      exact iff_of_false (fun halfway => halfway.2 rfl) (other (by rw [type]; rintro ⟨⟩))
    | snl => exact iff_of_false (receiveLookup_atomic link pdu) (other (by rw [type]; rintro ⟨⟩))
    | connect => exact absurd type asks
    | _ => exact Iff.rfl

/-- A failure to take in a PDU leaves a logical link as it was, except exactly when the connection
that the PDU goes to has a full queue and either takes a numbered frame in or is asked for. -/
theorem receive_changed_iff (window : UInt8) (operations : List LogicalOperation)
    (bytes : Octets) :
    let link := (LogicalLink.new.offering window).operateAll operations
    link.ChangedByFailure (link.receive bytes) ↔ link.StopsHalfway bytes := by
  intro link
  have steady : link.Links DataLink.Steady := reachable_steady window operations
  unfold receive StopsHalfway
  cases read : Pdu.decode bytes with
  | error e =>
    constructor
    · exact fun halfway => absurd rfl halfway.2
    · rintro ⟨_, _, unread, _⟩
      cases unread
  | ok pdu =>
    rw [receivePdu_changed steady]
    simp

/-- After a request and thirty-one numbered frames that were all answered, the thirty-second is
taken in and a failure reported all the same. -/
theorem receive_changed_full_queue :
    let frames := (List.range 31).map fun count =>
      LogicalOperation.receive [0x13, 0x20, UInt8.ofNat (count % 16 * 16)]
    let link := LogicalLink.new.operateAll (.receive [0x11, 0x20] :: frames)
    (link.receive [0x13, 0x20, 0xf0]).1 = .error (.poolExhausted 32) ∧
      (link.receive [0x13, 0x20, 0xf0]).2 ≠ link := by
  intro frames link
  have failed : (link.receive [0x13, 0x20, 0xf0]).1 = .error (.poolExhausted 32) := by
    decide +kernel
  have before : (link.links.get? ⟨.masked 4, .masked 32⟩).map (·.session.vr) = some 15 := by
    decide +kernel
  have after : ((link.receive [0x13, 0x20, 0xf0]).2.links.get? ⟨.masked 4, .masked 32⟩).map
      (·.session.vr) = some 0 := by
    decide +kernel
  refine ⟨failed, fun same => ?_⟩
  rw [same, before] at after
  cases after

end LogicalLink

end NearField.Llcp
