import NearField.Proofs.Llcp.PlainQueue

/-!
Want of buffers. Main statement: a data link shows what a link with a plain list of at most
thirty-two frames shows; an operation fails for want of a buffer exactly when it would queue a frame
and the list is full, unless the peer ends the connection; and a link that was cleared cannot be
told from a new one.
-/

namespace NearField.Llcp

/-- A session that offers a window; its frames can be encoded. -/
structure Session.Offers (window : UInt8) (s : Session) : Prop where
  vs_lt : s.vs < 16
  vr_lt : s.vr < 16
  offered : s.localWindow = window &&& 0x0f

section Offers

variable {s : Session} {address : LinkAddress} {operation : LinkOperation}
  {transition : Transition} {window : UInt8}

theorem Session.offers_of_rest (vs : s.vs = 0) (vr : s.vr = 0)
    (offered : s.localWindow = window &&& 0x0f) : s.Offers window := by
  refine ⟨?_, ?_, offered⟩
  · rw [vs]
    decide
  · rw [vr]
    decide

theorem Session.negotiate_keeps (s : Session) (info : Octets) :
    ∃ miu remoteWindow, s.negotiate info = { s with miu, remoteWindow } := by
  unfold negotiate
  cases Param.parseAll info with
  | error e => exact ⟨s.miu, s.remoteWindow, rfl⟩
  | ok params =>
    simp only
    induction params generalizing s with
    | nil => exact ⟨s.miu, s.remoteWindow, rfl⟩
    | cons param params ih =>
      obtain ⟨miu, remoteWindow, eq⟩ := ih (s.apply param)
      rw [List.foldl_cons, eq]
      cases param <;> exact ⟨miu, remoteWindow, rfl⟩

theorem Session.leads_offers (offers : s.Offers window)
    (leads : Leads s address operation transition) : transition.next.Offers window := by
  obtain ⟨vs_lt, vr_lt, offered⟩ := offers
  cases leads with
  | connect | accept | disconnect | acknowledge => exact ⟨vs_lt, vr_lt, offered⟩
  | reject => exact Session.offers_of_rest rfl rfl offered
  | send => exact ⟨nextNumber_lt s.vs, vr_lt, offered⟩
  | receive pdu _ reception =>
    cases reception with
    | ended | parted => exact Session.offers_of_rest rfl rfl offered
    | asked | granted =>
      obtain ⟨miu, remoteWindow, eq⟩ := s.negotiate_keeps pdu.info
      rw [eq]
      exact ⟨vs_lt, vr_lt, offered⟩
    | taken => exact ⟨vs_lt, nextNumber_lt s.vr, offered⟩
    | ready | rejected => exact ⟨vs_lt, vr_lt, offered⟩

theorem Session.leads_encodes (offers : s.Offers window)
    (leads : Leads s address operation transition) {encoding : Except Error Octets}
    (sends : transition.frame? = some encoding) : ∃ frame, encoding = .ok frame := by
  cases leads with
  | connect | accept =>
    rw [Transition.frame?, Session.windowFrame_ok] at sends
    exact ⟨_, (Option.some.inj sends).symm⟩
  | reject =>
    rw [Transition.frame?, Session.disconnectedFrame_ok] at sends
    exact ⟨_, (Option.some.inj sends).symm⟩
  | disconnect =>
    have encoded : encodeHeader address.remoteSap .disc address.localSap =
        .ok (header address.remoteSap .disc address.localSap ++ []) :=
      encodeWithInfo_ok _ _ _ _ (by simp)
    exact ⟨_, (Option.some.inj sends).symm.trans encoded⟩
  | acknowledge =>
    rw [Session.acknowledge, Transition.frame?, encodeReady_ok _ _ offers.vr_lt] at sends
    exact ⟨_, (Option.some.inj sends).symm⟩
  | send data =>
    rw [Transition.frame?, encodeInformation_ok _ _ offers.vs_lt offers.vr_lt] at sends
    exact ⟨_, (Option.some.inj sends).symm⟩
  | receive pdu _ reception =>
    cases reception with
    | ended | asked | granted | taken | ready => cases sends
    | parted =>
      rw [Transition.frame?, Session.disconnectedFrame_ok] at sends
      exact ⟨_, (Option.some.inj sends).symm⟩
    | rejected =>
      rw [Session.refuse, Transition.frame?, Session.rejectFrame_ok] at sends
      exact ⟨_, (Option.some.inj sends).symm⟩

theorem DataLink.use_offers {link : DataLink} (offers : link.session.Offers window)
    (use : LinkUse) : (link.use use).session.Offers window := by
  have vs_lt := offers.vs_lt
  have vr_lt := offers.vr_lt
  have offered := offers.offered
  cases use with
  | write bytes => exact ⟨vs_lt, vr_lt, offered⟩
  | operate operation =>
    refine DataLink.operate_session offers (fun _ => Session.leads_offers offers) ?_ ?_
    · exact Session.offers_of_rest rfl rfl offered
    · exact fun count => ⟨vs_lt, vr_lt, offered⟩

theorem DataLink.useAll_offers {link : DataLink} (offers : link.session.Offers window)
    (uses : List LinkUse) : (link.useAll uses).session.Offers window := by
  induction uses generalizing link with
  | nil => exact offers
  | cons use uses ih => exact ih (DataLink.use_offers offers use)

end Offers

/-- The session moves on even if the frame finds no room. -/
def Transition.Parts : Transition → Prop
  | parting _ _ => True
  | _ => False

theorem Session.leads_parts {s : Session} {address : LinkAddress} {operation : LinkOperation}
    {transition : Transition} (leads : Leads s address operation transition)
    (sends : transition.frame? ≠ none) :
    transition.Parts ↔
      (∃ pdu, operation = .receive pdu) ∧ transition.next.status = .disconnected := by
  cases leads with
  | connect | accept | reject | disconnect | acknowledge | send =>
    simp [Transition.Parts, Session.acknowledge]
  | receive pdu _ reception =>
    cases reception with
    | ended | asked | granted | taken | ready => exact absurd rfl sends
    | parted => simp [Transition.Parts, Transition.next, Session.reset]
    | rejected _ connected => simp [Session.refuse, Transition.Parts, Transition.next, connected]

namespace PlainLink

variable {link : PlainLink} {transition : Transition}

theorem commit_idle (link : PlainLink)
    (encodes : ∀ encoding, transition.frame? = some encoding → ∃ frame, encoding = .ok frame) :
    (({ link with queue := [] } : PlainLink).commit transition).2.session = transition.next ∧
      ((({ link with queue := [] } : PlainLink).commit transition).2.queue ≠ [] ↔
        transition.frame? ≠ none) := by
  cases transition with
  | quiet next => simp [commit, Transition.commit, Transition.next, Transition.frame?]
  | sending encoding next | parting encoding next =>
    obtain ⟨frame, rfl⟩ := encodes encoding rfl
    simp [commit, Transition.commit, push, queueDepth, Except.map, Transition.next,
      Transition.frame?]

theorem commit_exhausted
    (encodes : ∀ encoding, transition.frame? = some encoding → ∃ frame, encoding = .ok frame) :
    (link.commit transition).1 = .error (.poolExhausted queueDepth) ↔
      queueDepth ≤ link.queue.length ∧ transition.frame? ≠ none ∧ ¬transition.Parts := by
  cases transition with
  | quiet next => simp [commit, Transition.commit, Transition.frame?]
  | sending encoding next =>
    obtain ⟨frame, rfl⟩ := encodes encoding rfl
    by_cases full : queueDepth ≤ link.queue.length <;>
      simp [commit, Transition.commit, push, full, Except.map, Transition.frame?, Transition.Parts]
  | parting encoding next =>
    obtain ⟨frame, rfl⟩ := encodes encoding rfl
    by_cases full : queueDepth ≤ link.queue.length <;>
      simp [commit, Transition.commit, push, full, Except.map, Transition.Parts]

/-- A use carries out a transition, or it has no frame to queue; which of the two does not depend on
the frames that wait. -/
inductive Acts (address : LinkAddress) (session : Session) (use : LinkUse) : Prop where
  | carriesOut {operation : LinkOperation} {transition : Transition}
      (operates : use = .operate operation) (leads : Leads session address operation transition)
      (after : ∀ queue, (serve ⟨address, session, queue⟩ use).2 =
        (commit ⟨address, session, queue⟩ transition).2)
      (exhausted : ∀ queue, (serve ⟨address, session, queue⟩ use).1.Exhausted ↔
        (commit ⟨address, session, queue⟩ transition).1 = .error (.poolExhausted queueDepth))
  | silent (sober : ∀ queue, ¬(serve ⟨address, session, queue⟩ use).1.Exhausted)
      (still : (serve ⟨address, session, []⟩ use).2.queue = [])

section Acts

variable (address : LinkAddress) (session : Session)

theorem perform_acts {operation : LinkOperation} (transition : Except Error Transition)
    (performs : ∀ queue, serve ⟨address, session, queue⟩ (.operate operation) =
      perform ⟨address, session, queue⟩ transition)
    (leads : ∀ next, transition = .ok next → Leads session address operation next)
    (sober : transition ≠ .error (.poolExhausted queueDepth)) :
    Acts address session (.operate operation) := by
  cases transition with
  | error e =>
    refine .silent (fun queue => ?_) ?_
    · rw [performs]
      simpa [perform, LinkResult.Exhausted] using sober
    · rw [performs]
      rfl
  | ok next =>
    refine .carriesOut rfl (leads next rfl) (fun queue => ?_) fun queue => ?_
    · rw [performs]
      rfl
    · rw [performs]
      simp [perform, LinkResult.Exhausted]

theorem send_acts (data : Octets) : Acts address session (.operate (.send data)) := by
  cases sent : session.send address data with
  | error e =>
    have sober : e ≠ .poolExhausted queueDepth := by
      rintro rfl
      unfold Session.send at sent
      split at sent
      · cases sent
      · split at sent
        · cases sent
        · split at sent <;> cases sent
    refine .silent (fun queue => ?_) ?_
    · simpa [serve, sent, LinkResult.Exhausted] using sober
    · simp [serve, sent]
  | ok choice =>
    cases choice with
    | none =>
      refine .silent (fun queue => ?_) ?_
      · simp [serve, sent, LinkResult.Exhausted]
      · simp [serve, sent]
    | some next =>
      refine .carriesOut rfl (Session.send_leads sent) (fun queue => ?_) fun queue => ?_
      · simp [serve, sent]
      · simp only [serve, sent, LinkResult.Exhausted, reduceCtorEq, false_or,
          LinkResult.sent.injEq]
        cases (commit ⟨address, session, queue⟩ next).1 <;> simp [Except.map]

theorem use_acts (use : LinkUse) : Acts address session use := by
  cases use with
  | write bytes =>
    exact .silent (fun _ => by simp [serve, LinkResult.Exhausted]) rfl
  | operate operation =>
    cases operation with
    | connect =>
      refine perform_acts address session (session.connect address) (fun _ => rfl)
        (fun _ => Session.connect_leads) ?_
      unfold Session.connect
      split <;> simp
    | accept =>
      refine perform_acts address session (session.accept address) (fun _ => rfl)
        (fun _ => Session.accept_leads) ?_
      unfold Session.accept
      split <;> simp
    | reject =>
      refine perform_acts address session (session.reject address) (fun _ => rfl)
        (fun _ => Session.reject_leads) ?_
      unfold Session.reject
      split <;> simp
    | disconnect =>
      refine perform_acts address session (session.disconnect address) (fun _ => rfl)
        (fun _ => Session.disconnect_leads) ?_
      unfold Session.disconnect
      split <;> simp
    | acknowledge =>
      refine perform_acts address session (.ok (session.acknowledge address)) (fun _ => rfl)
        (fun next led => ?_) (by simp)
      cases led
      exact .acknowledge
    | receive pdu =>
      refine perform_acts address session (.ok (session.receive address pdu)) (fun _ => rfl)
        (fun next led => ?_) (by simp)
      cases led
      exact .receive pdu _ (session.receive_reception address pdu)
    | send data => exact send_acts address session data
    | next =>
      refine .silent (fun queue => ?_) rfl
      cases queue <;> simp [serve, LinkResult.Exhausted]
    | clear | consume => exact .silent (fun _ => by simp [serve, LinkResult.Exhausted]) rfl

end Acts

/-- A use fails for want of a buffer if it has a frame to queue and thirty-two wait, unless it is a
PDU by which the peer ends the connection. -/
theorem exhausted_iff (link : PlainLink) {window : UInt8}
    (offers : link.session.Offers window) (use : LinkUse) :
    (link.serve use).1.Exhausted ↔
      queueDepth ≤ link.queue.length ∧ link.WouldQueue use ∧ ¬link.EndedByPeer use := by
  cases use_acts link.address link.session use with
  | silent sober still =>
    have idle : ¬link.WouldQueue use := fun queues => queues still
    exact ⟨fun exhausted => absurd exhausted (sober link.queue),
      fun conditions => absurd conditions.2.1 idle⟩
  | @carriesOut operation transition operates leads after exhausted =>
    have encodes (encoding : Except Error Octets) (sends : transition.frame? = some encoding) :
        ∃ frame, encoding = .ok frame := Session.leads_encodes offers leads sends
    obtain ⟨moved, queued⟩ := commit_idle link encodes
    have ended : link.EndedByPeer use ↔
        (∃ pdu, operation = .receive pdu) ∧ transition.next.status = .disconnected := by
      rw [EndedByPeer, after [], moved, operates]
      simp
    rw [WouldQueue, after [], queued, ended]
    refine (exhausted link.queue).trans ((commit_exhausted encodes).trans ?_)
    refine and_congr_right fun _ => and_congr_right fun sends => ?_
    rw [Session.leads_parts leads sends]

theorem ended_dropped (link : PlainLink) {window : UInt8}
    (offers : link.session.Offers window) {use : LinkUse}
    (full : queueDepth ≤ link.queue.length) (queues : link.WouldQueue use)
    (ended : link.EndedByPeer use) :
    (link.serve use).1 = .done (.ok ()) ∧ (link.serve use).2.queue = link.queue ∧
      (link.serve use).2.session.status = .disconnected := by
  obtain ⟨⟨pdu, rfl⟩, closed⟩ := ended
  have leads : Leads link.session link.address (.receive pdu)
      (link.session.receive link.address pdu) :=
    .receive pdu _ (link.session.receive_reception link.address pdu)
  obtain ⟨moved, queued⟩ :=
    commit_idle link fun _ => Session.leads_encodes offers leads
  have stops : (link.session.receive link.address pdu).next.status = .disconnected := by
    rw [← moved]
    exact closed
  have parts := (Session.leads_parts leads (queued.mp queues)).mpr ⟨⟨pdu, rfl⟩, stops⟩
  rw [serve]
  generalize link.session.receive link.address pdu = transition at parts stops
  cases transition with
  | quiet | sending => cases parts
  | parting frame next =>
    have refused : push link.queue frame = .error (.poolExhausted queueDepth) := if_pos full
    have dropped : link.perform (.ok (.parting frame next)) =
        (.done (.ok ()), { link with session := next }) := by
      simp only [perform, commit, Transition.commit, refused]
    rw [dropped]
    exact ⟨rfl, rfl, stops⟩

end PlainLink

namespace DataLink

variable {link : DataLink}

theorem use_pending (bound : link.pending ≤ queueDepth) (use : LinkUse) :
    (link.use use).pending ≤ queueDepth := by
  cases use with
  | write bytes => exact bound
  | operate operation => exact operate_pending bound operation

theorem use_address (link : DataLink) (use : LinkUse) : (link.use use).address = link.address := by
  cases use with
  | write bytes => rfl
  | operate operation => exact link.operate_address operation

theorem useAll_pending (bound : link.pending ≤ queueDepth) (uses : List LinkUse) :
    (link.useAll uses).pending ≤ queueDepth := by
  induction uses generalizing link with
  | nil => exact bound
  | cons use uses ih => exact ih (use_pending bound use)

theorem useAll_address (link : DataLink) (uses : List LinkUse) :
    (link.useAll uses).address = link.address := by
  induction uses generalizing link with
  | nil => rfl
  | cons use uses ih => exact (ih (link.use use)).trans (link.use_address use)

theorem clear_plain {window : UInt8} (offers : link.session.Offers window) :
    link.clear.plain = .offering link.address window := by
  have cleared : link.clear.plain = (link.plain.serve (.operate .clear)).2 := by
    rw [serve_plain]
    rfl
  rw [cleared, PlainLink.offering, Session.offering, ← offers.offered]
  rfl

/-- Whatever a data link was used for, it shows what a link with a plain list of frames shows; the
pool counts the frames that wait, and its spare buffers are blank. A use fails for want of a buffer
exactly if it has a frame to queue and thirty-two wait, unless the peer ends the connection by it:
then the frame is dropped. A link that is cleared cannot be told from a new one. -/
theorem queue_is_plain (address : LinkAddress) (window : UInt8) (uses : List LinkUse) :
    let link := (DataLink.offering address window).useAll uses
    (DataLink.offering address window).trace uses =
      (PlainLink.offering address window).trace uses ∧
    link.queue.pool.outstanding = link.pending ∧ link.pending ≤ queueDepth ∧
    (∀ buffer ∈ link.queue.pool.spare, buffer = .blank) ∧
    (∀ use, (link.result use).Exhausted ↔
      link.pending = queueDepth ∧ link.plain.WouldQueue use ∧ ¬link.plain.EndedByPeer use) ∧
    (∀ use, link.pending = queueDepth → link.plain.WouldQueue use → link.plain.EndedByPeer use →
      link.result use = .done (.ok ()) ∧ (link.use use).queue.toList = link.queue.toList ∧
        (link.use use).session.status = .disconnected) ∧
    link.clear.plain = (DataLink.offering address window).plain ∧
    ∀ later, link.clear.trace later = (DataLink.offering address window).trace later := by
  intro link
  have offers : link.session.Offers window :=
    useAll_offers (Session.offers_of_rest rfl rfl rfl) uses
  have bound : link.pending ≤ queueDepth := useAll_pending (Nat.zero_le _) uses
  have size : link.plain.queue.length = link.pending := link.queue.size_eq.symm
  have cleared : link.clear.plain = (DataLink.offering address window).plain := by
    rw [clear_plain offers, useAll_address]
    rfl
  refine ⟨trace_plain _ uses, link.queue.outstanding_eq, bound, link.queue.spare_blank, ?_, ?_,
    cleared, ?_⟩
  · intro use
    have exhausted := PlainLink.exhausted_iff link.plain offers use
    rw [serve_plain, size] at exhausted
    refine exhausted.trans (and_congr_left fun _ => ?_)
    exact ⟨fun full => Nat.le_antisymm bound full, fun full => Nat.le_of_eq full.symm⟩
  · intro use full queues ended
    have room : queueDepth ≤ link.plain.queue.length := Nat.le_of_eq (full.symm.trans size.symm)
    have dropped := PlainLink.ended_dropped link.plain offers room queues ended
    rw [serve_plain] at dropped
    exact dropped
  · intro later
    rw [trace_plain, cleared, trace_plain]

/-- Thirty-two frames wait when the peer disconnects: the connection is gone and no answer waits. -/
theorem full_disconnected :
    let address : LinkAddress := ⟨.masked 4, .masked 32⟩
    let request : Pdu := { dsap := .masked 4, type := .connect, ssap := .masked 32 }
    let goodbye : LinkUse :=
      .operate (.receive { dsap := .masked 4, type := .disc, ssap := .masked 32 })
    let uses : List LinkUse := .operate (.receive request) :: .operate .accept ::
      List.replicate 31 (.operate .acknowledge)
    let link := (DataLink.offering address 4).useAll uses
    link.pending = queueDepth ∧ link.plain.WouldQueue goodbye ∧
      link.plain.EndedByPeer goodbye ∧
      link.result goodbye = .done (.ok ()) ∧
      (link.use goodbye).queue.toList = link.queue.toList ∧
      (link.use goodbye).session.status = .disconnected := by
  intro address request goodbye uses
  obtain ⟨_, _, _, _, _, dropped, _⟩ := queue_is_plain address 4 uses
  have full : ((DataLink.offering address 4).useAll uses).pending = queueDepth := by
    decide +kernel
  have queues : ((DataLink.offering address 4).useAll uses).plain.WouldQueue goodbye := by
    unfold PlainLink.WouldQueue
    decide +kernel
  have ended : ((DataLink.offering address 4).useAll uses).plain.EndedByPeer goodbye :=
    ⟨⟨_, rfl⟩, by decide +kernel⟩
  exact ⟨full, queues, ended, dropped goodbye full queues ended⟩

/-- Thirty-two frames wait and a further one would be queued, and yet the operation succeeds. -/
theorem full_unnoticed :
    let address : LinkAddress := ⟨.masked 4, .masked 32⟩
    let request : Pdu := { dsap := .masked 4, type := .connect, ssap := .masked 32 }
    let goodbye : LinkUse :=
      .operate (.receive { dsap := .masked 4, type := .disc, ssap := .masked 32 })
    let link := (DataLink.offering address 4).useAll (.operate (.receive request) ::
      .operate .accept :: List.replicate 31 (.operate .acknowledge))
    link.pending = queueDepth ∧ link.plain.WouldQueue goodbye ∧
      ¬(link.result goodbye).Exhausted := by
  intro address request goodbye link
  have succeeded : link.result goodbye = .done (.ok ()) := by decide +kernel
  refine ⟨by decide +kernel, ?_, ?_⟩
  · unfold PlainLink.WouldQueue
    decide +kernel
  · rw [succeeded]
    rintro (failed | failed) <;> cases failed

end DataLink

end NearField.Llcp
