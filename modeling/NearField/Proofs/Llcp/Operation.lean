import NearField.Proofs.Llcp.ReceiveBuffer
import NearField.Proofs.Llcp.Transition

/-!
Everything that an application or a peer can do with one end of a connection, as data. Main
statements: an operation leaves the link as it was, or carries out one transition that the session
allows, or touches only the queue or the receive buffer.
-/

namespace NearField.Llcp

inductive LinkOperation where
  | connect | accept | reject | disconnect | acknowledge | next | clear
  | send (data : Octets)
  | consume (count : Nat)
  | receive (pdu : Pdu)
deriving DecidableEq

/-- A PDU whose numbers fit four bits each, as those read from octets do. -/
def Pdu.Numbered (pdu : Pdu) : Prop :=
  ∀ sequence, pdu.sequence = some sequence → sequence.ns < 16 ∧ sequence.nr < 16

def LinkOperation.WellFormed : LinkOperation → Prop
  | receive pdu => pdu.Numbered
  | _ => True

def DataLink.operate (link : DataLink) : LinkOperation → DataLink
  | .connect => link.connect.2
  | .accept => link.accept.2
  | .reject => link.reject.2
  | .disconnect => link.disconnect.2
  | .acknowledge => link.acknowledge.2
  | .next => link.next.2
  | .clear => link.clear
  | .send data => (link.send data).2
  | .consume count => (link.consumeReceived count).2
  | .receive pdu => (link.receive pdu).2

def DataLink.operateAll (link : DataLink) (operations : List LinkOperation) : DataLink :=
  operations.foldl DataLink.operate link

/-- The transitions that operations lead to where the session allows them. -/
inductive Leads (s : Session) (address : LinkAddress) : LinkOperation → Transition → Prop
  | connect (free : s.status = .disconnected) :
      Leads s address .connect (.sending (s.windowFrame address .connect)
        { s with status := .connecting, initiator := true })
  | accept (asked : s.status = .connecting) (peer : s.initiator = false) :
      Leads s address .accept (.sending (s.windowFrame address .cc) { s with status := .connected })
  | reject (asked : s.status = .connecting) (peer : s.initiator = false) :
      Leads s address .reject (.sending (Session.disconnectedFrame address .rejected) s.reset)
  | disconnect (connected : s.status = .connected) :
      Leads s address .disconnect
        (.sending (encodeHeader address.remoteSap .disc address.localSap)
          { s with status := .disconnecting })
  | acknowledge : Leads s address .acknowledge (s.acknowledge address)
  | send (data : Octets) (connected : s.status = .connected) (short : data.length ≤ s.maxInfo)
      (ready : s.remoteBusy = false) (room : s.outstanding < s.remoteWindow) :
      Leads s address (.send data) (.sending
        (do
          let head ← encodeInformation address.remoteSap address.localSap s.vs s.vr
          return head ++ data)
        { s with vs := nextNumber s.vs })
  | receive (pdu : Pdu) (transition : Transition) (reception : Reception s address pdu transition) :
      Leads s address (.receive pdu) transition

/-- How an operation can change a link. -/
inductive Operated (link : DataLink) : LinkOperation → DataLink → Prop
  | still (operation : LinkOperation) : Operated link operation link
  | moved (operation : LinkOperation) (transition : Transition)
      (leads : Leads link.session link.address operation transition) :
      Operated link operation (link.commit transition).2
  | popped (frame : Octets) (queue : TransmitQueue)
      (first : link.queue.toList = frame :: queue.toList) :
      Operated link .next { link with queue }
  | cleared : Operated link .clear link.clear
  | consumed (count : Nat) : Operated link (.consume count) (link.consumeReceived count).2

section Leads

variable {s : Session} {address : LinkAddress} {transition : Transition}

theorem Session.connect_leads (ok : s.connect address = .ok transition) :
    Leads s address .connect transition := by
  unfold Session.connect at ok
  split at ok
  · cases ok
  · rename_i free
    cases ok
    exact .connect (not_not.mp free)

theorem Session.accept_leads (ok : s.accept address = .ok transition) :
    Leads s address .accept transition := by
  unfold Session.accept at ok
  split at ok
  · cases ok
  · rename_i asked
    cases ok
    rw [not_or, not_not, Bool.not_eq_true] at asked
    exact .accept asked.1 asked.2

theorem Session.reject_leads (ok : s.reject address = .ok transition) :
    Leads s address .reject transition := by
  unfold Session.reject at ok
  split at ok
  · cases ok
  · rename_i asked
    cases ok
    rw [not_or, not_not, Bool.not_eq_true] at asked
    exact .reject asked.1 asked.2

theorem Session.disconnect_leads (ok : s.disconnect address = .ok transition) :
    Leads s address .disconnect transition := by
  unfold Session.disconnect at ok
  split at ok
  · cases ok
  · rename_i connected
    cases ok
    exact .disconnect (not_not.mp connected)

end Leads

theorem Session.send_leads {s : Session} {address : LinkAddress} {data : Octets}
    {transition : Transition} (ok : s.send address data = .ok (some transition)) :
    Leads s address (.send data) transition := by
  unfold Session.send at ok
  split at ok
  · cases ok
  · rename_i connected
    split at ok
    · cases ok
    · rename_i short
      split at ok
      · cases ok
      · rename_i free
        cases ok
        simp only [not_or, Bool.not_eq_true, UInt8.not_le] at free
        exact .send data (not_not.mp connected) (Nat.not_lt.mp short) free.1 free.2

theorem DataLink.send_sent (link : DataLink) (data : Octets) :
    (link.send data).1 ≠ .ok true ∧ (link.send data).2 = link ∨
      (link.send data).1 = .ok true ∧ link.session.outstanding < link.session.remoteWindow ∧
        data.length ≤ link.session.maxInfo ∧
        ∃ head queue, encodeInformation link.address.remoteSap link.address.localSap
            link.session.vs link.session.vr = .ok head ∧
          queue.toList = link.queue.toList ++ [head ++ data] ∧
          (link.send data).2 =
            { link with
              session := { link.session with vs := nextNumber link.session.vs }
              queue } := by
  cases sent : link.session.send link.address data with
  | error e =>
    rw [DataLink.send, sent]
    exact .inl ⟨nofun, rfl⟩
  | ok choice =>
    cases choice with
    | none =>
      rw [DataLink.send, sent]
      exact .inl ⟨by simp, rfl⟩
    | some transition =>
      have eq : link.send data =
          ((link.commit transition).1.map fun _ => true, (link.commit transition).2) := by
        rw [DataLink.send, sent]
      have done := link.commit_committed transition
      rw [eq]
      generalize link.commit transition = outcome at done
      cases Session.send_leads sent with
      | send data connected short ready room =>
        cases done with
        | refused => exact .inl ⟨nofun, rfl⟩
        | queued _ _ queue pushed =>
          obtain ⟨_, frame, encoded, _, listed⟩ := TransmitQueue.push_ok pushed
          cases head : encodeInformation link.address.remoteSap link.address.localSap
              link.session.vs link.session.vr with
          | error e =>
            rw [head] at encoded
            cases encoded
          | ok octets =>
            rw [head] at encoded
            cases encoded
            exact .inr ⟨rfl, room, short, octets, queue, rfl, listed, rfl⟩

theorem DataLink.acknowledge_sent (link : DataLink) :
    link.acknowledge.2 = link ∨
      ∃ frame queue, encodeReceiveReady .rr link.address.remoteSap link.address.localSap
          link.session.vr = .ok frame ∧
        queue.toList = link.queue.toList ++ [frame] ∧
        link.acknowledge.2 =
          { link with session := { link.session with vra := link.session.vr }, queue } := by
  have done := link.commit_committed (link.session.acknowledge link.address)
  unfold DataLink.acknowledge
  generalize link.commit _ = outcome at done
  cases done with
  | refused => exact .inl rfl
  | queued _ _ queue pushed =>
    obtain ⟨_, frame, encoded, _, listed⟩ := TransmitQueue.push_ok pushed
    exact .inr ⟨frame, queue, encoded, listed, rfl⟩

theorem DataLink.next_eq (link : DataLink) :
    (link.queue.toList = [] ∧ link.next = (none, link)) ∨
      ∃ frame queue, link.queue.toList = frame :: queue.toList ∧
        link.next = (some frame, { link with queue }) := by
  have listed := link.queue.pop_eq
  cases popped : link.queue.pop with
  | none =>
    rw [popped] at listed
    refine .inl ⟨?_, by rw [DataLink.next, popped]⟩
    split at listed
    · assumption
    · cases listed
  | some taken =>
    obtain ⟨frame, queue⟩ := taken
    rw [popped] at listed
    refine .inr ⟨frame, queue, ?_, by rw [DataLink.next, popped]⟩
    split at listed
    · cases listed
    · rename_i first rest eq
      cases listed
      exact eq

theorem DataLink.consumeReceived_link (link : DataLink) (count : Nat) :
    (link.consumeReceived count).2 = { link with session :=
      { link.session with received := (link.session.received.consume count).2 } } := by
  unfold DataLink.consumeReceived
  generalize link.session.received.consume count = consumed
  rfl

theorem DataLink.writeReceived_link (link : DataLink) (bytes : Octets) :
    (link.writeReceived bytes).2 = { link with session :=
      { link.session with received := (link.session.received.write bytes).2 } } := by
  unfold DataLink.writeReceived
  generalize link.session.received.write bytes = written
  rfl

/-- Every operation changes a link in one of five ways. -/
theorem DataLink.operate_operated (link : DataLink) (operation : LinkOperation) :
    Operated link operation (link.operate operation) := by
  have still (operation : LinkOperation) : Operated link operation link := .still operation
  have moves (operation : LinkOperation) (transition : Transition)
      (leads : Leads link.session link.address operation transition) :
      Operated link operation (link.commit transition).2 := .moved operation transition leads
  cases operation with
  | connect =>
    by_cases free : link.session.status = .disconnected
    · simpa [DataLink.operate, DataLink.connect, DataLink.perform, Session.connect, free]
        using moves _ _ (.connect free)
    · simpa [DataLink.operate, DataLink.connect, DataLink.perform, Session.connect, free]
        using still .connect
  | accept =>
    by_cases asked : link.session.status ≠ .connecting ∨ link.session.initiator
    · simpa [DataLink.operate, DataLink.accept, DataLink.perform, Session.accept, asked]
        using still .accept
    · have asking : link.session.status = .connecting ∧ link.session.initiator = false := by
        simpa using asked
      simpa [DataLink.operate, DataLink.accept, DataLink.perform, Session.accept, asking]
        using moves _ _ (.accept asking.1 asking.2)
  | reject =>
    by_cases asked : link.session.status ≠ .connecting ∨ link.session.initiator
    · simpa [DataLink.operate, DataLink.reject, DataLink.perform, Session.reject, asked]
        using still .reject
    · have asking : link.session.status = .connecting ∧ link.session.initiator = false := by
        simpa using asked
      simpa [DataLink.operate, DataLink.reject, DataLink.perform, Session.reject, asking]
        using moves _ _ (.reject asking.1 asking.2)
  | disconnect =>
    by_cases connected : link.session.status = .connected
    · simpa [DataLink.operate, DataLink.disconnect, DataLink.perform, Session.disconnect, connected]
        using moves _ _ (.disconnect connected)
    · simpa [DataLink.operate, DataLink.disconnect, DataLink.perform, Session.disconnect, connected]
        using still .disconnect
  | acknowledge => exact .moved _ _ .acknowledge
  | next =>
    rcases link.next_eq with ⟨_, eq⟩ | ⟨frame, queue, first, eq⟩
    · simpa [DataLink.operate, eq] using still .next
    · simpa [DataLink.operate, eq] using Operated.popped frame queue first
  | clear => exact .cleared
  | send data =>
    simp only [DataLink.operate, DataLink.send]
    cases sent : link.session.send link.address data with
    | error e => exact .still _
    | ok choice =>
      cases choice with
      | none => exact .still _
      | some transition => exact .moved _ _ (Session.send_leads sent)
  | consume count => exact .consumed count
  | receive pdu => exact .moved _ _ (.receive pdu _ (link.session.receive_reception _ pdu))

/-- What holds of a session and of every session that an operation leads it to holds after the
operation. -/
theorem DataLink.operate_session {P : Session → Prop} {link : DataLink} {operation : LinkOperation}
    (before : P link.session)
    (leads : ∀ transition, Leads link.session link.address operation transition →
      P transition.next)
    (renewed : P link.session.renew)
    (consumed : ∀ count, P { link.session with
      received := (link.session.received.consume count).2 }) :
    P (link.operate operation).session := by
  have operated := link.operate_operated operation
  generalize link.operate operation = after at operated
  cases operated with
  | still => exact before
  | popped => exact before
  | cleared => exact renewed
  | consumed count =>
    rw [DataLink.consumeReceived_link]
    exact consumed count
  | moved _ transition led =>
    rcases link.commit_session transition with same | next
    · rw [same]
      exact before
    · rw [next]
      exact leads transition led

theorem DataLink.commit_address (link : DataLink) (transition : Transition) :
    (link.commit transition).2.address = link.address := rfl

theorem DataLink.operate_address (link : DataLink) (operation : LinkOperation) :
    (link.operate operation).address = link.address := by
  have operated := link.operate_operated operation
  generalize link.operate operation = after at operated
  cases operated with
  | moved _ transition => exact link.commit_address transition
  | consumed count => rw [DataLink.consumeReceived_link]
  | still | popped | cleared => rfl

theorem DataLink.connect_free (link : DataLink) (free : link.session.status = .disconnected) :
    link.connect = link.commit (.sending
      (.ok (header link.address.remoteSap .connect link.address.localSap ++
        [0x05, 0x01, link.session.localWindow &&& 0x0f]))
      { link.session with status := .connecting, initiator := true }) := by
  rw [DataLink.connect, Session.connect, if_neg (not_not.mpr free), Session.windowFrame_ok]
  rfl

theorem DataLink.accept_asked (link : DataLink) (asked : link.session.status = .connecting)
    (peer : link.session.initiator = false) :
    link.accept = link.commit (.sending
      (.ok (header link.address.remoteSap .cc link.address.localSap ++
        [0x05, 0x01, link.session.localWindow &&& 0x0f]))
      { link.session with status := .connected }) := by
  rw [DataLink.accept, Session.accept, if_neg (by simp [asked, peer]), Session.windowFrame_ok]
  rfl

theorem DataLink.receive_request {link : DataLink} {pdu : Pdu}
    (free : link.session.status = .disconnected) (type : pdu.type = .connect) :
    link.receive pdu = (.ok (), { link with session := { link.session.negotiate pdu.info with
      status := .connecting, initiator := false } }) := by
  rw [DataLink.receive, Session.receive, free, type]
  rfl

theorem DataLink.receive_grant {link : DataLink} {pdu : Pdu}
    (waiting : link.session.status = .connecting) (own : link.session.initiator = true)
    (type : pdu.type = .cc) :
    link.receive pdu = (.ok (), { link with session := { link.session.negotiate pdu.info with
      status := .connected } }) := by
  rw [DataLink.receive, Session.receive, waiting, type]
  simp only [own]
  rfl

end NearField.Llcp
