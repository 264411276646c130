import NearField.Proofs.Llcp.Negotiation
import NearField.Proofs.Llcp.Outbound

/-!
Data links whose frames wait in a plain list instead of buffers of a pool. Main statement: a data
link and its plain counterpart give the same results and stay counterparts, whatever they are used
for.
-/

namespace NearField.Llcp

inductive LinkResult where
  | done (outcome : Except Error Unit)
  | sent (outcome : Except Error Bool)
  | popped (frame : Option Octets)
  | moved (count : Nat)
deriving DecidableEq

def LinkResult.Exhausted (result : LinkResult) : Prop :=
  result = done (.error (.poolExhausted queueDepth)) ∨
    result = sent (.error (.poolExhausted queueDepth))

/-- What there is to be seen of a link after a use: what it gave back, the session, how many frames
wait and the first of them. -/
structure Seen where
  result : LinkResult
  session : Session
  pending : Nat
  peeked : Option Octets

/-- One end of a data link connection whose frames wait in a list. -/
structure PlainLink where
  address : LinkAddress
  session : Session
  queue : List Octets

namespace PlainLink

def offering (address : LinkAddress) (window : UInt8) : PlainLink :=
  ⟨address, .offering window, []⟩

def push (queue : List Octets) (encoding : Except Error Octets) : Except Error (List Octets) :=
  if queueDepth ≤ queue.length then .error (.poolExhausted queueDepth)
  else encoding.map fun frame => queue ++ [frame]

def commit (link : PlainLink) (transition : Transition) : Except Error Unit × PlainLink :=
  let (result, session, queue) := transition.commit push link.session link.queue
  (result, { link with session, queue })

def perform (link : PlainLink) (transition : Except Error Transition) : LinkResult × PlainLink :=
  match transition with
  | .error e => (.done (.error e), link)
  | .ok transition =>
    let (result, link) := link.commit transition
    (.done result, link)

def serve (link : PlainLink) : LinkUse → LinkResult × PlainLink
  | .operate .connect => link.perform (link.session.connect link.address)
  | .operate .accept => link.perform (link.session.accept link.address)
  | .operate .reject => link.perform (link.session.reject link.address)
  | .operate .disconnect => link.perform (link.session.disconnect link.address)
  | .operate .acknowledge => link.perform (.ok (link.session.acknowledge link.address))
  | .operate (.receive pdu) => link.perform (.ok (link.session.receive link.address pdu))
  | .operate (.send data) =>
    match link.session.send link.address data with
    | .error e => (.sent (.error e), link)
    | .ok none => (.sent (.ok false), link)
    | .ok (some transition) =>
      let (result, link) := link.commit transition
      (.sent (result.map fun _ => true), link)
  | .operate .next =>
    match link.queue with
    | [] => (.popped none, link)
    | frame :: queue => (.popped (some frame), { link with queue })
  | .operate .clear => (.done (.ok ()), { link with session := link.session.renew, queue := [] })
  | .operate (.consume count) =>
    let (taken, received) := link.session.received.consume count
    (.moved taken, { link with session := { link.session with received } })
  | .write bytes =>
    let (count, received) := link.session.received.write bytes
    (.moved count, { link with session := { link.session with received } })

def trace (link : PlainLink) : List LinkUse → List Seen
  | [] => []
  | use :: uses =>
    let (result, link) := link.serve use
    ⟨result, link.session, link.queue.length, link.queue.head?⟩ :: link.trace uses

/-- The use has a frame to queue: it does so where none waits. -/
def WouldQueue (link : PlainLink) (use : LinkUse) : Prop :=
  (({ link with queue := [] } : PlainLink).serve use).2.queue ≠ []

/-- The use is a PDU from the peer that leaves the link disconnected. -/
def EndedByPeer (link : PlainLink) (use : LinkUse) : Prop :=
  (∃ pdu, use = .operate (.receive pdu)) ∧
    (({ link with queue := [] } : PlainLink).serve use).2.session.status = .disconnected

end PlainLink

namespace DataLink

def result (link : DataLink) : LinkUse → LinkResult
  | .operate .connect => .done link.connect.1
  | .operate .accept => .done link.accept.1
  | .operate .reject => .done link.reject.1
  | .operate .disconnect => .done link.disconnect.1
  | .operate .acknowledge => .done link.acknowledge.1
  | .operate (.receive pdu) => .done (link.receive pdu).1
  | .operate (.send data) => .sent (link.send data).1
  | .operate .next => .popped link.next.1
  | .operate .clear => .done (.ok ())
  | .operate (.consume count) => .moved (link.consumeReceived count).1
  | .write bytes => .moved (link.writeReceived bytes).1

def trace (link : DataLink) : List LinkUse → List Seen
  | [] => []
  | use :: uses =>
    let after := link.use use
    ⟨link.result use, after.session, after.pending, after.peek⟩ :: after.trace uses

def useAll (link : DataLink) (uses : List LinkUse) : DataLink := uses.foldl use link

def plain (link : DataLink) : PlainLink := ⟨link.address, link.session, link.queue.toList⟩

end DataLink

theorem TransmitQueue.push_plain (queue : TransmitQueue) {encoding : Except Error Octets}
    (fits : ∀ frame, encoding = .ok frame → frame.length ≤ bufferRoom) :
    PlainLink.push queue.toList encoding = (queue.push encoding).map toList := by
  rw [queue.push_eq, PlainLink.push, queue.size_eq]
  cases encoding with
  | error e => rfl
  | ok frame =>
    have short : ¬bufferRoom < frame.length := Nat.not_lt.mpr (fits frame rfl)
    have whole : Octets.within bufferRoom (.ok frame) = .ok frame := if_neg short
    rw [whole]

theorem DataLink.commit_plain (link : DataLink) {transition : Transition}
    (fits : ∀ frame, transition.frame? = some (.ok frame) → frame.length ≤ bufferRoom) :
    link.plain.commit transition =
      ((link.commit transition).1, (link.commit transition).2.plain) := by
  have pushed {encoding : Except Error Octets} (frame : transition.frame? = some encoding) :
      PlainLink.push link.plain.queue encoding =
        (link.queue.push encoding).map TransmitQueue.toList := by
    refine link.queue.push_plain fun octets same => fits octets ?_
    rw [frame, same]
  cases transition with
  | quiet next => rfl
  | sending frame next | parting frame next =>
    simp only [PlainLink.commit, DataLink.commit, Transition.commit, pushed rfl]
    cases link.queue.push frame <;> rfl

theorem Session.leads_room {s : Session} {address : LinkAddress} {operation : LinkOperation}
    {transition : Transition} {frame : Octets} (leads : Leads s address operation transition)
    (sends : transition.frame? = some (.ok frame)) : frame.length ≤ bufferRoom :=
  Nat.le_trans (Session.leads_fits leads sends) (by decide)

namespace DataLink

variable (link : DataLink)

theorem perform_plain (operation : LinkOperation) (transition : Except Error Transition)
    (leads : ∀ next, transition = .ok next → Leads link.session link.address operation next) :
    link.plain.perform transition =
      (.done (link.perform transition).1, (link.perform transition).2.plain) := by
  cases transition with
  | error e => rfl
  | ok next =>
    have same := link.commit_plain fun _ => Session.leads_room (leads next rfl)
    simp only [PlainLink.perform, perform, same]

theorem send_plain (data : Octets) :
    link.plain.serve (.operate (.send data)) =
      (.sent (link.send data).1, (link.send data).2.plain) := by
  have plain_sent : link.plain.session.send link.plain.address data =
      link.session.send link.address data := rfl
  cases sent : link.session.send link.address data with
  | error e => simp only [PlainLink.serve, plain_sent, send, sent]
  | ok choice =>
    cases choice with
    | none => simp only [PlainLink.serve, plain_sent, send, sent]
    | some next =>
      have same := link.commit_plain fun _ => Session.leads_room (Session.send_leads sent)
      simp only [PlainLink.serve, plain_sent, send, sent, same]

/-- Using a link and its plain counterpart gives the same result and leads to counterparts. -/
theorem serve_plain (use : LinkUse) :
    link.plain.serve use = (link.result use, (link.use use).plain) := by
  cases use with
  | write bytes => rfl
  | operate operation =>
    cases operation with
    | connect => exact link.perform_plain .connect _ fun _ => Session.connect_leads
    | accept => exact link.perform_plain .accept _ fun _ => Session.accept_leads
    | reject => exact link.perform_plain .reject _ fun _ => Session.reject_leads
    | disconnect => exact link.perform_plain .disconnect _ fun _ => Session.disconnect_leads
    | acknowledge =>
      refine link.perform_plain .acknowledge (.ok (link.session.acknowledge link.address))
        fun next led => ?_
      cases led
      exact .acknowledge
    | receive pdu =>
      refine link.perform_plain (.receive pdu) (.ok (link.session.receive link.address pdu))
        fun next led => ?_
      cases led
      exact .receive pdu _ (link.session.receive_reception link.address pdu)
    | send data => exact link.send_plain data
    | consume count => rfl
    | clear =>
      have empty : link.queue.clear.toList = [] := by
        apply List.eq_nil_of_length_eq_zero
        rw [← TransmitQueue.size_eq, TransmitQueue.size_clear]
      simp only [PlainLink.serve, plain, result, use, operate, clear, empty]
    | next =>
      rcases link.next_eq with ⟨empty, eq⟩ | ⟨frame, queue, first, eq⟩
      · simp only [PlainLink.serve, plain, result, use, operate, empty, eq]
      · simp only [PlainLink.serve, plain, result, use, operate, first, eq]

theorem trace_plain (uses : List LinkUse) : link.trace uses = link.plain.trace uses := by
  induction uses generalizing link with
  | nil => rfl
  | cons use uses ih =>
    rw [trace, PlainLink.trace, serve_plain]
    simp only [pending, peek, TransmitQueue.size_eq, TransmitQueue.peek_eq, ih]
    rfl

end DataLink

end NearField.Llcp
