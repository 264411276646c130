import NearField.Proofs.Llcp.Answer

/-!
How PDUs leave a logical link. Main statement: whatever is done in between, each queue hands out
what was added to it, in order, once and without loss; what goes next is the first PDU without a
connection, else that of the first connection with something to send.
-/

namespace NearField.Llcp

/-! ### The order of connections -/

/-- The order of connections: by local, then by remote access point. -/
def LinkAddress.Before (a b : LinkAddress) : Prop :=
  a.localSap.value < b.localSap.value ∨
    a.localSap = b.localSap ∧ a.remoteSap.value < b.remoteSap.value

theorem LinkAddress.rank_of_before {a b : LinkAddress} (before : a.Before b) :
    TableKey.rank a < TableKey.rank b := by
  have low := a.remoteSap.toNat_lt
  have high := b.remoteSap.toNat_lt
  change a.localSap.value.toNat * 64 + a.remoteSap.value.toNat <
    b.localSap.value.toNat * 64 + b.remoteSap.value.toNat
  rcases before with below | ⟨same, below⟩
  · rw [UInt8.lt_iff_toNat_lt] at below
    omega
  · rw [UInt8.lt_iff_toNat_lt] at below
    rw [same]
    omega

namespace LogicalLink

variable {link : LogicalLink}

/-- Whether a queue goes next: that of PDUs without a connection while it holds any, else that of
the first connection with something to send. -/
def Serves (link : LogicalLink) : Lane → Prop
  | .control => link.waiting .control ≠ []
  | .connection address =>
    link.waiting .control = [] ∧ link.waiting (.connection address) ≠ [] ∧
      ∀ other : LinkAddress, other.Before address → link.waiting (.connection other) = []

def served? (link : LogicalLink) : Option Lane :=
  match link.control with
  | _ :: _ => some .control
  | [] => link.firstPending.map fun entry => .connection entry.1

/-- A PDU leaves the queue that goes next, and it is the one that could be seen before. -/
structure Hands (before after : LogicalLink) (lane : Lane) (pdu : Octets) : Prop where
  served : before.served? = some lane
  serves : before.Serves lane
  seen : before.peek = some pdu
  here : before.waiting lane = pdu :: after.waiting lane
  elsewhere : ∀ other, other ≠ lane → after.waiting other = before.waiting other

theorem Hands.shrunk {before after : LogicalLink} {lane : Lane} {pdu : Octets}
    (hands : Hands before after lane pdu) (other : Lane) :
    before.waiting other =
      (if before.served? = some other then [pdu] else []) ++ after.waiting other := by
  rw [hands.served]
  by_cases same : other = lane
  · rw [same, if_pos rfl, hands.here]
    rfl
  · rw [if_neg fun served => same (Option.some.inj served).symm, hands.elsewhere other same]
    rfl

theorem control_hands {bytes : Octets} {rest : List Octets} (control : link.control = bytes :: rest) :
    link.next.1 = some bytes ∧ Hands link link.next.2 .control bytes := by
  rw [next, control]
  refine ⟨rfl, ?_, ?_, ?_, control, ?_⟩
  · rw [served?, control]
  · change link.control ≠ []
    rw [control]
    exact List.cons_ne_nil _ _
  · rw [peek, control]
  · intro other apart
    cases other with
    | control => exact absurd rfl apart
    | connection address => rfl

theorem firstPending_least {address other : LinkAddress} {dataLink : DataLink}
    (first : link.firstPending = some (address, dataLink)) (before : other.Before address) :
    link.waiting (.connection other) = [] := by
  change (link.linkAt other).queue.toList = []
  unfold linkAt
  cases stored : link.links.get? other with
  | none => rfl
  | some idle =>
    -- the table is searched in the order of ranks, so an earlier entry was passed over
    have passed := Table.first?_least first stored (LinkAddress.rank_of_before before)
    exact (waiting_iff idle).mp passed

theorem connection_hands {address : LinkAddress} {dataLink : DataLink}
    (control : link.control = []) (first : link.firstPending = some (address, dataLink)) :
    ∃ frame, link.next.1 = some frame ∧ Hands link link.next.2 (.connection address) frame := by
  obtain ⟨found, passes⟩ := Table.first?_get? first
  have here := waiting_of_found found
  rcases dataLink.next_eq with ⟨none, _⟩ | ⟨frame, queue, frames, eq⟩
  · rw [(waiting_iff dataLink).mpr none] at passes
    cases passes
  · have taken : link.next = (some frame, link.store address { dataLink with queue }) := by
      rw [next, control]
      simp only [first, eq]
    rw [frames] at here
    rw [taken]
    refine ⟨frame, rfl, ?_, ⟨control, ?_, ?_⟩, ?_, ?_, ?_⟩
    · rw [served?, control, first]
      rfl
    · rw [here]
      exact List.cons_ne_nil _ _
    · intro other before
      exact firstPending_least first before
    · rw [peek, control, first]
      simp [DataLink.peek, TransmitQueue.peek_eq, frames]
    · rw [here, store_waiting_self]
    · intro other apart
      exact store_waiting_of_ne link address _ apart

theorem next_hands (link : LogicalLink) :
    (link.hasOutbound = false ∧ link.served? = none ∧ link.peek = none ∧
        link.next = (none, link)) ∨
      link.hasOutbound = true ∧ ∃ lane pdu, link.next.1 = some pdu ∧
        Hands link link.next.2 lane pdu := by
  cases control : link.control with
  | cons bytes rest =>
    right
    obtain ⟨eq, hands⟩ := control_hands control
    exact ⟨by simp [hasOutbound, control], .control, bytes, eq, hands⟩
  | nil =>
    cases first : link.firstPending with
    | none =>
      left
      refine ⟨by simp [hasOutbound, control, first], ?_, ?_, ?_⟩
      · rw [served?, control, first]
        rfl
      · rw [peek, control, first]
        rfl
      · rw [next, control, first]
    | some entry =>
      right
      obtain ⟨frame, eq, hands⟩ := connection_hands control first
      exact ⟨by simp [hasOutbound, first], .connection entry.1, frame, eq, hands⟩

end LogicalLink

theorem ne_symmetry_of_length {bytes : Octets} (long : 2 < bytes.length) :
    bytes ≠ LogicalLink.symmetry := by
  rintro rfl
  exact absurd long (by decide)

namespace DataLink

variable (link : DataLink)

theorem connect_grows :
    ∃ added, link.connect.2.queue.toList = link.queue.toList ++ added ∧
      ∀ frame ∈ added, frame ≠ LogicalLink.symmetry := by
  by_cases free : link.session.status = .disconnected
  · rw [link.connect_free free]
    rcases link.commit_queue _ with same | ⟨frame, sends, listed⟩
    · exact ⟨[], by rw [same, List.append_nil], fun _ inside => by cases inside⟩
    · refine ⟨[frame], listed, fun other inside => ?_⟩
      cases sends
      rw [List.mem_singleton.mp inside]
      exact ne_symmetry_of_length (by simp)
  · refine ⟨[], ?_, fun _ inside => by cases inside⟩
    rw [connect, Session.connect, if_pos free, List.append_nil]
    rfl

theorem send_grows (data : Octets) :
    ∃ added, (link.send data).2.queue.toList = link.queue.toList ++ added ∧
      ∀ frame ∈ added, frame ≠ LogicalLink.symmetry := by
  rcases link.send_sent data with ⟨_, same⟩ | ⟨_, _, _, head, queue, encoded, listed, eq⟩
  · exact ⟨[], by rw [same, List.append_nil], fun _ inside => by cases inside⟩
  · rw [eq]
    refine ⟨[head ++ data], listed, fun frame inside => ?_⟩
    rw [List.mem_singleton.mp inside]
    have size := encodeInformation_length encoded
    exact ne_symmetry_of_length (by rw [List.length_append]; omega)

end DataLink

theorem Answers.ne_symmetry {peer : Sap} {received : Pdu} {added : List Octets}
    (answers : Answers peer received added) : ∀ bytes ∈ added, bytes ≠ LogicalLink.symmetry := by
  rintro bytes inside rfl
  obtain ⟨answer, read, _, below⟩ := answers.below _ inside
  have silent : answer.type = .symm := by
    cases read
    rfl
  -- the type that says nothing is below no type
  rcases below with lower | ⟨_, _, type, _⟩
  · rw [silent] at lower
    generalize received.type = type at lower
    cases type <;> simp [PduType.below] at lower
  · rw [silent] at type
    cases type

namespace LogicalLink

variable {link : LogicalLink}

theorem receive_grows (link : LogicalLink) (bytes : Octets) :
    ∃ lane added, Gains link (link.receive bytes).2 lane added ∧
      ∀ pdu ∈ added, pdu ≠ symmetry := by
  unfold receive
  cases Pdu.decode bytes with
  | error e => exact ⟨.control, [], .refl .control, fun _ inside => by cases inside⟩
  | ok pdu =>
    obtain ⟨lane, added, _, gains, answers, _⟩ := link.receivePdu_answers pdu
    exact ⟨lane, added, gains, answers.ne_symmetry⟩

/-- What is done with a logical link: an operation, or the polling of a PDU, of which there is
always one. -/
inductive Dispatch where
  | operate (operation : LogicalOperation)
  | poll

/-- The PDU that a step hands out for good. A transmission hands out the PDU that it passes on, if
that works. -/
def handedOut (link : LogicalLink) : Dispatch → Option Octets
  | .operate .next => link.next.1
  | .operate (.transmit send) =>
    (link.transmit fun pdu => (send pdu).map fun _ => pdu).1.toOption
  | .operate _ => none
  | .poll => some link.poll.1

def proceed (link : LogicalLink) : Dispatch → LogicalLink
  | .operate operation => link.operate operation
  | .poll => link.poll.2

inductive Dispatched (link : LogicalLink) : Option Octets → LogicalLink → Prop
  | added (after : LogicalLink) (lane : Lane) (pdus : List Octets)
      (gains : Gains link after lane pdus) (spoken : ∀ pdu ∈ pdus, pdu ≠ symmetry) :
      Dispatched link none after
  | handed (after : LogicalLink) (lane : Lane) (pdu : Octets) (waits : link.hasOutbound = true)
      (hands : Hands link after lane pdu) : Dispatched link (some pdu) after
  | idle (silent : link.hasOutbound = false) (unserved : link.served? = none) :
      Dispatched link (some symmetry) link

theorem Dispatched.still (link : LogicalLink) : Dispatched link none link :=
  .added link .control [] (.refl .control) fun _ inside => by cases inside

theorem poll_dispatched (link : LogicalLink) :
    Dispatched link (some (link.peek.getD symmetry)) link.next.2 ∧
      link.poll.1 = link.peek.getD symmetry := by
  change _ ∧ link.next.1.getD symmetry = link.peek.getD symmetry
  rcases link.next_hands with ⟨silent, unserved, unseen, eq⟩ | ⟨waits, lane, pdu, eq, hands⟩
  · rw [eq, unseen]
    exact ⟨.idle silent unserved, rfl⟩
  · rw [eq, hands.seen]
    exact ⟨.handed _ lane pdu waits hands, rfl⟩

theorem next_dispatched (link : LogicalLink) : Dispatched link link.next.1 link.next.2 := by
  rcases link.next_hands with ⟨_, _, _, eq⟩ | ⟨waits, lane, pdu, eq, hands⟩
  · rw [eq]
    exact .still link
  · rw [eq]
    exact .handed _ lane pdu waits hands

theorem transmit_dispatched (link : LogicalLink) (send : Octets → Except Error Nat) :
    Dispatched link (link.handedOut (.operate (.transmit send)))
      (link.proceed (.operate (.transmit send))) := by
  simp only [handedOut, proceed, operate, transmit]
  cases send (link.peek.getD symmetry) with
  | error e => exact .still link
  | ok sent => exact link.poll_dispatched.1

theorem proceed_dispatched (link : LogicalLink) (step : Dispatch) :
    Dispatched link (link.handedOut step) (link.proceed step) := by
  cases step with
  | poll =>
    obtain ⟨taken, same⟩ := link.poll_dispatched
    rw [handedOut, same]
    exact taken
  | operate operation =>
    cases operation with
    | next => exact link.next_dispatched
    | transmit send => exact link.transmit_dispatched send
    | bind sap name =>
      simp only [handedOut, proceed, operate, bind]
      split <;> rename_i eq
      · split at eq
        · cases eq
        · cases eq
          exact .added _ .control [] (services_gains _) fun _ inside => by cases inside
      · exact .still link
    | unbind sap => exact .added _ .control [] (services_gains _) fun _ inside => by cases inside
    | connect address =>
      obtain ⟨added, grown, spoken⟩ := (link.linkAt address).connect_grows
      exact .added _ (.connection address) added (store_gains grown) spoken
    | send address data =>
      simp only [handedOut, proceed, operate, send]
      split
      · exact .still link
      · rename_i dataLink found
        obtain ⟨added, grown, spoken⟩ := dataLink.send_grows data
        rw [← waiting_of_found found] at grown
        exact .added _ (.connection address) added (store_gains grown) spoken
    | receive bytes =>
      obtain ⟨lane, added, gains, spoken⟩ := link.receive_grows bytes
      exact .added _ lane added gains spoken

/-- What a step does, seen from outside, where no queue holds a PDU that says nothing. -/
theorem Dispatched.outcome {handed : Option Octets} {after : LogicalLink}
    (dispatched : Dispatched link handed after)
    (spoken : ∀ lane, ∀ pdu ∈ link.waiting lane, pdu ≠ symmetry) :
    (handed = none ∧ ∀ lane, link.waiting lane <+: after.waiting lane) ∨
      (∃ lane pdu, handed = some pdu ∧ pdu ≠ symmetry ∧ link.hasOutbound = true ∧
        link.served? = some lane ∧ link.Serves lane ∧ link.peek = some pdu ∧
        link.waiting lane = pdu :: after.waiting lane ∧
        ∀ other, other ≠ lane → after.waiting other = link.waiting other) ∨
      (handed = some symmetry ∧ link.hasOutbound = false ∧ after = link) := by
  cases dispatched with
  | added _ lane pdus gains =>
    refine .inl ⟨rfl, fun other => ?_⟩
    obtain ⟨more, eq, _⟩ := gains.grown other
    rw [eq]
    exact List.prefix_append _ _
  | handed _ lane pdu waits hands =>
    have first : pdu ∈ link.waiting lane := by
      rw [hands.here]
      exact List.mem_cons_self
    exact .inr (.inl ⟨lane, pdu, rfl, spoken lane pdu first, waits, hands.served, hands.serves,
      hands.seen, hands.here, hands.elsewhere⟩)
  | idle silent => exact .inr (.inr ⟨rfl, silent, rfl⟩)

theorem transmit_failed {send : Octets → Except Error Nat} {e : Error}
    (failed : (link.transmit send).1 = .error e) : (link.transmit send).2 = link := by
  unfold transmit at failed ⊢
  cases sent : send (link.peek.getD symmetry) with
  | error e => rfl
  | ok value =>
    rw [sent] at failed
    cases failed

end LogicalLink

/-! ### Whole runs -/

/-- A logical link with the accounts of its queues: what each handed out and what it was given. -/
structure Ledger where
  link : LogicalLink
  handed : Lane → List Octets := fun _ => []
  added : Lane → List Octets := fun _ => []

namespace Ledger

open LogicalLink (symmetry)

/-- The accounts after a step. What is handed out counts for the queue that went next; what stands
behind what waited in a queue before was added to it. -/
def record (ledger : Ledger) (step : LogicalLink.Dispatch) : Ledger where
  link := ledger.link.proceed step
  handed lane := ledger.handed lane ++
    if ledger.link.served? = some lane then (ledger.link.handedOut step).toList else []
  added lane := ledger.added lane ++
    ((ledger.link.proceed step).waiting lane).drop (ledger.link.waiting lane).length

def recordAll (ledger : Ledger) (steps : List LogicalLink.Dispatch) : Ledger :=
  steps.foldl record ledger

structure Balanced (ledger : Ledger) : Prop where
  accounts : ∀ lane, ledger.handed lane ++ ledger.link.waiting lane = ledger.added lane
  spoken : ∀ lane, ∀ pdu ∈ ledger.link.waiting lane, pdu ≠ symmetry

theorem record_balanced {ledger : Ledger} (balanced : ledger.Balanced)
    (step : LogicalLink.Dispatch) : (ledger.record step).Balanced := by
  obtain ⟨accounts, spoken⟩ := balanced
  have dispatched := ledger.link.proceed_dispatched step
  unfold record
  generalize ledger.link.handedOut step = handed at dispatched
  generalize ledger.link.proceed step = after at dispatched
  cases dispatched with
  | added _ lane pdus gains said =>
    refine ⟨fun other => ?_, fun other pdu inside => ?_⟩
    · obtain ⟨more, eq, _⟩ := gains.grown other
      simp only [eq, Option.toList_none, ite_self, List.append_nil, List.drop_left]
      rw [← accounts other, List.append_assoc]
    · obtain ⟨more, eq, new⟩ := gains.grown other
      simp only [eq] at inside
      rcases List.mem_append.mp inside with before | last
      · exact spoken other pdu before
      · exact said pdu (new pdu last)
  | handed _ lane pdu _ hands =>
    refine ⟨fun other => ?_, fun other bytes inside => ?_⟩
    · -- a queue that is not longer than before was given nothing
      have short : (after.waiting other).length ≤ (ledger.link.waiting other).length := by
        rw [hands.shrunk other, List.length_append]
        exact Nat.le_add_left _ _
      simp only [Option.toList_some, List.drop_of_length_le short, List.append_nil]
      rw [List.append_assoc, ← hands.shrunk other, accounts other]
    · apply spoken other
      rw [hands.shrunk other]
      exact List.mem_append_right _ inside
  | idle silent unserved =>
    refine ⟨fun other => ?_, spoken⟩
    simp only [unserved, reduceCtorEq, if_false, List.append_nil, List.drop_length]
    exact accounts other

theorem recordAll_balanced {ledger : Ledger} (balanced : ledger.Balanced)
    (steps : List LogicalLink.Dispatch) : (ledger.recordAll steps).Balanced := by
  induction steps generalizing ledger with
  | nil => exact balanced
  | cons step steps ih => exact ih (record_balanced balanced step)

theorem new_balanced (window : UInt8) : (Ledger.mk (LogicalLink.new.offering window)
    (fun _ => []) (fun _ => [])).Balanced where
  accounts lane := by cases lane <;> rfl
  spoken lane pdu inside := by cases lane <;> cases inside

end Ledger

namespace LogicalLink

/-- Whatever is done with a logical link, what each queue has handed out and what waits in it are
together what it was given, in order. In the next step, either nothing is handed out and the queues
only grow; or the PDU that could be seen is taken from the queue that goes next and nothing else
changes; or, with nothing to send, the PDU that says nothing is handed out and nothing changes. A
transmission that fails changes nothing. -/
theorem outbound_conserved (window : UInt8) (steps : List Dispatch) :
    let ledger := Ledger.recordAll { link := new.offering window } steps
    let link := ledger.link
    (∀ lane, ledger.handed lane ++ link.waiting lane = ledger.added lane) ∧
      (∀ step, let after := link.proceed step
        (link.handedOut step = none ∧ ∀ lane, link.waiting lane <+: after.waiting lane) ∨
        (∃ lane pdu, link.handedOut step = some pdu ∧ pdu ≠ symmetry ∧ link.hasOutbound = true ∧
          link.served? = some lane ∧ link.Serves lane ∧ link.peek = some pdu ∧
          link.waiting lane = pdu :: after.waiting lane ∧
          ∀ other, other ≠ lane → after.waiting other = link.waiting other) ∨
        (link.handedOut step = some symmetry ∧ link.hasOutbound = false ∧ after = link)) ∧
      ∀ send : Octets → Except Error Nat, (∃ e, (link.transmit send).1 = .error e) →
        (link.transmit send).2 = link := by
  intro ledger link
  have balanced : ledger.Balanced := Ledger.recordAll_balanced (Ledger.new_balanced window) steps
  refine ⟨balanced.accounts, fun step => ?_, fun send failure => ?_⟩
  · exact (link.proceed_dispatched step).outcome balanced.spoken
  · obtain ⟨e, failed⟩ := failure
    exact transmit_failed failed

/-- A grant, a request of this side and a refusal: the refusal goes first, and then the frames of
the connections in their order. -/
example :
    let steps : List Dispatch := [.operate (.receive [0x11, 0x20]),
      .operate (.connect ⟨.masked 5, .masked 33⟩), .operate (.receive [0x19, 0x68]),
      .poll, .operate .next, .operate (.transmit fun _ => .error .noActiveEndpoint)]
    let ledger := Ledger.recordAll { link := new } steps
    ledger.handed .control = [[0xa1, 0xc6, 0x01]] ∧
      ledger.handed (.connection ⟨.masked 4, .masked 32⟩) = [[0x81, 0x84, 0x05, 0x01, 0x04]] ∧
      ledger.link.outbound = [[0x85, 0x05, 0x05, 0x01, 0x04]] := by
  decide +kernel

end LogicalLink

end NearField.Llcp
