import NearField.Proofs.Llcp.Answer
import Mathlib.Algebra.Ring.Nat
import Mathlib.Algebra.BigOperators.Group.List.Basic

/-!
Two logical links that answer each other. Main statement: an answer is of a lower kind than what it
answers, so what waits and what is on its way gives rise to a bounded number of PDUs, in whatever
order they are handed over and read.
-/

namespace NearField.Llcp

/-- How many PDUs can follow from one of a type; a question for service names is answered, and an
answer to one is not. -/
def PduType.reach (type : PduType) (asks : Bool) : Nat :=
  match type with
  | i => 4
  | rr | rnr | connect => 2
  | frmr | cc | disc => 1
  | snl => asks.toNat
  | _ => 0

def Pdu.reach (pdu : Pdu) : Nat := pdu.type.reach pdu.asks

def reach (bytes : Octets) : Nat :=
  match Pdu.decode bytes with
  | .error _ => 0
  | .ok pdu => pdu.reach

theorem PduType.reach_below {type answer : PduType} (below : answer ∈ type.below)
    (question reply : Bool) : answer.reach reply < type.reach question := by
  cases type with
  | symm | pax | agf | ui | dm | snl => cases below
  | _ =>
    simp only [PduType.below, List.mem_cons, List.not_mem_nil, or_false] at below
    rcases below with rfl | rfl | rfl | rfl <;> simp [reach]

theorem Pdu.reach_below {answer received : Pdu} (below : answer.Below received) :
    answer.reach < received.reach := by
  rcases below with lower | ⟨type, asks, kind, silent⟩
  · exact PduType.reach_below lower _ _
  · rw [reach, reach, type, kind, asks, silent]
    decide

theorem reach_carries {bytes : Octets} {peer : Sap} {type : PduType}
    (carries : Carries bytes peer type) : ∃ asks, reach bytes = type.reach asks := by
  obtain ⟨pdu, read, _, kind⟩ := carries
  refine ⟨pdu.asks, ?_⟩
  simp only [reach, read, Pdu.reach, kind]

/-- The PDUs that answer a PDU, together with all that can follow from them, are no more than can
follow from it. -/
theorem Answers.reach_le {peer : Sap} {received : Pdu} {added : List Octets}
    (answers : Answers peer received added) :
    (added.map (reach · + 1)).sum ≤ received.reach := by
  cases answers with
  | silent => exact Nat.zero_le _
  | lower bytes type carries below =>
    obtain ⟨asks, eq⟩ := reach_carries carries
    have less := PduType.reach_below below received.asks asks
    simp only [List.map_cons, List.map_nil, List.sum_cons, List.sum_nil, eq, Pdu.reach]
    omega
  | named bytes answer read _ below =>
    have less := Pdu.reach_below below
    simp only [List.map_cons, List.map_nil, List.sum_cons, List.sum_nil, reach, read]
    omega
  | twice first second type ended ready =>
    obtain ⟨ends, last⟩ := reach_carries ended
    obtain ⟨readies, next⟩ := reach_carries ready
    simp only [List.map_cons, List.map_nil, List.sum_cons, List.sum_nil, last, next, Pdu.reach,
      type, PduType.reach]
    omega

/-- Two logical links and the PDUs on their way to each, oldest first. -/
structure Exchange where
  left : LogicalLink
  right : LogicalLink
  toLeft : List Octets := []
  toRight : List Octets := []

namespace Exchange

inductive Move where
  | poll
  | deliver
deriving DecidableEq, Repr

inductive Turn where
  | left (move : Move)
  | right (move : Move)
deriving DecidableEq, Repr

def swap (exchange : Exchange) : Exchange :=
  ⟨exchange.right, exchange.left, exchange.toRight, exchange.toLeft⟩

def act (exchange : Exchange) : Move → Option Octets × Exchange
  | .poll =>
    let (bytes, left) := exchange.left.poll
    (some bytes, { exchange with left, toRight := exchange.toRight ++ [bytes] })
  | .deliver =>
    match exchange.toLeft with
    | [] => (none, exchange)
    | bytes :: toLeft =>
      (none, { exchange with left := (exchange.left.receive bytes).2, toLeft })

def step (exchange : Exchange) : Turn → Option Octets × Exchange
  | .left move => exchange.act move
  | .right move => ((exchange.swap.act move).1, (exchange.swap.act move).2.swap)

def transmitted (exchange : Exchange) : List Turn → List Octets
  | [] => []
  | turn :: turns =>
    (exchange.step turn).1.toList ++ (exchange.step turn).2.transmitted turns

/-- How many PDUs can still be handed over, those without a meaning aside: what waits and all that
can follow from it, and what can follow from what is on its way. -/
def potential (exchange : Exchange) : Nat :=
  (exchange.left.outbound.map (reach · + 1)).sum + (exchange.toLeft.map reach).sum +
    ((exchange.right.outbound.map (reach · + 1)).sum + (exchange.toRight.map reach).sum)

def spoken (bytes : List Octets) : List Octets := bytes.filter (· ≠ LogicalLink.symmetry)

theorem potential_swap (exchange : Exchange) : exchange.swap.potential = exchange.potential :=
  Nat.add_comm _ _

theorem reach_symmetry : reach LogicalLink.symmetry = 0 := by decide

theorem length_spoken_le (bytes : Octets) : (spoken [bytes]).length ≤ 1 :=
  List.length_filter_le _ [bytes]

theorem poll_potential (exchange : Exchange) :
    (spoken (exchange.act .poll).1.toList).length + (exchange.act .poll).2.potential ≤
      exchange.potential := by
  obtain ⟨first, rest⟩ := exchange.left.next_outbound
  simp only [act, LogicalLink.poll, potential, rest, first, List.map_append, List.sum_append,
    List.map_cons, List.map_nil, List.sum_cons, List.sum_nil, Option.toList_some]
  cases exchange.left.outbound with
  | nil =>
    simp only [List.head?_nil, Option.getD_none, reach_symmetry, List.tail_nil, List.map_nil,
      List.sum_nil]
    simp [spoken]
  | cons bytes later =>
    -- the PDU itself is counted off, and what can follow from it stays to come
    have once := length_spoken_le bytes
    simp only [List.head?_cons, Option.getD_some, List.tail_cons, List.map_cons, List.sum_cons]
    omega

/-- Taking octets in adds at most what could follow from them to what waits. -/
theorem receive_reach (link : LogicalLink) (bytes : Octets) :
    ((link.receive bytes).2.outbound.map (reach · + 1)).sum ≤
      (link.outbound.map (reach · + 1)).sum + reach bytes := by
  unfold LogicalLink.receive reach
  cases Pdu.decode bytes with
  | error e => exact Nat.le_refl _
  | ok pdu =>
    obtain ⟨lane, added, peer, gains, answers, _⟩ := link.receivePdu_answers pdu
    have total := (gains.outbound.map (reach · + 1)).sum_eq
    rw [List.map_append, List.sum_append] at total
    have bound := answers.reach_le
    simp only
    unfold reach at total bound
    omega

theorem act_potential (exchange : Exchange) (move : Move) :
    (spoken (exchange.act move).1.toList).length + (exchange.act move).2.potential ≤
      exchange.potential := by
  cases move with
  | poll => exact exchange.poll_potential
  | deliver =>
    obtain ⟨left, right, toLeft, toRight⟩ := exchange
    cases toLeft with
    | nil => simp [act, spoken]
    | cons bytes toLeft =>
      have taken := receive_reach left bytes
      simp only [act, potential, spoken, Option.toList_none, List.filter_nil, List.length_nil,
        List.map_cons, List.sum_cons]
      omega

theorem step_potential (exchange : Exchange) (turn : Turn) :
    (spoken (exchange.step turn).1.toList).length + (exchange.step turn).2.potential ≤
      exchange.potential := by
  cases turn with
  | left move => exact exchange.act_potential move
  | right move =>
    rw [← exchange.potential_swap, step, potential_swap]
    exact exchange.swap.act_potential move

theorem transmitted_le (exchange : Exchange) (turns : List Turn) :
    (spoken (exchange.transmitted turns)).length ≤ exchange.potential := by
  induction turns generalizing exchange with
  | nil => exact Nat.zero_le _
  | cons turn turns ih =>
    have first := exchange.step_potential turn
    have rest := ih (exchange.step turn).2
    rw [transmitted, spoken, List.filter_append, List.length_append]
    simp only [spoken] at first rest
    omega

end Exchange

namespace LogicalLink

/-- However a logical link and its connections were used, a PDU is answered by at most one PDU of a
lower kind, last in one queue and for where it came from; twice only if it is a numbered frame for
a connection that is being closed. So two links that do nothing but answer each other fall silent,
whatever waits and is on its way, and in whatever order it is handed over and read. -/
theorem answers_descend (window : UInt8) (uses : List LogicalUse) (bytes : Octets)
    (exchange : Exchange) :
    (let link := (new.offering window).useAll uses
      let after := (link.receive bytes).2
      ∃ lane added, after.waiting lane = link.waiting lane ++ added ∧
        (∀ other, other ≠ lane → after.waiting other = link.waiting other) ∧
        (∀ answer ∈ added, ∃ received pdu, Pdu.decode bytes = .ok received ∧
          Pdu.decode answer = .ok pdu ∧ pdu.dsap = received.ssap ∧ pdu.Below received) ∧
        (∀ received, Pdu.decode bytes = .ok received →
          received.type ∈ [PduType.dm, .symm, .ui, .pax, .agf] → added = []) ∧
        added.length ≤ 2 ∧ (1 < added.length ↔ link.AnswersTwice bytes)) ∧
      ∃ bound, ∀ turns, (Exchange.spoken (exchange.transmitted turns)).length ≤ bound := by
  refine ⟨?_, exchange.potential, exchange.transmitted_le⟩
  intro link after
  have placed : link.Placed := useAll_placed (new_placed window) uses
  obtain ⟨lane, added, gains, answered, twice⟩ := receive_answers placed bytes
  refine ⟨lane, added, gains.here, gains.elsewhere, ?_, ?_, ?_, twice⟩
  all_goals rcases answered with rfl | ⟨received, read, answers⟩
  · exact fun _ inside => by cases inside
  · intro answer inside
    obtain ⟨pdu, known, destined, below⟩ := answers.below answer inside
    exact ⟨received, pdu, read, known, destined, below⟩
  · exact fun _ _ _ => rfl
  · intro other again quiet
    rw [read] at again
    cases again
    exact answers.eq_nil quiet
  · exact Nat.zero_le _
  · exact answers.length_le

/-- A numbered frame for a connection that is being closed: the peer is told that there is none, and
then that it may send the next frame. -/
theorem closing_answers_twice :
    let address : LinkAddress := ⟨.masked 4, .masked 32⟩
    let link := new.useAll [.operate (.receive [0x11, 0x20]), .operate (.receive [0x13, 0x20, 0x00]),
      .adjust address (.operate .disconnect)]
    let after := (link.receive [0x13, 0x20, 0x10]).2
    after.waiting (.connection address) = link.waiting (.connection address) ++
        [[0x81, 0xc4, 0x01], [0x83, 0x44, 0x00]] ∧
      link.outbound.length + 1 < after.outbound.length := by
  decide +kernel

end LogicalLink

end NearField.Llcp
