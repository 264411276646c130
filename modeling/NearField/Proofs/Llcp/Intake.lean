import NearField.Proofs.Llcp.Outstanding
import NearField.Proofs.Llcp.Sending

/-!
What a link takes in and what is taken out of it. Main statement: between two resets the octets that
were taken out, followed by those that wait, are the octets that were stored, and those that wait
are a queue of at most 256 octets.
-/

namespace NearField.Llcp

/-- The octets that went into a receive buffer and those that were taken out of it, each in
order. -/
structure Intake where
  stored : Octets := []
  consumed : Octets := []
deriving DecidableEq, Repr

theorem Session.negotiate_received (s : Session) (info : Octets) :
    (s.negotiate info).received = s.received := by
  obtain ⟨_, _, agreed⟩ := s.negotiate_keeps info
  rw [agreed]

namespace DataLink

/-- Whether a use resets a link: it is cleared, or it rejects the connection that it was asked for,
or a received PDU leaves it disconnected. -/
def resetBy (link : DataLink) : LinkUse → Bool
  | .operate .clear => true
  | .operate .reject => link.reject.1.isOk
  | .operate (.receive pdu) => (link.receive pdu).2.session.status = .disconnected
  | _ => false

/-- The octets that a use stores: as many of those written as the link says, and all that an
accepted information PDU carries. -/
def storedBy (link : DataLink) : LinkUse → Octets
  | .write bytes => bytes.take (link.writeReceived bytes).1
  | .operate (.receive pdu) => if pdu.type = .i ∧ link.Accepts pdu then pdu.info else []
  | _ => []

/-- The octets that a use takes out: as many of the first ones as the link says. -/
def consumedBy (link : DataLink) : LinkUse → Octets
  | .operate (.consume count) =>
    link.session.received.contents.take (link.consumeReceived count).1
  | _ => []

/-- The intake after a use; a reset starts a new one. -/
def account (link : DataLink) (intake : Intake) (use : LinkUse) : Intake :=
  if link.resetBy use then {}
  else
    { stored := intake.stored ++ link.storedBy use
      consumed := intake.consumed ++ link.consumedBy use }

def accountAll (link : DataLink) (intake : Intake) : List LinkUse → Intake
  | [] => intake
  | use :: uses => (link.use use).accountAll (link.account intake use) uses

/-- The octets that wait at a link are a queue of at most 256 octets. -/
structure Queues (link : DataLink) : Prop where
  bounded : link.session.received.used ≤ 256
  counted : link.session.received.contents.length = link.session.received.used
  /-- Writing appends the first octets, as many as there is room for. -/
  written : ∀ bytes, let count := min bytes.length (256 - link.session.received.used)
    (link.writeReceived bytes).1 = count ∧
      (link.writeReceived bytes).2.session.received.contents =
        link.session.received.contents ++ bytes.take count
  /-- Accepting an information PDU appends all that it carries. -/
  accepted : ∀ pdu : Pdu, pdu.type = .i → link.Accepts pdu →
    (link.receive pdu).2.session.received.contents =
      link.session.received.contents ++ pdu.info
  /-- Reading, which gives no new link, copies the first octets, as many as there are and as are
  asked for, and leaves what follows them in the output alone. -/
  read : ∀ out, let count := min out.length link.session.received.used
    link.session.received.read out =
      (count, link.session.received.contents.take count ++ out.drop count)
  /-- Consuming takes the first octets away, as many as there are and as are asked for. -/
  consumed : ∀ length, let count := min length link.session.received.used
    (link.consumeReceived length).1 = count ∧
      (link.consumeReceived length).2.session.received.contents =
        link.session.received.contents.drop count

variable {link : DataLink}

inductive Absorbs (link : DataLink) (pdu : Pdu) (after : ReceiveBuffer) : Prop where
  | emptied (closed : (link.receive pdu).2.session.status = .disconnected)
      (other : ¬(pdu.type = .i ∧ link.Accepts pdu)) (empty : after = .empty)
  | stored (lasting : (link.receive pdu).2.session.status ≠ .disconnected) (type : pdu.type = .i)
      (accepts : link.Accepts pdu)
      (fits : link.session.received.used + pdu.info.length ≤ receiveRoom)
      (written : after = (link.session.received.write pdu.info).2)
  | kept (lasting : (link.receive pdu).2.session.status ≠ .disconnected)
      (other : ¬(pdu.type = .i ∧ link.Accepts pdu)) (same : after = link.session.received)

theorem receive_absorbs (link : DataLink) (pdu : Pdu) :
    link.Absorbs pdu (link.receive pdu).2.session.received := by
  have reception := link.session.receive_reception link.address pdu
  have receives : link.receive pdu =
      link.commit (link.session.receive link.address pdu) := rfl
  generalize link.session.receive link.address pdu = transition at reception receives
  cases reception with
  | ended silent =>
    refine .emptied (by rw [receives]; rfl) (fun taken => ?_) (by rw [receives]; rfl)
    rcases silent with type | ⟨_, type⟩ <;> simp [type] at taken
  | parted reason _ unexpected =>
    have reset : (link.receive pdu).2.session = link.session.reset := by
      rw [receives]
      simp only [commit, Transition.commit]
      split <;> rfl
    refine .emptied (by rw [reset]; rfl) (fun taken => ?_) (by rw [reset]; rfl)
    obtain ⟨_, connected, sequenced, _⟩ := taken
    rw [unexpected connected] at sequenced
    cases sequenced
  | asked free =>
    refine .kept (by rw [receives]; rintro ⟨⟩) (fun taken => ?_)
      (by rw [receives]; exact link.session.negotiate_received pdu.info)
    exact absurd (free.symm.trans taken.2.1) (by decide)
  | granted waiting =>
    refine .kept (by rw [receives]; rintro ⟨⟩) (fun taken => ?_)
      (by rw [receives]; exact link.session.negotiate_received pdu.info)
    exact absurd (waiting.symm.trans taken.2.1) (by decide)
  | taken sequence connected type present expected covered fits =>
    have lasting : (link.receive pdu).2.session.status = .connected := by
      rw [receives]
      exact connected
    have accepts : link.Accepts pdu :=
      ⟨connected, by rw [type]; rfl, by rw [receives]; rfl, by rw [receives]; rfl⟩
    exact .stored (by rw [lasting]; rintro ⟨⟩) type accepts fits (by rw [receives]; rfl)
  | ready connected type =>
    have lasting : (link.receive pdu).2.session.status = .connected := by
      rw [receives]
      exact connected
    refine .kept (by rw [lasting]; rintro ⟨⟩) (fun taken => ?_) (by rw [receives]; rfl)
    rcases type with type | type <;> simp [type] at taken
  | rejected flags connected =>
    have same : (link.receive pdu).2.session = link.session := by
      rw [receives]
      rcases link.commit_session (link.session.refuse link.address flags pdu) with same | same
      · rw [same]
      · exact same
    exact .kept (by rw [same, connected]; rintro ⟨⟩)
      (fun taken => not_accepts_reported receives taken.2) (by rw [same])

theorem receive_accepted {pdu : Pdu} (sound : link.session.received.Sound) (type : pdu.type = .i)
    (accepts : link.Accepts pdu) :
    (link.receive pdu).2.session.received.Sound ∧
      (link.receive pdu).2.session.received.contents =
        link.session.received.contents ++ pdu.info := by
  cases link.receive_absorbs pdu with
  | emptied _ other | kept _ other => exact absurd ⟨type, accepts⟩ other
  | stored _ _ _ fits written =>
    obtain ⟨intact, appended⟩ := ReceiveBuffer.write_sound sound pdu.info
    rw [List.take_of_length_le (by omega)] at appended
    rw [written]
    exact ⟨intact, appended⟩

theorem operate_received {operation : LinkOperation} (uncleared : operation ≠ .clear)
    (unrejected : operation ≠ .reject) (unreceived : ∀ pdu, operation ≠ .receive pdu)
    (unconsumed : ∀ count, operation ≠ .consume count) :
    (link.operate operation).session.received = link.session.received := by
  have operated := link.operate_operated operation
  generalize link.operate operation = after at operated
  cases operated with
  | still | popped => rfl
  | cleared => exact absurd rfl uncleared
  | consumed count => exact absurd rfl (unconsumed count)
  | moved _ transition leads =>
    rcases link.commit_session transition with same | next
    · rw [same]
    · rw [next]
      cases leads with
      | connect | accept | disconnect | acknowledge | send => rfl
      | reject => exact absurd rfl unrejected
      | receive pdu => exact absurd rfl (unreceived pdu)

theorem reject_emptied (ok : link.reject.1.isOk = true) :
    link.reject.2.session.received = .empty := by
  unfold reject at ok ⊢
  cases rejects : link.session.reject link.address with
  | error e =>
    rw [rejects] at ok
    cases ok
  | ok transition =>
    rw [rejects] at ok
    simp only [perform] at ok ⊢
    cases Session.reject_leads rejects with
    | reject =>
      have committed := link.commit_committed (.sending
        (Session.disconnectedFrame link.address .rejected) link.session.reset)
      generalize link.commit _ = outcome at committed ok ⊢
      cases committed with
      | refused => cases ok
      | queued => rfl

theorem reject_failed (failed : link.reject.1.isOk = false) : link.reject.2 = link := by
  cases outcome : link.reject.1 with
  | error e => exact perform_error outcome
  | ok =>
    rw [outcome] at failed
    cases failed

theorem use_reset {use : LinkUse} (reset : link.resetBy use = true) :
    (link.use use).session.received = .empty := by
  cases use with
  | write => cases reset
  | operate operation =>
    cases operation with
    | clear => rfl
    | reject => exact reject_emptied reset
    | receive pdu =>
      have closed : (link.receive pdu).2.session.status = .disconnected := of_decide_eq_true reset
      cases link.receive_absorbs pdu with
      | emptied _ _ empty => exact empty
      | stored lasting | kept lasting => exact absurd closed lasting
    | connect | accept | disconnect | acknowledge | next | send | consume => cases reset

theorem use_conserves {use : LinkUse} (sound : link.session.received.Sound)
    (lasting : link.resetBy use = false) :
    (link.use use).session.received.Sound ∧
      link.consumedBy use ++ (link.use use).session.received.contents =
        link.session.received.contents ++ link.storedBy use := by
  -- where the buffer stays as it is, nothing is taken out and nothing stored
  have still (same : (link.use use).session.received = link.session.received)
      (none_taken : link.consumedBy use = []) (none_stored : link.storedBy use = []) :
      (link.use use).session.received.Sound ∧
        link.consumedBy use ++ (link.use use).session.received.contents =
          link.session.received.contents ++ link.storedBy use := by
    rw [same, none_taken, none_stored, List.append_nil]
    exact ⟨sound, rfl⟩
  cases use with
  | write bytes =>
    rw [DataLink.use, writeReceived_link]
    exact ⟨(ReceiveBuffer.write_sound sound bytes).1, ReceiveBuffer.contents_write sound bytes⟩
  | operate operation =>
    cases operation with
    | consume count =>
      rw [use_operate, operate, consumeReceived_link]
      refine ⟨(ReceiveBuffer.consume_sound sound count).1, ?_⟩
      simp only [storedBy, List.append_nil]
      rw [ReceiveBuffer.contents_consume sound]
      exact List.take_append_drop _ _
    | receive pdu =>
      have remains : (link.receive pdu).2.session.status ≠ .disconnected :=
        of_decide_eq_false lasting
      cases link.receive_absorbs pdu with
      | emptied closed => exact absurd closed remains
      | kept _ other same => exact still same rfl (if_neg other)
      | stored _ type accepts =>
        have all : link.storedBy (.operate (.receive pdu)) = pdu.info := if_pos ⟨type, accepts⟩
        rw [all]
        exact receive_accepted sound type accepts
    | clear => cases lasting
    | reject => exact still (congrArg (·.session.received) (reject_failed lasting)) rfl rfl
    | connect | accept | disconnect | acknowledge | next | send =>
      refine still (operate_received ?_ ?_ ?_ ?_) rfl rfl <;> simp

structure Balances (link : DataLink) (intake : Intake) : Prop where
  intact : link.session.received.Sound
  conserved : intake.consumed ++ link.session.received.contents = intake.stored

theorem use_balances {intake : Intake} (balances : link.Balances intake) (use : LinkUse) :
    (link.use use).Balances (link.account intake use) := by
  rw [account]
  split
  · rename_i reset
    have empty := use_reset reset
    refine ⟨?_, ?_⟩ <;> rw [empty]
    · exact ReceiveBuffer.empty_sound
    · rfl
  · rename_i lasting
    obtain ⟨intact, moved⟩ := use_conserves balances.intact (Bool.not_eq_true _ ▸ lasting)
    refine ⟨intact, ?_⟩
    calc intake.consumed ++ link.consumedBy use ++ (link.use use).session.received.contents
        = intake.consumed ++ (link.session.received.contents ++ link.storedBy use) := by
          rw [List.append_assoc, moved]
      _ = intake.stored ++ link.storedBy use := by
          rw [← List.append_assoc, balances.conserved]

theorem useAll_balances {intake : Intake} (balances : link.Balances intake)
    (uses : List LinkUse) : (link.useAll uses).Balances (link.accountAll intake uses) := by
  -- the intake goes along with the link, since a reset on the way starts a new one
  induction uses generalizing link intake with
  | nil => exact balances
  | cons use uses ih => exact ih (use_balances balances use)

theorem queues_of_sound (sound : link.session.received.Sound) : link.Queues where
  bounded := sound.used_le
  counted := ReceiveBuffer.length_contents sound
  written bytes := ⟨rfl, ReceiveBuffer.contents_write sound bytes⟩
  accepted _ type accepts := (receive_accepted sound type accepts).2
  read := ReceiveBuffer.read_eq sound
  consumed length := ⟨rfl, ReceiveBuffer.contents_consume sound length⟩

/-- Whatever a link is used for, the octets taken out since it was new or last reset, followed by
those that wait, are the octets stored since then; and those that wait are a queue of at most 256
octets. -/
theorem intake_conserved (address : LinkAddress) (window : UInt8) (uses : List LinkUse) :
    let fresh := DataLink.offering address window
    let link := fresh.useAll uses
    let intake := fresh.accountAll {} uses
    intake.consumed ++ link.session.received.contents = intake.stored ∧ link.Queues := by
  intro fresh link intake
  have balances : link.Balances intake :=
    useAll_balances ⟨ReceiveBuffer.empty_sound, rfl⟩ uses
  exact ⟨balances.conserved, queues_of_sound balances.intact⟩

/-- An octet that a reset takes along, then three octets received of which two are consumed: two
more are accepted behind the one that waits, and of three hundred 255 find room. -/
theorem intake_conserved_half_read :
    let address : LinkAddress := ⟨.masked 4, .masked 32⟩
    let plain (type : PduType) : Pdu := { dsap := .masked 4, type, ssap := .masked 32 }
    let numbered (ns : UInt8) (info : Octets) : Pdu :=
      ⟨.masked 4, .i, .masked 32, some ⟨ns, 0⟩, info⟩
    let uses : List LinkUse := [.write [9], .operate (.receive (plain .disc)),
      .operate (.receive (plain .connect)), .operate .accept,
      .operate (.receive (numbered 0 [1, 2, 3])), .operate (.consume 2)]
    let link := (DataLink.offering address 4).useAll uses
    (DataLink.offering address 4).accountAll {} uses = ⟨[1, 2, 3], [1, 2]⟩ ∧
      link.session.received.contents = [3] ∧ link.Accepts (numbered 1 [4, 5]) ∧
      (link.receive (numbered 1 [4, 5])).2.session.received.contents = [3, 4, 5] ∧
      (link.writeReceived (List.replicate 300 7)).1 = 255 := by
  intro address plain numbered uses link
  obtain ⟨conserved, queues⟩ : _ ∧ link.Queues := intake_conserved address 4 uses
  have entered : (DataLink.offering address 4).accountAll {} uses = ⟨[1, 2, 3], [1, 2]⟩ := by
    decide +kernel
  have waiting : link.session.received.contents = [3] := by
    rw [entered] at conserved
    simpa using conserved
  have accepts : link.Accepts (numbered 1 [4, 5]) := by decide +kernel
  have appended : (link.receive (numbered 1 [4, 5])).2.session.received.contents =
      link.session.received.contents ++ [4, 5] := queues.accepted _ rfl accepts
  have used : link.session.received.used = 1 := by rw [← queues.counted, waiting]; rfl
  have room : (link.writeReceived (List.replicate 300 7)).1 =
      min (List.replicate 300 (7 : UInt8)).length (256 - link.session.received.used) :=
    (queues.written _).1
  rw [used, List.length_replicate] at room
  rw [waiting] at appended
  exact ⟨entered, waiting, accepts, appended, room⟩

end DataLink

end NearField.Llcp
