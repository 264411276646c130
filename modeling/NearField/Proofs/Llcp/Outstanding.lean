import NearField.Proofs.Llcp.Invariant

/-!
The numbered frames that were sent and that no accepted receive number has covered, watched from
outside a data link. Main statement: whatever is done to a link, its session stays sound, its queue
stays within its depth, and its sequence state counts exactly these frames.
-/

namespace NearField.Llcp

theorem TransmitQueue.size_push {queue pushed : TransmitQueue} {encoding : Except Error Octets}
    (ok : queue.push encoding = .ok pushed) :
    queue.size < queueDepth ∧ pushed.size = queue.size + 1 := by
  obtain ⟨room, frame, _, _, listed⟩ := TransmitQueue.push_ok ok
  refine ⟨room, ?_⟩
  rw [size_eq, size_eq, listed, List.length_append, List.length_singleton]

theorem TransmitQueue.size_clear_go (count : Nat) (queue : TransmitQueue) :
    (clear.go count queue).size = queue.size - count := by
  induction count generalizing queue with
  | zero => rfl
  | succ count ih =>
    have listed := queue.pop_eq
    rw [clear.go]
    cases popped : queue.pop with
    | none =>
      rw [popped] at listed
      split at listed
      · rename_i blank
        rw [size_eq, blank]
        simp
      · cases listed
    | some taken =>
      obtain ⟨frame, rest⟩ := taken
      rw [popped] at listed
      split at listed
      · cases listed
      · rename_i first others eq
        cases listed
        have shorter := ih rest
        rw [size_eq queue, eq, List.length_cons]
        rw [size_eq rest] at shorter
        simp only
        omega

theorem TransmitQueue.size_clear (queue : TransmitQueue) : queue.clear.size = 0 := by
  rw [clear, size_clear_go]
  exact Nat.sub_self _

theorem DataLink.commit_pending {link : DataLink} (bound : link.pending ≤ queueDepth)
    (transition : Transition) : (link.commit transition).2.pending ≤ queueDepth := by
  have done := link.commit_committed transition
  generalize link.commit transition = outcome at done
  cases done with
  | kept | refused | dropped => exact bound
  | queued _ _ _ pushed | parted _ _ _ pushed =>
    obtain ⟨room, size⟩ := TransmitQueue.size_push pushed
    simp only [DataLink.pending, size]
    omega

theorem DataLink.operate_pending {link : DataLink} (bound : link.pending ≤ queueDepth)
    (operation : LinkOperation) : (link.operate operation).pending ≤ queueDepth := by
  have operated := link.operate_operated operation
  generalize link.operate operation = after at operated
  cases operated with
  | still => exact bound
  | consumed count =>
    rw [DataLink.consumeReceived_link]
    simp only [DataLink.pending] at bound ⊢
    exact bound
  | moved _ transition => exact DataLink.commit_pending bound transition
  | cleared =>
    change link.queue.clear.size ≤ queueDepth
    rw [TransmitQueue.size_clear]
    exact Nat.zero_le _
  | popped frame queue first =>
    have shorter := congrArg List.length first
    rw [List.length_cons, ← TransmitQueue.size_eq, ← TransmitQueue.size_eq] at shorter
    simp only [DataLink.pending] at bound ⊢
    omega

theorem Session.received_sound {s : Session} (sound : s.Sound) {received : ReceiveBuffer}
    (intact : received.Sound) (less : received.used ≤ s.received.used) :
    { s with received }.Sound :=
  { sound with
    received := intact
    unopened := fun closed => by
      obtain ⟨vs, vsa, vr, vra, used, busy⟩ := sound.unopened closed
      exact ⟨vs, vsa, vr, vra, Nat.le_zero.mp (used ▸ less), busy⟩ }

theorem DataLink.operate_sound {link : DataLink} {operation : LinkOperation}
    (sound : link.session.Sound) (wellFormed : operation.WellFormed) :
    (link.operate operation).session.Sound := by
  refine DataLink.operate_session sound ?_ (Session.renew_sound sound) ?_
  · exact fun transition leads => Session.leads_sound sound wellFormed leads
  · intro count
    have intact := (ReceiveBuffer.consume_sound sound.received count).1
    exact Session.received_sound sound intact (Nat.sub_le _ _)

def numbersFrom (start : UInt8) (count : Nat) : List UInt8 :=
  (List.range count).map fun step => number (start.toNat + step)

theorem length_numbersFrom (start : UInt8) (count : Nat) :
    (numbersFrom start count).length = count := by
  simp [numbersFrom]

theorem numbersFrom_append (start : UInt8) (count : Nat) :
    numbersFrom start (count + 1) = numbersFrom start count ++ [number (start.toNat + count)] := by
  simp [numbersFrom, List.range_succ]

theorem numbersFrom_cons {start : UInt8} (small : start < 16) (count : Nat) :
    numbersFrom start (count + 1) = start :: numbersFrom (nextNumber start) count := by
  rw [numbersFrom, List.range_succ_eq_map, List.map_cons, List.map_map]
  congr 1
  · exact number_toNat small
  · refine List.map_congr_left fun step _ => ?_
    rw [Function.comp_apply, number_eq_iff, toNat_nextNumber small]
    omega

/-- A receive number covers as many frames as it is steps away. -/
theorem dropWhile_numbersFrom {start nr : UInt8} {count : Nat} (small : start < 16)
    (narrow : nr < 16) (reached : (numberDistance start nr).toNat ≤ count) :
    (numbersFrom start count).dropWhile (· ≠ nr) =
      numbersFrom nr (count - (numberDistance start nr).toNat) := by
  induction count generalizing start with
  | zero => simp [numbersFrom]
  | succ count ih =>
    rw [numbersFrom_cons small]
    by_cases here : start = nr
    · subst here
      rw [List.dropWhile_cons_of_neg (by simp), numberDistance_self, ← numbersFrom_cons small]
      rfl
    · have steps : (numberDistance start nr).toNat =
          (numberDistance (nextNumber start) nr).toNat + 1 := by
        have apart : start.toNat ≠ nr.toNat := fun same => here (UInt8.toNat_inj.mp same)
        have first := UInt8.lt_iff_toNat_lt.mp small
        have second := UInt8.lt_iff_toNat_lt.mp narrow
        rw [toNat_numberDistance, toNat_numberDistance, toNat_nextNumber small]
        simp only [UInt8.reduceToNat] at first second
        omega
      rw [List.dropWhile_cons_of_pos (by simpa using here), ih (nextNumber_lt start) (by omega)]
      congr 1
      omega

/-- Whether a link takes the receive number of a PDU into account: a numbered PDU on an open
connection that is not answered with a report. -/
def DataLink.Accepts (link : DataLink) (pdu : Pdu) : Prop :=
  link.session.status = .connected ∧ pdu.type.isSequenced = true ∧
    (link.receive pdu).1 = .ok () ∧ (link.receive pdu).2.pending = link.pending

instance (link : DataLink) (pdu : Pdu) : Decidable (link.Accepts pdu) := by
  unfold DataLink.Accepts
  infer_instance

/-- A link, and the send numbers of the frames that were sent since the connection was last closed
and that no accepted receive number has covered, oldest first. -/
structure Observed where
  link : DataLink
  uncovered : List UInt8

def Observed.uncoveredBy (observed : Observed) : LinkOperation → List UInt8
  | .send data =>
    if (observed.link.send data).1 = .ok true then
      observed.uncovered ++ [observed.link.session.vs]
    else observed.uncovered
  | .receive pdu =>
    match pdu.sequence with
    | some sequence =>
      if observed.link.Accepts pdu then observed.uncovered.dropWhile (· ≠ sequence.nr)
      else observed.uncovered
    | none => observed.uncovered
  | _ => observed.uncovered

def Observed.operate (observed : Observed) (operation : LinkOperation) : Observed where
  link := observed.link.operate operation
  uncovered :=
    if (observed.link.operate operation).session.status = .disconnected then []
    else observed.uncoveredBy operation

def Observed.operateAll (observed : Observed) (operations : List LinkOperation) : Observed :=
  operations.foldl Observed.operate observed

theorem Observed.operateAll_link (observed : Observed) (operations : List LinkOperation) :
    (observed.operateAll operations).link = observed.link.operateAll operations := by
  induction operations generalizing observed with
  | nil => rfl
  | cons operation operations ih => exact ih (observed.operate operation)

theorem DataLink.not_accepts_reported {link : DataLink} {pdu : Pdu} {flags : UInt8}
    (receives : link.receive pdu = link.commit (link.session.refuse link.address flags pdu)) :
    ¬link.Accepts pdu := by
  rintro ⟨_, _, done, pending⟩
  rw [receives] at done pending
  have committed := link.commit_committed (link.session.refuse link.address flags pdu)
  generalize link.commit _ = outcome at committed done pending
  cases committed with
  | refused => cases done
  | queued _ _ queue pushed =>
    have grown := (TransmitQueue.size_push pushed).2
    simp only [DataLink.pending] at pending
    omega

/-- What a received PDU does to the numbers of a connection that it leaves open. -/
theorem DataLink.receive_numbers {link : DataLink} (sound : link.session.Sound) (pdu : Pdu) :
    (link.receive pdu).2.session.status = .disconnected ∨
      (link.receive pdu).2.session.vs = link.session.vs ∧
        (¬link.Accepts pdu ∧ (link.receive pdu).2.session.vsa = link.session.vsa ∨
          link.Accepts pdu ∧
            (link.receive pdu).2.session.vsa =
              (pdu.sequence.map Sequence.nr).getD link.session.vsa ∧
            link.session.acknowledgeable ((pdu.sequence.map Sequence.nr).getD link.session.vsa) =
              true) := by
  have reception := link.session.receive_reception link.address pdu
  have receives : link.receive pdu = link.commit (link.session.receive link.address pdu) := rfl
  generalize link.session.receive link.address pdu = transition at reception receives
  rw [receives]
  cases reception with
  | ended => exact .inl rfl
  | parted =>
    left
    simp only [DataLink.commit, Transition.commit]
    split <;> rfl
  | asked free =>
    obtain ⟨miu, window, eq, _⟩ := Session.negotiate_agreed sound.agreed pdu.info
    rw [eq]
    refine .inr ⟨rfl, .inl ⟨fun accepts => ?_, rfl⟩⟩
    exact absurd (free.symm.trans accepts.1) (by decide)
  | granted waiting =>
    obtain ⟨miu, window, eq, _⟩ := Session.negotiate_agreed sound.agreed pdu.info
    rw [eq]
    refine .inr ⟨rfl, .inl ⟨fun accepts => ?_, rfl⟩⟩
    exact absurd (waiting.symm.trans accepts.1) (by decide)
  | taken sequence connected type present expected covered fits =>
    have sequenced : pdu.type.isSequenced = true := by rw [type]; rfl
    have accepts : link.Accepts pdu :=
      ⟨connected, sequenced, by rw [receives]; rfl, by rw [receives]; rfl⟩
    rw [present]
    exact .inr ⟨rfl, .inr ⟨accepts, rfl, covered⟩⟩
  | ready connected type covered =>
    have sequenced : pdu.type.isSequenced = true := by
      rcases type with type | type <;> rw [type] <;> rfl
    have accepts : link.Accepts pdu :=
      ⟨connected, sequenced, by rw [receives]; rfl, by rw [receives]; rfl⟩
    exact .inr ⟨rfl, .inr ⟨accepts, rfl, covered⟩⟩
  | rejected flags connected type =>
    have refused := not_accepts_reported receives
    rcases link.commit_session (link.session.refuse link.address flags pdu) with same | same
    · rw [same]
      exact .inr ⟨rfl, .inl ⟨refused, rfl⟩⟩
    · rw [same]
      exact .inr ⟨rfl, .inl ⟨refused, rfl⟩⟩

theorem DataLink.operate_numbers (link : DataLink) (operation : LinkOperation)
    (unsent : ∀ data, operation ≠ .send data) (unreceived : ∀ pdu, operation ≠ .receive pdu) :
    (link.operate operation).session.status = .disconnected ∨
      (link.operate operation).session.vs = link.session.vs ∧
        (link.operate operation).session.vsa = link.session.vsa := by
  apply DataLink.operate_session (P := fun s =>
    s.status = .disconnected ∨ s.vs = link.session.vs ∧ s.vsa = link.session.vsa)
  · exact .inr ⟨rfl, rfl⟩
  · intro transition leads
    cases leads with
    | reject => exact .inl rfl
    | send data => exact absurd rfl (unsent data)
    | receive pdu => exact absurd rfl (unreceived pdu)
    | _ => exact .inr ⟨rfl, rfl⟩
  · exact .inl rfl
  · exact fun _ => .inr ⟨rfl, rfl⟩

structure Observed.Sound (observed : Observed) : Prop where
  session : observed.link.session.Sound
  pending_le : observed.link.pending ≤ queueDepth
  uncovered_eq : observed.uncovered =
    numbersFrom observed.link.session.vsa observed.link.session.outstanding.toNat

theorem Observed.uncovered_send {observed : Observed} (sound : observed.Sound) (data : Octets) :
    observed.uncoveredBy (.send data) =
      numbersFrom (observed.link.send data).2.session.vsa
        (observed.link.send data).2.session.outstanding.toNat := by
  have session := sound.session
  rcases observed.link.send_sent data with
    ⟨refused, same⟩ | ⟨taken, room, _, head, queue, _, _, next⟩
  · rw [uncoveredBy, if_neg refused, same, sound.uncovered_eq]
  · have grown := Session.outstanding_sent session room
    have last := number_add_distance observed.link.session.vsa session.vs_lt
    rw [uncoveredBy, if_pos taken, next, sound.uncovered_eq]
    simp only [Session.outstanding] at grown last ⊢
    rw [grown, numbersFrom_append, last]

theorem Observed.uncovered_receive {observed : Observed} (sound : observed.Sound) {pdu : Pdu}
    (numbered : pdu.Numbered)
    (remains : (observed.link.receive pdu).2.session.status ≠ .disconnected) :
    observed.uncoveredBy (.receive pdu) =
      numbersFrom (observed.link.receive pdu).2.session.vsa
        (observed.link.receive pdu).2.session.outstanding.toNat := by
  have session := sound.session
  rcases DataLink.receive_numbers session pdu with
    closed | ⟨vs, ⟨refused, vsa⟩ | ⟨accepted, vsa, covered⟩⟩
  · exact absurd closed remains
  · simp only [uncoveredBy, if_neg refused, Session.outstanding, vs, vsa]
    cases pdu.sequence <;> exact sound.uncovered_eq
  · simp only [uncoveredBy, if_pos accepted, Session.outstanding, vs, vsa]
    cases present : pdu.sequence with
    | none => exact sound.uncovered_eq
    | some sequence =>
      rw [present, Option.map_some, Option.getD_some] at covered
      have narrow := (numbered sequence present).2
      have left := Session.outstanding_covered covered narrow session.vs_lt session.vsa_lt
      have reached : (numberDistance observed.link.session.vsa sequence.nr).toNat ≤
          observed.link.session.outstanding.toNat := by
        simpa [Session.acknowledgeable, Session.outstanding, UInt8.le_iff_toNat_le] using covered
      simp only [Option.map_some, Option.getD_some]
      rw [sound.uncovered_eq, dropWhile_numbersFrom session.vsa_lt narrow reached, left]

theorem Observed.operate_sound {observed : Observed} (sound : observed.Sound)
    {operation : LinkOperation} (wellFormed : operation.WellFormed) :
    (observed.operate operation).Sound where
  session := DataLink.operate_sound sound.session wellFormed
  pending_le := DataLink.operate_pending sound.pending_le operation
  uncovered_eq := by
    simp only [operate]
    by_cases closed : (observed.link.operate operation).session.status = .disconnected
    · have session := DataLink.operate_sound sound.session wellFormed
      obtain ⟨vs, vsa, _⟩ := session.unopened (.inl closed)
      rw [if_pos closed, Session.outstanding, vs, vsa]
      rfl
    · rw [if_neg closed]
      -- all but sending and receiving leave the numbers alone
      have others := observed.link.operate_numbers operation
      cases operation with
      | send data => exact uncovered_send sound data
      | receive pdu => exact uncovered_receive sound wellFormed closed
      | _ =>
        rcases others (by rintro _ ⟨⟩) (by rintro _ ⟨⟩) with gone | ⟨vs, vsa⟩
        · exact absurd gone closed
        · rw [Session.outstanding, vs, vsa]
          exact sound.uncovered_eq

def Observed.offering (address : LinkAddress) (window : UInt8) : Observed :=
  ⟨.offering address window, []⟩

theorem Observed.operateAll_sound {observed : Observed} (sound : observed.Sound)
    {operations : List LinkOperation}
    (wellFormed : ∀ operation ∈ operations, operation.WellFormed) :
    (observed.operateAll operations).Sound := by
  induction operations generalizing observed with
  | nil => exact sound
  | cons operation operations ih =>
    obtain ⟨first, others⟩ := List.forall_mem_cons.mp wellFormed
    exact ih (operate_sound sound first) others

/-- Whatever is done to a data link, and whatever PDUs it is given, its session is sound, no more
frames wait than the queue holds, and the frames that were sent and never covered are as many as the
sequence state says. -/
theorem DataLink.invariant_always (address : LinkAddress) (window : UInt8)
    (operations : List LinkOperation)
    (wellFormed : ∀ operation ∈ operations, operation.WellFormed) :
    let link := (DataLink.offering address window).operateAll operations
    link.session.Sound ∧ link.pending ≤ queueDepth ∧
      link.session.outstanding.toNat =
        ((Observed.offering address window).operateAll operations).uncovered.length := by
  have initial : (Observed.offering address window).Sound := by
    refine ⟨Session.offering_sound window, Nat.zero_le _, ?_⟩
    have none : (Observed.offering address window).link.session.outstanding = 0 :=
      numberDistance_self 0
    rw [none]
    rfl
  have sound := Observed.operateAll_sound initial wellFormed
  have same := (Observed.offering address window).operateAll_link operations
  refine ⟨same ▸ sound.session, same ▸ sound.pending_le, ?_⟩
  rw [sound.uncovered_eq, length_numbersFrom, same]
  rfl

/-- Two frames in a window of three of which the peer acknowledges one. -/
theorem invariant_half_acknowledged :
    let address : LinkAddress := ⟨.masked 4, .masked 32⟩
    let granted : Pdu := ⟨.masked 4, .cc, .masked 32, none, [0x05, 0x01, 0x03]⟩
    let ready : Pdu := ⟨.masked 4, .rr, .masked 32, some ⟨0, 1⟩, []⟩
    let operations := [.connect, .receive granted, .send [1], .send [2], .receive ready]
    let link := (DataLink.offering address 4).operateAll operations
    let observed := (Observed.offering address 4).operateAll operations
    observed.uncovered = [1] ∧ (∀ operation ∈ operations, LinkOperation.WellFormed operation) ∧
      link.session.Sound ∧ link.pending ≤ queueDepth ∧
        link.session.outstanding.toNat = observed.uncovered.length := by
  intro address granted ready operations link observed
  have wellFormed : ∀ operation ∈ operations, LinkOperation.WellFormed operation := by
    simp [operations, LinkOperation.WellFormed, Pdu.Numbered, granted, ready]
  have counted : observed.uncovered = [1] := by decide +kernel
  exact ⟨counted, wellFormed, DataLink.invariant_always address 4 operations wellFormed⟩

end NearField.Llcp
