import NearField.Llcp.LogicalLink
import NearField.Proofs.Llcp.Wire

/-!
What an operation or a received PDU can do to one end of a connection, case by case. Main
statements: a transition either queues its frame last or leaves the link as it was, unless the
session is ending, and a received PDU leads to one of seven transitions.
-/

namespace NearField.Llcp

theorem TransmitQueue.push_ok {queue pushed : TransmitQueue} {encoding : Except Error Octets}
    (ok : queue.push encoding = .ok pushed) :
    queue.size < queueDepth ∧ ∃ frame, encoding = .ok frame ∧ frame.length ≤ bufferRoom ∧
      pushed.toList = queue.toList ++ [frame] := by
  have listed := queue.push_eq encoding
  rw [ok] at listed
  split at listed
  · cases listed
  · rename_i free
    cases within : Octets.within bufferRoom encoding with
    | error e => rw [within] at listed; cases listed
    | ok frame =>
      rw [within] at listed
      have content := Octets.within_ok within
      exact ⟨Nat.not_le.mp free, frame, content.1, content.2, Except.ok.inj listed⟩

theorem TransmitQueue.push_error {queue : TransmitQueue} {frame : Octets} {e : Error}
    (fits : frame.length ≤ bufferRoom) (failed : queue.push (.ok frame) = .error e) :
    queueDepth ≤ queue.size ∧ e = .poolExhausted queueDepth := by
  have listed := queue.push_eq (.ok frame)
  rw [failed] at listed
  split at listed
  · rename_i full
    exact ⟨full, Except.error.inj listed⟩
  · change Except.error e = Except.map _ (if bufferRoom < frame.length then _ else _) at listed
    rw [if_neg (Nat.not_lt.mpr fits)] at listed
    cases listed

theorem TransmitQueue.push_full {queue : TransmitQueue} {encoding : Except Error Octets}
    (full : queueDepth ≤ queue.size) :
    queue.push encoding = .error (.poolExhausted queueDepth) := by
  have listed := queue.push_eq encoding
  rw [if_pos full] at listed
  cases pushed : queue.push encoding with
  | error e => rw [pushed] at listed; exact congrArg Except.error (Except.error.inj listed)
  | ok queue => rw [pushed] at listed; cases listed

theorem TransmitQueue.push_room {queue : TransmitQueue} {frame : Octets}
    (room : queue.size < queueDepth) (fits : frame.length ≤ bufferRoom) :
    ∃ pushed, queue.push (.ok frame) = .ok pushed ∧ pushed.toList = queue.toList ++ [frame] := by
  cases pushed : queue.push (.ok frame) with
  | error e => exact absurd (TransmitQueue.push_error fits pushed).1 (Nat.not_le.mpr room)
  | ok after =>
    obtain ⟨_, _, same, _, listed⟩ := TransmitQueue.push_ok pushed
    cases same
    exact ⟨after, rfl, listed⟩

/-- How a transition of a link can end. A frame that is queued comes last; a frame that finds no
room stops the transition unless the session is ending. -/
inductive Committed (link : DataLink) : Transition → Except Error Unit × DataLink → Prop
  | kept (next : Session) : Committed link (.quiet next) (.ok (), { link with session := next })
  | refused (frame : Except Error Octets) (next : Session) (e : Error)
      (failed : link.queue.push frame = .error e) :
      Committed link (.sending frame next) (.error e, link)
  | queued (frame : Except Error Octets) (next : Session) (queue : TransmitQueue)
      (pushed : link.queue.push frame = .ok queue) :
      Committed link (.sending frame next) (.ok (), { link with session := next, queue })
  | parted (frame : Except Error Octets) (next : Session) (queue : TransmitQueue)
      (pushed : link.queue.push frame = .ok queue) :
      Committed link (.parting frame next) (.ok (), { link with session := next, queue })
  | dropped (frame : Except Error Octets) (next : Session) (e : Error)
      (failed : link.queue.push frame = .error e) :
      Committed link (.parting frame next) (.ok (), { link with session := next })

theorem DataLink.commit_committed (link : DataLink) (transition : Transition) :
    Committed link transition (link.commit transition) := by
  cases transition with
  | quiet next => exact .kept next
  | sending frame next =>
    simp only [DataLink.commit, Transition.commit]
    cases pushed : link.queue.push frame with
    | error e => exact .refused frame next e pushed
    | ok queue => exact .queued frame next queue pushed
  | parting frame next =>
    simp only [DataLink.commit, Transition.commit]
    cases pushed : link.queue.push frame with
    | error e => exact .dropped frame next e pushed
    | ok queue => exact .parted frame next queue pushed

theorem DataLink.commit_room {link : DataLink} {frame : Octets} (next : Session)
    (room : link.queue.size < queueDepth) (fits : frame.length ≤ bufferRoom) :
    ∃ queue, link.commit (.sending (.ok frame) next) =
        (.ok (), { link with session := next, queue }) ∧
      queue.toList = link.queue.toList ++ [frame] := by
  obtain ⟨queue, pushed, listed⟩ := TransmitQueue.push_room room fits
  refine ⟨queue, ?_, listed⟩
  rw [DataLink.commit, Transition.commit, pushed]

def Transition.next : Transition → Session
  | quiet next | sending _ next | parting _ next => next

theorem DataLink.commit_session (link : DataLink) (transition : Transition) :
    (link.commit transition).2 = link ∨ (link.commit transition).2.session = transition.next := by
  have done := link.commit_committed transition
  generalize link.commit transition = outcome at done
  cases done with
  | refused => exact .inl rfl
  | _ => exact .inr rfl

theorem DataLink.commit_error {link : DataLink} {transition : Transition} {e : Error}
    (failed : (link.commit transition).1 = .error e) : (link.commit transition).2 = link := by
  have done := link.commit_committed transition
  generalize link.commit transition = outcome at done failed
  cases done with
  | refused => rfl
  | _ => cases failed

inductive Reception (s : Session) (address : LinkAddress) (pdu : Pdu) : Transition → Prop
  | ended (silent : pdu.type = .dm ∨ s.status = .connected ∧ pdu.type = .frmr) :
      Reception s address pdu (.quiet s.reset)
  | parted (reason : DisconnectReason) (spoken : pdu.type ≠ .dm)
      (unexpected : s.status = .connected → pdu.type.isSequenced = false) :
      Reception s address pdu (.parting (Session.disconnectedFrame address reason) s.reset)
  | asked (free : s.status = .disconnected) (type : pdu.type = .connect) :
      Reception s address pdu
        (.quiet { s.negotiate pdu.info with status := .connecting, initiator := false })
  | granted (waiting : s.status = .connecting) (own : s.initiator = true) (type : pdu.type = .cc) :
      Reception s address pdu (.quiet { s.negotiate pdu.info with status := .connected })
  | taken (sequence : Sequence) (connected : s.status = .connected) (type : pdu.type = .i)
      (numbered : pdu.sequence = some sequence) (expected : sequence.ns = s.vr)
      (covered : s.acknowledgeable sequence.nr = true)
      (fits : s.received.used + pdu.info.length ≤ receiveRoom) :
      Reception s address pdu (.quiet { s with
        received := (s.received.write pdu.info).2, vr := nextNumber s.vr, vsa := sequence.nr })
  | ready (connected : s.status = .connected) (type : pdu.type = .rr ∨ pdu.type = .rnr)
      (covered : s.acknowledgeable ((pdu.sequence.map Sequence.nr).getD s.vsa) = true) :
      Reception s address pdu (.quiet { s with
        vsa := (pdu.sequence.map Sequence.nr).getD s.vsa, remoteBusy := pdu.type = .rnr })
  | rejected (flags : UInt8) (connected : s.status = .connected)
      (type : pdu.type.isSequenced = true) :
      Reception s address pdu (s.refuse address flags pdu)

theorem Session.receiveInformation_reception (s : Session) (address : LinkAddress) (pdu : Pdu)
    (connected : s.status = .connected) (type : pdu.type = .i) :
    Reception s address pdu (s.receiveInformation address pdu) := by
  have sequenced : pdu.type.isSequenced = true := by rw [type]; rfl
  unfold Session.receiveInformation
  split
  · exact .rejected _ connected sequenced
  · rename_i sequence numbered
    split
    · exact .rejected _ connected sequenced
    · rename_i expected
      split
      · exact .rejected _ connected sequenced
      · rename_i covered
        split
        · exact .rejected _ connected sequenced
        · rename_i fits
          exact .taken sequence connected type numbered (not_not.mp expected)
            (by simpa using covered) (Nat.not_lt.mp fits)

theorem Session.receiveReady_reception (s : Session) (address : LinkAddress) (pdu : Pdu)
    (connected : s.status = .connected) (type : pdu.type = .rr ∨ pdu.type = .rnr) :
    Reception s address pdu (s.receiveReady address pdu) := by
  simp only [Session.receiveReady]
  split
  · rename_i covered
    exact .ready connected type covered
  · exact .rejected _ connected (by rcases type with type | type <;> rw [type] <;> rfl)

/-- A received PDU leads to one of seven transitions. -/
theorem Session.receive_reception (s : Session) (address : LinkAddress) (pdu : Pdu) :
    Reception s address pdu (s.receive address pdu) := by
  unfold Session.receive
  split
  · rename_i type
    exact .ended (.inl type)
  · rename_i free type
    exact .asked free type
  · rename_i waiting type
    split
    · rename_i own
      exact .granted waiting own type
    · exact .parted _ (by rw [type]; decide) (fun _ => by rw [type]; rfl)
  · rename_i connected type
    exact s.receiveInformation_reception address pdu connected type
  · rename_i connected type
    exact s.receiveReady_reception address pdu connected (.inl type)
  · rename_i connected type
    exact s.receiveReady_reception address pdu connected (.inr type)
  · rename_i type
    exact .parted _ (by rw [type]; decide) (fun _ => by rw [type]; rfl)
  · rename_i connected type
    exact .ended (.inr ⟨connected, type⟩)
  · rename_i silent _ _ information ready busy _ _
    refine .parted _ silent fun connected => ?_
    cases type : pdu.type with
    | i => exact absurd type (information connected)
    | rr => exact absurd type (ready connected)
    | rnr => exact absurd type (busy connected)
    | _ => rfl

end NearField.Llcp
