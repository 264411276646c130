import NearField.Proofs.Llcp.Conversation
import NearField.Proofs.Llcp.Invariant

/-!
The frames on their way from one side of a conversation to the other. Main statements: they bear
consecutive send numbers and receive numbers that never go back, and each turn of the sending side
keeps it so.
-/

namespace NearField.Llcp

/-- Frames on their way: `next` is the count behind the first send number, `low` bounds the receive
numbers from below, `top` is what their sender has accepted, and `payloads` are those carried. -/
inductive Flow (top : Nat) : Nat → Nat → List Octets → List Octets → Prop
  | done {next low : Nat} (reached : low ≤ top) : Flow top next low [] []
  | information {next low ack : Nat} {frame : Octets} {pdu : Pdu} {payloads wire : List Octets}
      (read : Pdu.decode frame = .ok pdu) (type : pdu.type = .i)
      (numbers : pdu.sequence = some ⟨number next, number ack⟩) (forward : low ≤ ack)
      (rest : Flow top (next + 1) ack payloads wire) :
      Flow top next low (pdu.info :: payloads) (frame :: wire)
  | ready {next low ack : Nat} {frame : Octets} {pdu : Pdu} {payloads wire : List Octets}
      (read : Pdu.decode frame = .ok pdu) (type : pdu.type = .rr)
      (numbers : pdu.sequence = some ⟨0, number ack⟩) (forward : low ≤ ack)
      (rest : Flow top next ack payloads wire) :
      Flow top next low payloads (frame :: wire)
  | report {next low : Nat} {frame : Octets} {pdu : Pdu} {payloads wire : List Octets}
      (read : Pdu.decode frame = .ok pdu) (type : pdu.type = .frmr)
      (rest : Flow top next low payloads wire) :
      Flow top next low payloads (frame :: wire)

namespace Flow

variable {top next low : Nat} {payloads wire : List Octets}

theorem low_le (flow : Flow top next low payloads wire) : low ≤ top := by
  induction flow with
  | done reached => exact reached
  | information _ _ _ forward _ ih => exact Nat.le_trans forward ih
  | ready _ _ _ forward _ ih => exact Nat.le_trans forward ih
  | report _ _ _ ih => exact ih

theorem raise {higher : Nat} (flow : Flow top next low payloads wire) (up : top ≤ higher) :
    Flow higher next low payloads wire := by
  induction flow with
  | done reached => exact .done (Nat.le_trans reached up)
  | information read type numbers forward _ ih => exact .information read type numbers forward ih
  | ready read type numbers forward _ ih => exact .ready read type numbers forward ih
  | report read type _ ih => exact .report read type ih

theorem relax {lower : Nat} (flow : Flow top next low payloads wire) (down : lower ≤ low) :
    Flow top next lower payloads wire := by
  induction flow generalizing lower with
  | done reached => exact .done (Nat.le_trans down reached)
  | information read type numbers forward rest =>
    exact .information read type numbers (Nat.le_trans down forward) rest
  | ready read type numbers forward rest =>
    exact .ready read type numbers (Nat.le_trans down forward) rest
  | report read type _ ih => exact .report read type (ih down)

variable {frame : Octets} {pdu : Pdu}

theorem read (flow : Flow top next low payloads (frame :: wire)) :
    ∃ pdu, Pdu.decode frame = .ok pdu := by
  cases flow with
  | information read => exact ⟨_, read⟩
  | ready read => exact ⟨_, read⟩
  | report read => exact ⟨_, read⟩

theorem append_information (flow : Flow top next low payloads wire)
    (read : Pdu.decode frame = .ok pdu) (type : pdu.type = .i)
    (numbers : pdu.sequence = some ⟨number (next + payloads.length), number top⟩) :
    Flow top next low (payloads ++ [pdu.info]) (wire ++ [frame]) := by
  induction flow with
  | done reached => exact .information read type numbers reached (.done (Nat.le_refl _))
  | information first kind counted forward _ ih =>
    refine .information first kind counted forward (ih ?_)
    rw [numbers, List.length_cons, Nat.add_assoc, Nat.add_comm 1]
  | ready first kind counted forward _ ih => exact .ready first kind counted forward (ih numbers)
  | report first kind _ ih => exact .report first kind (ih numbers)

theorem append_ready (flow : Flow top next low payloads wire)
    (read : Pdu.decode frame = .ok pdu) (type : pdu.type = .rr)
    (numbers : pdu.sequence = some ⟨0, number top⟩) :
    Flow top next low payloads (wire ++ [frame]) := by
  induction flow with
  | done reached => exact .ready read type numbers reached (.done (Nat.le_refl _))
  | information first kind counted forward _ ih => exact .information first kind counted forward ih
  | ready first kind counted forward _ ih => exact .ready first kind counted forward ih
  | report first kind _ ih => exact .report first kind ih

theorem append_report (flow : Flow top next low payloads wire)
    (read : Pdu.decode frame = .ok pdu) (type : pdu.type = .frmr) :
    Flow top next low payloads (wire ++ [frame]) := by
  induction flow with
  | done reached => exact .report read type (.done reached)
  | information first kind counted forward _ ih => exact .information first kind counted forward ih
  | ready first kind counted forward _ ih => exact .ready first kind counted forward ih
  | report first kind _ ih => exact .report first kind ih

end Flow

/-- A queue afterwards: the same frames, or one more that reports another as rejected. -/
def Reported (before after : TransmitQueue) : Prop :=
  after.toList = before.toList ∨
    ∃ report pdu, Pdu.decode report = .ok pdu ∧ pdu.type = .frmr ∧
      after.toList = before.toList ++ [report]

inductive Taken (link : DataLink) (pdu : Pdu) : DataLink → Prop
  | information (sequence : Sequence) (type : pdu.type = .i)
      (numbered : pdu.sequence = some sequence) (expected : sequence.ns = link.session.vr)
      (fits : link.session.received.used + pdu.info.length ≤ receiveRoom) :
      Taken link pdu { link with session := { link.session with
        received := (link.session.received.write pdu.info).2
        vr := nextNumber link.session.vr, vsa := sequence.nr } }
  | ready (type : pdu.type = .rr ∨ pdu.type = .rnr) :
      Taken link pdu { link with session := { link.session with
        vsa := (pdu.sequence.map Sequence.nr).getD link.session.vsa
        remoteBusy := pdu.type = .rnr } }
  | dropped (queue : TransmitQueue) (type : pdu.type.isSequenced = true)
      (kept : Reported link.queue queue) : Taken link pdu { link with queue }

theorem DataLink.receive_taken {link : DataLink} {pdu : Pdu}
    (before : link.session.status = .connected)
    (after : (link.receive pdu).2.session.status = .connected) :
    Taken link pdu (link.receive pdu).2 := by
  have reception := link.session.receive_reception link.address pdu
  unfold DataLink.receive at after ⊢
  generalize link.session.receive link.address pdu = transition at reception after
  cases reception with
  | ended => cases after
  | parted =>
    simp only [DataLink.commit, Transition.commit] at after
    split at after <;> cases after
  | asked free => rw [before] at free; cases free
  | granted waiting => rw [before] at waiting; cases waiting
  | taken sequence _ type numbered expected _ fits =>
    exact .information sequence type numbered expected fits
  | ready _ type => exact .ready type
  | rejected flags _ type =>
    have done := link.commit_committed (link.session.refuse link.address flags pdu)
    generalize link.commit _ = outcome at done
    cases done with
    | refused => exact .dropped link.queue type (.inl rfl)
    | queued _ _ queue pushed =>
      obtain ⟨_, report, encoded, _, listed⟩ := TransmitQueue.push_ok pushed
      rw [Session.rejectFrame_ok] at encoded
      cases encoded
      exact .dropped queue type
        (.inr ⟨_, _, decode_plain _ _ .frmr _ rfl (by simp [FrameReject.toOctets]), rfl, listed⟩)

/-- A link that did not ask for the connection it may be waiting for. -/
def DataLink.Passive (link : DataLink) : Prop :=
  link.session.status = .connecting → link.session.initiator = false

theorem DataLink.receive_passive {link : DataLink} (passive : link.Passive) (pdu : Pdu) :
    (link.receive pdu).2.Passive ∧
      ((link.receive pdu).2.session.status = .connected → link.session.status = .connected) := by
  have reception := link.session.receive_reception link.address pdu
  unfold DataLink.Passive DataLink.receive
  generalize link.session.receive link.address pdu = transition at reception
  rcases link.commit_session transition with same | next
  · rw [same]
    exact ⟨passive, id⟩
  · rw [next]
    cases reception with
    | ended => exact ⟨nofun, nofun⟩
    | parted => exact ⟨nofun, nofun⟩
    | asked => exact ⟨fun _ => rfl, nofun⟩
    | granted waiting own =>
      rw [passive waiting] at own
      cases own
    | taken _ connected => exact ⟨passive, fun _ => connected⟩
    | ready connected => exact ⟨passive, fun _ => connected⟩
    | rejected _ connected => exact ⟨passive, fun _ => connected⟩

end NearField.Llcp
