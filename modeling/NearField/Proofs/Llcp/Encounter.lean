import NearField.Proofs.Llcp.Conversation
import NearField.Proofs.Llcp.Outbound

/-!
Two data links that use their connection in every way, and the channels between them. Main
statement: whatever a side does or takes in, it goes from one phase of the connection to another
and adds at most one PDU to those on their way to the other side.
-/

namespace NearField.Llcp

inductive Phase where
  | free
  | asking
  | asked
  | connected
  | closing
deriving DecidableEq, Repr

def Session.phase (s : Session) : Phase :=
  match s.status with
  | .disconnected => .free
  | .connecting => if s.initiator then .asking else .asked
  | .connected => .connected
  | .disconnecting => .closing

namespace Session

variable (s : Session)

theorem phase_free_iff : s.phase = .free ↔ s.status = .disconnected := by
  unfold phase
  cases s.status <;> cases s.initiator <;> simp

theorem phase_asking_iff :
    s.phase = .asking ↔ s.status = .connecting ∧ s.initiator = true := by
  unfold phase
  cases s.status <;> cases s.initiator <;> simp

theorem phase_asked_iff :
    s.phase = .asked ↔ s.status = .connecting ∧ s.initiator = false := by
  unfold phase
  cases s.status <;> cases s.initiator <;> simp

theorem phase_connected_iff : s.phase = .connected ↔ s.status = .connected := by
  unfold phase
  cases s.status <;> cases s.initiator <;> simp

end Session

structure Standing where
  phase : Phase
  hushed : Bool
deriving DecidableEq, Repr

namespace Standing

/-- What becomes of a side that takes a PDU in and says nothing about it, because it has nothing to
say or no room to say it. -/
def hear (standing : Standing) (type : PduType) : Standing :=
  match standing.phase, type with
  | _, .dm => ⟨.free, false⟩
  | .free, .connect => ⟨.asked, standing.hushed⟩
  | .asking, .cc => ⟨.connected, standing.hushed⟩
  | .connected, .i | .connected, .rr | .connected, .rnr => standing
  | _, _ => ⟨.free, true⟩

variable {standing : Standing} {type : PduType}

theorem hear_dm (standing : Standing) : standing.hear .dm = ⟨.free, false⟩ := by
  rw [hear]

theorem hear_numbered (connected : standing.phase = .connected)
    (numbered : type.isSequenced = true) : standing.hear type = standing := by
  obtain ⟨phase, hushed⟩ := standing
  cases connected
  cases type with
  | i | rr | rnr => rfl
  | _ => cases numbered

theorem hear_unexpected (spoken : type ≠ .dm)
    (unasked : ¬(standing.phase = .free ∧ type = .connect))
    (ungranted : ¬(standing.phase = .asking ∧ type = .cc))
    (plain : standing.phase = .connected → type.isSequenced = false) :
    standing.hear type = ⟨.free, true⟩ := by
  obtain ⟨phase, hushed⟩ := standing
  cases phase <;> cases type <;> first | rfl | simp_all [PduType.isSequenced]

end Standing

/-- What a side can do of itself, and what it tells the other side by it. -/
inductive Does (before : Standing) : Standing → List PduType → Prop
  | still : Does before before []
  | numbered (type : PduType) (sequenced : type.isSequenced = true) : Does before before [type]
  | connect (free : before.phase = .free) : Does before ⟨.asking, false⟩ [.connect]
  | accept (asked : before.phase = .asked) : Does before ⟨.connected, false⟩ [.cc]
  | reject (asked : before.phase = .asked) : Does before ⟨.free, false⟩ [.dm]
  | disconnect (connected : before.phase = .connected) : Does before ⟨.closing, false⟩ [.disc]

/-- What a side can make of a PDU that it takes in, and what it tells the other side about it. -/
inductive Takes (before : Standing) (type : PduType) : Standing → List PduType → Prop
  | silent : Takes before type (before.hear type) []
  | parted (hushed : Bool) : Takes before type ⟨.free, hushed⟩ [.dm]
  | rejected (connected : before.phase = .connected) (sequenced : type.isSequenced = true) :
      Takes before type before [.frmr]

/-! ### Two sides and their channels -/

inductive Deed where
  | connect | accept | reject | disconnect | acknowledge
  | send (data : Octets)
  | consume (count : Nat)
deriving DecidableEq, Repr

def Deed.operation : Deed → LinkOperation
  | connect => .connect
  | accept => .accept
  | reject => .reject
  | disconnect => .disconnect
  | acknowledge => .acknowledge
  | send data => .send data
  | consume count => .consume count

structure Party where
  link : DataLink
  incoming : List Octets := []
  /-- The last connection ended here without a word to the other side, and nothing was said about
  one since. -/
  hushed : Bool := false

/-- Whether the other side learns nothing when a PDU ends the connection here, although it has not
ended it: it only rejected a frame, or there is no room for a word to it. -/
def DataLink.hushedBy (link : DataLink) (pdu : Pdu) : Bool :=
  pdu.type ≠ .dm ∧
    (link.session.status = .connected ∧ pdu.type = .frmr ∨ queueDepth ≤ link.pending)

namespace Party

def standing (party : Party) : Standing := ⟨party.link.session.phase, party.hushed⟩

def perform (party : Party) (deed : Deed) : Party :=
  let after := party.link.operate deed.operation
  { party with
    link := after
    hushed := party.hushed && after.session.status = party.link.session.status }

def receive (party : Party) (pdu : Pdu) : Party :=
  let after := (party.link.receive pdu).2
  { party with
    link := after
    hushed :=
      if after.session.status = .disconnected then party.link.hushedBy pdu else party.hushed }

def deliver (party : Party) : Party :=
  match party.incoming with
  | [] => party
  | frame :: incoming =>
    match Pdu.decode frame with
    | .error _ => { party with incoming }
    | .ok pdu => { party with incoming }.receive pdu

end Party

structure Encounter where
  left : Party
  right : Party

namespace Encounter

inductive Move where
  | perform (deed : Deed)
  | transmit
  | deliver
deriving DecidableEq, Repr

inductive Turn where
  | left (move : Move)
  | right (move : Move)
deriving DecidableEq, Repr

def fresh (address : LinkAddress) (left right : UInt8) : Encounter :=
  { left := { link := .offering address left }
    right := { link := .offering address.mirror right } }

def swap (e : Encounter) : Encounter := ⟨e.right, e.left⟩

def act (e : Encounter) : Move → Encounter
  | .perform deed => { e with left := e.left.perform deed }
  | .transmit =>
    match e.left.link.next with
    | (none, _) => e
    | (some frame, link) =>
      { left := { e.left with link }
        right := { e.right with incoming := e.right.incoming ++ [frame] } }
  | .deliver => { e with left := e.left.deliver }

def step (e : Encounter) : Turn → Encounter
  | .left move => e.act move
  | .right move => (e.swap.act move).swap

def run (e : Encounter) (turns : List Turn) : Encounter := turns.foldl step e

end Encounter

/-! ### What one side does -/

def spoken (frames : List Octets) : List PduType :=
  frames.filterMap fun frame => (Pdu.decode frame).toOption.map Pdu.type

theorem spoken_append (frames others : List Octets) :
    spoken (frames ++ others) = spoken frames ++ spoken others :=
  List.filterMap_append

theorem spoken_single {address : LinkAddress} {type : PduType} {frame : Octets}
    (writes : address.Writes type frame) : spoken [frame] = [type] := by
  obtain ⟨pdu, read, _, _, kind⟩ := writes.read
  simp [spoken, read, Except.toOption, kind]

namespace Session

variable {s : Session} {address : LinkAddress}

/-- What a side does of itself is told in one PDU, and a new status clears up what the other side
was not told before. -/
theorem deed_does {deed : Deed} {transition : Transition}
    (leads : Leads s address deed.operation transition) (hushed : Bool) :
    ∃ frame next type, transition = .sending frame next ∧ deed.operation.writes = [type] ∧
      Does ⟨s.phase, hushed⟩ ⟨next.phase, hushed && next.status = s.status⟩ [type] := by
  generalize same : deed.operation = operation at leads
  cases leads with
  | connect free =>
    have does : Does ⟨s.phase, hushed⟩ ⟨.asking, false⟩ [.connect] :=
      .connect (s.phase_free_iff.mpr free)
    exact ⟨_, _, .connect, rfl, rfl, by simpa [phase, free] using does⟩
  | accept waiting peer =>
    have does : Does ⟨s.phase, hushed⟩ ⟨.connected, false⟩ [.cc] :=
      .accept (s.phase_asked_iff.mpr ⟨waiting, peer⟩)
    exact ⟨_, _, .cc, rfl, rfl, by simpa [phase, waiting] using does⟩
  | reject waiting peer =>
    have does : Does ⟨s.phase, hushed⟩ ⟨.free, false⟩ [.dm] :=
      .reject (s.phase_asked_iff.mpr ⟨waiting, peer⟩)
    exact ⟨_, _, .dm, rfl, rfl, by simpa [phase, waiting, reset] using does⟩
  | disconnect connected =>
    have does : Does ⟨s.phase, hushed⟩ ⟨.closing, false⟩ [.disc] :=
      .disconnect (s.phase_connected_iff.mpr connected)
    exact ⟨_, _, .disc, rfl, rfl, by simpa [phase, connected] using does⟩
  | acknowledge =>
    have does : Does ⟨s.phase, hushed⟩ ⟨s.phase, hushed⟩ [.rr] := .numbered .rr rfl
    exact ⟨_, _, .rr, rfl, rfl, by simpa [phase] using does⟩
  | send =>
    have does : Does ⟨s.phase, hushed⟩ ⟨s.phase, hushed⟩ [.i] := .numbered .i rfl
    exact ⟨_, _, .i, rfl, rfl, by simpa [phase] using does⟩
  | receive => cases deed <;> cases same

theorem hear_parted {pdu : Pdu} {frame : Except Error Octets} {next : Session}
    (parts : s.receive address pdu = .parting frame next) (hushed : Bool) :
    (Standing.mk s.phase hushed).hear pdu.type = ⟨.free, true⟩ := by
  have reception := s.receive_reception address pdu
  rw [parts] at reception
  cases reception with
  | parted reason spoken plain =>
    apply Standing.hear_unexpected spoken
    · rintro ⟨free, type⟩
      rw [receive, s.phase_free_iff.mp free, type] at parts
      cases parts
    · rintro ⟨asking, type⟩
      obtain ⟨waits, own⟩ := s.phase_asking_iff.mp asking
      rw [receive, waits, type] at parts
      simp only [own] at parts
      cases parts
    · exact fun connected => plain (s.phase_connected_iff.mp connected)

end Session

namespace DataLink

variable (link : DataLink)

theorem commit_sending (frame : Except Error Octets) (next : Session) :
    (link.commit (.sending frame next)).2 = link ∨
      ∃ octets queue, frame = .ok octets ∧ queue.toList = link.queue.toList ++ [octets] ∧
        (link.commit (.sending frame next)).2 = { link with session := next, queue } := by
  have done := link.commit_committed (.sending frame next)
  generalize link.commit (.sending frame next) = outcome at done
  cases done with
  | refused => exact .inl rfl
  | queued _ _ queue pushed =>
    obtain ⟨_, octets, encoded, _, listed⟩ := TransmitQueue.push_ok pushed
    exact .inr ⟨octets, queue, encoded, listed, rfl⟩

theorem operate_does (deed : Deed) (hushed : Bool) :
    let after := link.operate deed.operation
    ∃ said, Does ⟨link.session.phase, hushed⟩
        ⟨after.session.phase, hushed && after.session.status = link.session.status⟩ said ∧
      spoken after.queue.toList = spoken link.queue.toList ++ said := by
  intro after
  have unmoved : Does ⟨link.session.phase, hushed⟩
      ⟨link.session.phase, hushed && link.session.status = link.session.status⟩ [] := by
    simpa using Does.still
  have nothing : spoken link.queue.toList = spoken link.queue.toList ++ [] :=
    (List.append_nil _).symm
  have operated : Operated link deed.operation after := link.operate_operated deed.operation
  clear_value after
  generalize same : deed.operation = operation at operated
  cases operated with
  | still => exact ⟨[], unmoved, nothing⟩
  | popped | cleared => cases deed <;> cases same
  | consumed count =>
    rw [consumeReceived_link]
    refine ⟨[], ?_, nothing⟩
    generalize (link.session.received.consume count).2 = received
    exact unmoved
  | moved _ transition leads =>
    subst same
    obtain ⟨frame, next, type, rfl, only, does⟩ := Session.deed_does leads hushed
    rcases link.commit_sending frame next with same | ⟨octets, queue, encoded, listed, eq⟩
    · rw [same]
      exact ⟨[], unmoved, nothing⟩
    · obtain ⟨_, written, writes⟩ := Session.leads_writes leads (congrArg some encoded)
      rw [only, List.mem_singleton] at written
      subst written
      rw [eq]
      refine ⟨[_], does, ?_⟩
      rw [listed, spoken_append, spoken_single writes]

theorem receive_takes (pdu : Pdu) (hushed : Bool) :
    let after := (link.receive pdu).2
    ∃ said, Takes ⟨link.session.phase, hushed⟩ pdu.type
        ⟨after.session.phase, if after.session.status = .disconnected then link.hushedBy pdu
          else hushed⟩ said ∧
      spoken after.queue.toList = spoken link.queue.toList ++ said := by
  have nothing : spoken link.queue.toList = spoken link.queue.toList ++ [] :=
    (List.append_nil _).symm
  -- what is heard without a word, as soon as the standing is known
  have silently {standing : Standing}
      (heard : (Standing.mk link.session.phase hushed).hear pdu.type = standing) :
      Takes ⟨link.session.phase, hushed⟩ pdu.type standing [] := heard ▸ .silent
  unfold receive
  have reception := link.session.receive_reception link.address pdu
  have done := link.commit_committed (link.session.receive link.address pdu)
  generalize heard : link.session.receive link.address pdu = transition at reception done ⊢
  generalize link.commit transition = outcome at done
  cases reception with
  | ended silent =>
    cases done
    refine ⟨[], silently ?_, nothing⟩
    rcases silent with type | ⟨connected, type⟩
    · rw [type, Standing.hear_dm]
      simp [Session.phase, Session.reset, hushedBy, type]
    · rw [type, Session.phase, connected]
      simp [Session.phase, Session.reset, hushedBy, connected, type, Standing.hear]
  | asked free type =>
    cases done
    refine ⟨[], silently ?_, nothing⟩
    rw [type, link.session.phase_free_iff.mpr free]
    rfl
  | granted waiting own type =>
    cases done
    refine ⟨[], silently ?_, nothing⟩
    rw [type, link.session.phase_asking_iff.mpr ⟨waiting, own⟩]
    rfl
  | taken sequence connected type =>
    cases done
    refine ⟨[], silently ?_, nothing⟩
    rw [Standing.hear_numbered (link.session.phase_connected_iff.mpr connected) (by rw [type]; rfl)]
    simp [Session.phase, connected]
  | ready connected type =>
    cases done
    refine ⟨[], silently ?_, nothing⟩
    have numbered : pdu.type.isSequenced = true := by
      rcases type with type | type <;> rw [type] <;> rfl
    rw [Standing.hear_numbered (link.session.phase_connected_iff.mpr connected) numbered]
    simp [Session.phase, connected]
  | parted reason spokenType plain =>
    cases done with
    | parted _ _ queue pushed =>
      obtain ⟨_, octets, encoded, _, listed⟩ := TransmitQueue.push_ok pushed
      refine ⟨[.dm], .parted _, ?_⟩
      rw [listed, spoken_append, spoken_single (Session.disconnectedFrame_writes encoded)]
    | dropped _ _ e failed =>
      refine ⟨[], silently ?_, nothing⟩
      rw [Session.disconnectedFrame_ok] at failed
      have full := (TransmitQueue.push_error (by simp [bufferRoom]) failed).1
      rw [Session.hear_parted heard]
      simp [Session.phase, Session.reset, hushedBy, spokenType, pending, full]
  | rejected flags connected sequenced =>
    have phase := link.session.phase_connected_iff.mpr connected
    cases done with
    | refused =>
      refine ⟨[], silently ?_, nothing⟩
      rw [Standing.hear_numbered phase sequenced]
      simp [connected]
    | queued _ _ queue pushed =>
      obtain ⟨_, octets, encoded, _, listed⟩ := TransmitQueue.push_ok pushed
      have same : Takes ⟨link.session.phase, hushed⟩ pdu.type ⟨link.session.phase, hushed⟩
          [.frmr] := .rejected phase sequenced
      refine ⟨[.frmr], by simpa [connected] using same, ?_⟩
      rw [listed, spoken_append, spoken_single (Session.rejectFrame_writes encoded)]

end DataLink

/-! ### What happens between the sides -/

/-- What matters of an encounter: where the sides stand, and the types of the PDUs on their way to
each of them, whether still in a queue or already in a channel. -/
structure Scene where
  left : Standing
  right : Standing
  toLeft : List PduType
  toRight : List PduType
deriving DecidableEq, Repr

namespace Scene

def swap (scene : Scene) : Scene := ⟨scene.right, scene.left, scene.toRight, scene.toLeft⟩

inductive Moves (scene : Scene) : Scene → Prop
  | does (left : Standing) (said : List PduType) (does : Does scene.left left said) :
      Moves scene { scene with left, toRight := scene.toRight ++ said }
  | takes (type : PduType) (rest : List PduType) (left : Standing) (said : List PduType)
      (first : scene.toLeft = type :: rest) (takes : Takes scene.left type left said) :
      Moves scene { scene with left, toLeft := rest, toRight := scene.toRight ++ said }

end Scene

namespace Encounter

def scene (e : Encounter) : Scene where
  left := e.left.standing
  right := e.right.standing
  toLeft := spoken (e.left.incoming ++ e.right.link.queue.toList)
  toRight := spoken (e.right.incoming ++ e.left.link.queue.toList)

variable (e : Encounter)

theorem transmit_scene : (e.act .transmit).scene = e.scene := by
  rw [act]
  rcases e.left.link.next_eq with ⟨_, eq⟩ | ⟨frame, queue, first, eq⟩
  · rw [eq]
  · rw [eq]
    simp only [scene, Party.standing, first, List.append_assoc, List.singleton_append]

theorem perform_moves (deed : Deed) : e.scene.Moves (e.act (.perform deed)).scene := by
  obtain ⟨said, does, added⟩ := e.left.link.operate_does deed e.left.hushed
  have moves : e.scene.Moves _ := .does _ said does
  have onward : spoken (e.right.incoming ++ (e.left.perform deed).link.queue.toList) =
      e.scene.toRight ++ said := by
    rw [Party.perform, spoken_append, added, ← List.append_assoc, ← spoken_append]
    rfl
  rw [← onward] at moves
  exact moves

theorem receive_moves {frame : Octets} {incoming : List Octets} {pdu : Pdu}
    (waits : e.left.incoming = frame :: incoming) (read : Pdu.decode frame = .ok pdu) :
    e.scene.Moves { e with left := { e.left with incoming }.receive pdu : Encounter }.scene := by
  obtain ⟨said, takes, added⟩ := e.left.link.receive_takes pdu e.left.hushed
  have first : e.scene.toLeft = pdu.type :: spoken (incoming ++ e.right.link.queue.toList) := by
    simp [scene, spoken, waits, read, Except.toOption]
  have moves : e.scene.Moves _ := .takes _ _ _ said first takes
  have onward : spoken (e.right.incoming ++
      ({ e.left with incoming }.receive pdu).link.queue.toList) = e.scene.toRight ++ said := by
    rw [Party.receive, spoken_append, added, ← List.append_assoc, ← spoken_append]
    rfl
  rw [← onward] at moves
  exact moves

/-- What the left side does is a step of the scene, or leaves it as it is. -/
theorem act_moves (move : Move) :
    (e.act move).scene = e.scene ∨ e.scene.Moves (e.act move).scene := by
  cases move with
  | perform deed => exact .inr (e.perform_moves deed)
  | transmit => exact .inl e.transmit_scene
  | deliver =>
    simp only [act, Party.deliver]
    split
    · exact .inl rfl
    · rename_i frame incoming waits
      split
      · rename_i unread
        left
        simp [scene, Party.standing, spoken, waits, unread, Except.toOption]
      · rename_i pdu read
        exact .inr (e.receive_moves waits read)

end Encounter

end NearField.Llcp
