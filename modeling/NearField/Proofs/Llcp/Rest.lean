import NearField.Proofs.Llcp.Encounter
import Mathlib.Data.List.Induction

/-!
Two links with nothing on its way between them. Main statement: whatever they were used for, a side
that is connected then faces one that is connected, that was asked and has not answered, or whose
connection ended without a word to the other.
-/

namespace NearField.Llcp

namespace Standing

/-- A side that another one may face which is connected and has nothing more to hear. -/
def Faced (standing : Standing) : Prop :=
  standing.phase = .connected ∨ standing.phase = .asked ∨
    standing.phase = .free ∧ standing.hushed = true

def hearAll (standing : Standing) (types : List PduType) : Standing := types.foldl hear standing

variable {standing : Standing} {type : PduType}

theorem hearAll_concat (standing : Standing) (types : List PduType) (type : PduType) :
    standing.hearAll (types ++ [type]) = (standing.hearAll types).hear type := by
  rw [hearAll, List.foldl_append]
  rfl

theorem hear_faced (faced : standing.Faced) (spoken : type ≠ .dm) :
    (standing.hear type).Faced := by
  obtain ⟨phase, hushed⟩ := standing
  cases phase <;> cases type <;> simp_all [Faced, hear]

theorem hear_turning (standing : Standing) (turning : type ∈ [PduType.connect, .cc, .frmr]) :
    (standing.hear type).Faced := by
  obtain ⟨phase, hushed⟩ := standing
  cases phase <;> cases type <;> simp_all [Faced, hear]

theorem hear_asking (standing : Standing) (type : PduType) :
    (standing.hear type).phase ≠ .asking := by
  obtain ⟨phase, hushed⟩ := standing
  cases phase <;> cases type <;> simp [hear]

theorem phase_of_hear_connected (connected : (standing.hear type).phase = .connected) :
    standing.phase = .connected ∧ type.isSequenced = true ∨
      standing.phase = .asking ∧ type = .cc := by
  obtain ⟨phase, hushed⟩ := standing
  cases phase <;> cases type <;> simp_all [hear, PduType.isSequenced]

end Standing

def AllNumbered (types : List PduType) : Prop := ∀ type ∈ types, type.isSequenced = true

/-- A side in a phase is connected, or will be once it has heard some PDUs, without having to say
anything. -/
def Opening (phase : Phase) (types : List PduType) : Prop :=
  phase = .connected ∧ AllNumbered types ∨
    phase = .asking ∧ ∃ rest, types = .cc :: rest ∧ AllNumbered rest

def Requested (types : List PduType) : Prop :=
  ∀ type ∈ (types.filter (!·.isSequenced)).getLast?, type = .connect

section Types

variable {types : List PduType} {type : PduType} {phase : Phase}

theorem Opening.of_concat (opening : Opening phase (types ++ [type])) :
    Opening phase types ∧ type.isSequenced = true ∨
      phase = .asking ∧ types = [] ∧ type = .cc := by
  rcases opening with ⟨connected, numbered⟩ | ⟨asking, rest, granted, numbered⟩
  · have both := List.forall_mem_append.mp numbered
    exact .inl ⟨.inl ⟨connected, both.1⟩, both.2 type List.mem_cons_self⟩
  · rcases types with _ | ⟨first, later⟩
    · cases granted
      exact .inr ⟨asking, rfl, rfl⟩
    · obtain ⟨rfl, rfl⟩ := List.cons.inj granted
      have both := List.forall_mem_append.mp numbered
      exact .inl ⟨.inr ⟨asking, later, rfl, both.1⟩, both.2 type List.mem_cons_self⟩

theorem requested_concat (types : List PduType) : Requested (types ++ [.connect]) := by
  intro type last
  rw [List.filter_append] at last
  simpa [PduType.isSequenced, eq_comm] using last

theorem Requested.concat_numbered (requested : Requested types)
    (numbered : type.isSequenced = true) : Requested (types ++ [type]) := by
  simpa [Requested, List.filter_append, numbered] using requested

theorem Requested.of_concat (requested : Requested (types ++ [type])) :
    Requested types ∧ type.isSequenced = true ∨ type = .connect := by
  cases numbered : type.isSequenced with
  | true =>
    refine .inl ⟨?_, rfl⟩
    simpa [Requested, List.filter_append, numbered] using requested
  | false =>
    refine .inr (requested type ?_)
    simp [List.filter_append, numbered]

theorem Requested.tail (requested : Requested (type :: types)) : Requested types := by
  intro last inside
  apply requested
  cases numbered : type.isSequenced with
  | true => simpa [numbered] using inside
  | false =>
    obtain ⟨before, eq⟩ := List.getLast?_eq_some_iff.mp inside
    rw [List.filter_cons_of_pos (by simp [numbered]), eq, ← List.cons_append]
    exact List.getLast?_concat

theorem Requested.faced (requested : Requested types) (hushed : Bool) :
    ((Standing.mk .connected hushed).hearAll types).Faced := by
  induction types using List.reverseRecOn with
  | nil => exact .inl rfl
  | append_singleton types type ih =>
    rw [Standing.hearAll_concat]
    rcases requested.of_concat with ⟨before, numbered⟩ | rfl
    · exact Standing.hear_faced (ih before) (by rintro rfl; cases numbered)
    · exact Standing.hear_turning _ (by decide)

end Types

namespace Scene

/-- What holds from the left side of a scene. While it waits for an answer, its request is the last
that it said of the connection. And if it is connected, or will be without another word, then the
right side may be faced once it has heard everything on its way to it, even if it finds no room for
an answer to any of it. -/
structure Sound (scene : Scene) : Prop where
  requested : scene.left.phase = .asking → Requested scene.toRight
  faced : Opening scene.left.phase scene.toLeft → (scene.right.hearAll scene.toRight).Faced

variable {scene after : Scene}

/-- A step keeps what holds from the side that makes it. -/
theorem moves_own (moves : scene.Moves after) (sound : scene.Sound) : after.Sound := by
  have spoken {type : PduType} (numbered : type.isSequenced = true) : type ≠ .dm := by
    rintro rfl
    cases numbered
  cases moves with
  | does left said does =>
    cases does with
    | still =>
      rw [List.append_nil]
      exact sound
    | numbered type sequenced =>
      refine ⟨fun asking => (sound.requested asking).concat_numbered sequenced, fun opening => ?_⟩
      rw [Standing.hearAll_concat]
      exact Standing.hear_faced (sound.faced opening) (spoken sequenced)
    | connect free =>
      refine ⟨fun _ => requested_concat _, fun _ => ?_⟩
      rw [Standing.hearAll_concat]
      exact Standing.hear_turning _ (by decide)
    | accept asked =>
      refine ⟨by rintro ⟨⟩, fun _ => ?_⟩
      rw [Standing.hearAll_concat]
      exact Standing.hear_turning _ (by decide)
    | reject | disconnect => exact ⟨by rintro ⟨⟩, by rintro (⟨⟨⟩, _⟩ | ⟨⟨⟩, _⟩)⟩
  | takes type rest left said first takes =>
    cases takes with
    | silent =>
      rw [List.append_nil]
      refine ⟨fun asking => absurd asking (Standing.hear_asking _ _), fun opening => ?_⟩
      apply sound.faced
      rcases opening with ⟨connected, numbered⟩ | ⟨asking, _⟩
      · rw [first]
        rcases Standing.phase_of_hear_connected connected with ⟨before, sequenced⟩ | ⟨before, rfl⟩
        · exact .inl ⟨before, List.forall_mem_cons.mpr ⟨sequenced, numbered⟩⟩
        · exact .inr ⟨before, rest, rfl, numbered⟩
      · exact absurd asking (Standing.hear_asking _ _)
    | parted => exact ⟨by rintro ⟨⟩, by rintro (⟨⟨⟩, _⟩ | ⟨⟨⟩, _⟩)⟩
    | rejected connected =>
      refine ⟨fun asking => ?_, fun _ => ?_⟩
      · rw [connected] at asking
        cases asking
      · rw [Standing.hearAll_concat]
        exact Standing.hear_turning _ (by decide)

/-- A step keeps what holds from the other side. -/
theorem moves_other (moves : scene.Moves after) (sound : scene.swap.Sound) : after.swap.Sound := by
  cases moves with
  | does left said does =>
    -- what is said to a side that waits can only be the grant that it waits for
    have lasting {type : PduType} (other : type ≠ .cc) (plain : type.isSequenced = false) :
        ¬Opening scene.right.phase (scene.toRight ++ [type]) := by
      intro opening
      rcases opening.of_concat with ⟨_, numbered⟩ | ⟨_, _, grant⟩
      · rw [plain] at numbered
        cases numbered
      · exact other grant
    refine ⟨sound.requested, fun opening => ?_⟩
    change Opening scene.right.phase (scene.toRight ++ said) at opening
    cases does with
    | still =>
      rw [List.append_nil] at opening
      exact sound.faced opening
    | numbered type sequenced =>
      rcases opening.of_concat with ⟨before, _⟩ | ⟨_, _, rfl⟩
      · exact sound.faced before
      · cases sequenced
    | accept asked =>
      rcases opening.of_concat with ⟨_, numbered⟩ | ⟨asking, _⟩
      · cases numbered
      · exact (sound.requested asking).faced false
    | connect | reject | disconnect => exact absurd opening (lasting (by decide) rfl)
  | takes type rest left said first takes =>
    have request (asking : scene.right.phase = .asking) : Requested rest := by
      have before : Requested scene.toLeft := sound.requested asking
      rw [first] at before
      exact before.tail
    refine ⟨request, fun opening => ?_⟩
    change Opening scene.right.phase (scene.toRight ++ said) at opening
    cases takes with
    | silent =>
      rw [List.append_nil] at opening
      have faced : (scene.left.hearAll scene.toLeft).Faced := sound.faced opening
      rw [first] at faced
      exact faced
    | parted | rejected =>
      rcases opening.of_concat with ⟨_, numbered⟩ | ⟨_, _, grant⟩
      · cases numbered
      · cases grant

end Scene

namespace Encounter

/-- What holds of two links from either side. -/
structure Sound (e : Encounter) : Prop where
  left : e.scene.Sound
  right : e.scene.swap.Sound

/-- Nothing waits to be sent and nothing is on its way. -/
def AtRest (e : Encounter) : Prop :=
  e.left.link.pending = 0 ∧ e.right.link.pending = 0 ∧ e.left.incoming = [] ∧ e.right.incoming = []

instance (e : Encounter) : Decidable e.AtRest := inferInstanceAs (Decidable (_ ∧ _))

variable {e : Encounter}

theorem act_sound (sound : e.Sound) (move : Move) : (e.act move).Sound := by
  rcases e.act_moves move with same | moves
  · exact ⟨same ▸ sound.left, same ▸ sound.right⟩
  · exact ⟨Scene.moves_own moves sound.left, Scene.moves_other moves sound.right⟩

theorem step_sound (sound : e.Sound) (turn : Turn) : (e.step turn).Sound := by
  cases turn with
  | left move => exact act_sound sound move
  | right move =>
    have turned : e.swap.Sound := ⟨sound.right, sound.left⟩
    have acted := act_sound turned move
    exact ⟨acted.right, acted.left⟩

theorem run_sound (sound : e.Sound) (turns : List Turn) : (e.run turns).Sound := by
  induction turns generalizing e with
  | nil => exact sound
  | cons turn turns ih => exact ih (step_sound sound turn)

theorem fresh_sound (address : LinkAddress) (left right : UInt8) :
    (fresh address left right).Sound := by
  constructor <;> exact ⟨by rintro ⟨⟩, by rintro (⟨⟨⟩, _⟩ | ⟨⟨⟩, _⟩)⟩

end Encounter

namespace Party

def Connected (party : Party) : Prop := party.link.session.status = .connected

instance (party : Party) : Decidable party.Connected := inferInstanceAs (Decidable (_ = _))

/-- A side that is not connected and does not keep the other side from being connected: it was asked
for a connection and has not answered, or its last one ended without a word. -/
def Excused (party : Party) : Prop :=
  party.link.session.status = .connecting ∧ party.link.session.initiator = false ∨
    party.link.session.status = .disconnected ∧ party.hushed = true

theorem connected_or_excused {party : Party} (faced : party.standing.Faced) :
    party.Connected ∨ party.Excused := by
  rcases faced with connected | asked | ⟨free, hushed⟩
  · exact .inl (party.link.session.phase_connected_iff.mp connected)
  · exact .inr (.inl (party.link.session.phase_asked_iff.mp asked))
  · exact .inr (.inr ⟨party.link.session.phase_free_iff.mp free, hushed⟩)

end Party

namespace Encounter

variable {e : Encounter}

theorem toRight_nil (rest : e.AtRest) : e.scene.toRight = [] := by
  have none : e.left.link.queue.toList = [] :=
    List.eq_nil_of_length_eq_zero (e.left.link.queue.size_eq ▸ rest.1)
  rw [scene, none, rest.2.2.2]
  rfl

theorem AtRest.swap (rest : e.AtRest) : e.swap.AtRest :=
  ⟨rest.2.1, rest.1, rest.2.2.2, rest.2.2.1⟩

theorem rest_faced (rest : e.AtRest) (sound : e.scene.Sound) (connected : e.left.Connected) :
    e.right.Connected ∨ e.right.Excused := by
  have onward : e.scene.toRight = [] := toRight_nil rest
  have back : e.scene.toLeft = [] := toRight_nil rest.swap
  have phase : e.scene.left.phase = .connected :=
    e.left.link.session.phase_connected_iff.mpr connected
  have numbered : AllNumbered e.scene.toLeft := by
    rw [back]
    rintro _ ⟨⟩
  have faced := sound.faced (.inl ⟨phase, numbered⟩)
  rw [onward] at faced
  exact Party.connected_or_excused faced

/-- Two links that are new and then used in whatever way agree once nothing is on its way between
them: if one is connected, then so is the other, unless it was asked for a connection and has not
answered, or its last connection ended without a word, because it took in a frame reject or had no
room for the answer. -/
theorem rest_agrees (address : LinkAddress) (left right : UInt8) (turns : List Turn) :
    let e := (fresh address left right).run turns
    e.AtRest →
      (e.left.Connected → e.right.Connected ∨ e.right.Excused) ∧
        (e.right.Connected → e.left.Connected ∨ e.left.Excused) := by
  intro e rest
  have sound : e.Sound := run_sound (fresh_sound address left right) turns
  exact ⟨rest_faced rest sound.left, rest_faced rest.swap sound.right⟩

def opened : List Turn :=
  [.left (.perform .connect), .left .transmit, .right .deliver, .right (.perform .accept),
    .right .transmit, .left .deliver]

/-- The third of three frames finds no room on the right, and the left takes its rejection in. -/
def frameRejected : List Turn :=
  opened ++ (List.replicate 3 [.left (.perform (.send (Octets.zeros 100))), .left .transmit,
    .right .deliver]).flatten ++ [.right .transmit, .left .deliver]

/-- The right asks for a connection and has no room to say that it does not any more, neither when
it hears a stray frame nor when it is granted the connection. -/
def wordLost : List Turn :=
  .right (.perform .connect) :: List.replicate 31 (.right (.perform .acknowledge)) ++
    [.left (.perform .acknowledge), .left .transmit, .right .deliver, .right .transmit,
      .left .deliver, .left (.perform .accept), .right (.perform .acknowledge), .left .transmit,
      .right .deliver] ++ (List.replicate 32 [.right .transmit, .left .deliver]).flatten

/-- The left asks for a connection, gives it up for a stray frame, and asks again. It takes the
grant of its first request for that of the second, which the right has not answered. -/
def grantOutdated : List Turn :=
  [.right (.perform .acknowledge), .left (.perform .connect), .right .transmit, .left .transmit,
    .left .deliver, .right .deliver, .right (.perform .accept), .right .transmit,
    .left (.perform .connect), .left .transmit, .left .transmit, .left .deliver, .right .deliver,
    .right .deliver]

def Disagrees (e : Encounter) : Prop := e.AtRest ∧ ¬(e.left.Connected ↔ e.right.Connected)

instance (e : Encounter) : Decidable e.Disagrees := inferInstanceAs (Decidable (_ ∧ _))

theorem rest_disagrees :
    ((fresh ⟨.masked 4, .masked 32⟩ 4 4).run frameRejected).Disagrees ∧
      ((fresh ⟨.masked 4, .masked 32⟩ 4 4).run wordLost).Disagrees ∧
      ((fresh ⟨.masked 4, .masked 32⟩ 4 4).run grantOutdated).Disagrees := by
  decide +kernel

/-- Once the frame is rejected the right side is connected and the left side is excused; the left
side is connected on the outdated grant, and the right side is excused. -/
theorem rest_agrees_excused :
    let rejected := (fresh ⟨.masked 4, .masked 32⟩ 4 4).run frameRejected
    let outdated := (fresh ⟨.masked 4, .masked 32⟩ 4 4).run grantOutdated
    (rejected.AtRest ∧ rejected.right.Connected ∧
        (rejected.left.Connected ∨ rejected.left.Excused)) ∧
      outdated.AtRest ∧ outdated.left.Connected ∧
        (outdated.right.Connected ∨ outdated.right.Excused) := by
  intro rejected outdated
  have quiet : rejected.AtRest := by decide +kernel
  have right : rejected.right.Connected := by decide +kernel
  have still : outdated.AtRest := by decide +kernel
  have left : outdated.left.Connected := by decide +kernel
  exact ⟨⟨quiet, right, (rest_agrees _ 4 4 frameRejected quiet).2 right⟩, still, left,
    (rest_agrees _ 4 4 grantOutdated still).1 left⟩

end Encounter

end NearField.Llcp
