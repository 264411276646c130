import NearField.Proofs.Llcp.Operation
import NearField.Proofs.Llcp.Param

/-!
The invariant of a data link connection. Main statements: every operation keeps it, and the frames
that were sent and that no accepted receive number has covered are as many as the sequence state
says.
-/

namespace NearField.Llcp

structure Agreed (miu : UInt16) (window : UInt8) : Prop where
  miu_ge : 128 ≤ miu.toNat
  miu_le : miu.toNat ≤ 2175
  window_lt : window < 16

/-- What holds of a session whatever happened to it. -/
structure Session.Sound (s : Session) : Prop where
  vs_lt : s.vs < 16
  vsa_lt : s.vsa < 16
  vr_lt : s.vr < 16
  vra_lt : s.vra < 16
  localWindow_lt : s.localWindow < 16
  agreed : Agreed s.miu s.remoteWindow
  outstanding_le : s.outstanding ≤ s.remoteWindow
  received : s.received.Sound
  unopened : s.status = .disconnected ∨ s.status = .connecting →
    s.vs = 0 ∧ s.vsa = 0 ∧ s.vr = 0 ∧ s.vra = 0 ∧ s.received.used = 0 ∧ s.remoteBusy = false
  passive : s.status = .disconnected → s.initiator = false

namespace Session

theorem sound_of_rest {s : Session}
    (rest : s.vs = 0 ∧ s.vsa = 0 ∧ s.vr = 0 ∧ s.vra = 0 ∧ s.received.used = 0 ∧
      s.remoteBusy = false)
    (offered : s.localWindow < 16) (agreed : Agreed s.miu s.remoteWindow)
    (received : s.received.Sound) (passive : s.status = .disconnected → s.initiator = false) :
    s.Sound where
  vs_lt := by rw [rest.1]; decide
  vsa_lt := by rw [rest.2.1]; decide
  vr_lt := by rw [rest.2.2.1]; decide
  vra_lt := by rw [rest.2.2.2.1]; decide
  localWindow_lt := offered
  agreed := agreed
  outstanding_le := by
    rw [outstanding, rest.1, rest.2.1, numberDistance_self]
    exact UInt8.zero_le
  received := received
  unopened := fun _ => rest
  passive := passive

theorem default_agreed : Agreed defaultMiu peerDefaultWindow := ⟨by decide, by decide, by decide⟩

theorem offering_sound (window : UInt8) : (offering window).Sound :=
  sound_of_rest ⟨rfl, rfl, rfl, rfl, rfl, rfl⟩ (lowNibble_lt window) default_agreed
    ReceiveBuffer.empty_sound (fun _ => rfl)

theorem reset_sound {s : Session} (sound : s.Sound) : s.reset.Sound :=
  sound_of_rest ⟨rfl, rfl, rfl, rfl, rfl, rfl⟩ sound.localWindow_lt sound.agreed
    ReceiveBuffer.empty_sound (fun _ => rfl)

theorem renew_sound {s : Session} (sound : s.Sound) : s.renew.Sound :=
  sound_of_rest ⟨rfl, rfl, rfl, rfl, rfl, rfl⟩ sound.localWindow_lt default_agreed
    ReceiveBuffer.empty_sound (fun _ => rfl)

theorem extended_agreed {extension : UInt16} {window : UInt8}
    (narrow : (Param.miux extension).Narrow) (small : window < 16) :
    Agreed (defaultMiu + extension) window := by
  have bound : extension.toNat ≤ 2047 := narrow
  have sum : (defaultMiu + extension).toNat = 128 + extension.toNat := by
    rw [UInt16.toNat_add]
    simp only [defaultMiu, UInt16.reduceToNat]
    omega
  exact ⟨by omega, by omega, small⟩

theorem foldl_apply {params : List Param} (narrow : ∀ param ∈ params, param.Narrow) (s : Session)
    (agreed : Agreed s.miu s.remoteWindow) :
    ∃ miu window, params.foldl apply s = { s with miu, remoteWindow := window } ∧
      Agreed miu window := by
  induction params generalizing s with
  | nil => exact ⟨s.miu, s.remoteWindow, rfl, agreed⟩
  | cons param params ih =>
    have first := narrow param List.mem_cons_self
    have others := fun p inside => narrow p (List.mem_cons_of_mem _ inside)
    rw [List.foldl_cons]
    cases param with
    | miux extension => exact ih others _ (extended_agreed first agreed.window_lt)
    | rw window => exact ih others _ ⟨agreed.miu_ge, agreed.miu_le, first⟩
    | _ => exact ih others _ agreed

theorem negotiate_agreed {s : Session} (agreed : Agreed s.miu s.remoteWindow) (info : Octets) :
    ∃ miu window, s.negotiate info = { s with miu, remoteWindow := window } ∧
      Agreed miu window := by
  unfold negotiate
  split
  · exact ⟨s.miu, s.remoteWindow, rfl, agreed⟩
  · rename_i params parsed
    exact foldl_apply (Param.parseAll_narrow parsed) s agreed

theorem outstanding_covered {s : Session} {nr : UInt8} (covered : s.acknowledgeable nr = true)
    (small : nr < 16) (vs : s.vs < 16) (vsa : s.vsa < 16) :
    (numberDistance nr s.vs).toNat =
      s.outstanding.toNat - (numberDistance s.vsa nr).toNat := by
  simp only [acknowledgeable, decide_eq_true_eq, UInt8.le_iff_toNat_le, toNat_numberDistance,
    UInt8.lt_iff_toNat_lt, UInt8.reduceToNat, outstanding] at *
  omega

theorem covered_le {s : Session} {nr : UInt8} (sound : s.Sound)
    (covered : s.acknowledgeable nr = true) (small : nr < 16) :
    numberDistance nr s.vs ≤ s.remoteWindow := by
  have bound := sound.outstanding_le
  have after := outstanding_covered covered small sound.vs_lt sound.vsa_lt
  rw [UInt8.le_iff_toNat_le] at bound ⊢
  omega

theorem outstanding_sent {s : Session} (sound : s.Sound) (room : s.outstanding < s.remoteWindow) :
    (numberDistance s.vsa (nextNumber s.vs)).toNat = s.outstanding.toNat + 1 := by
  have vs := UInt8.lt_iff_toNat_lt.mp sound.vs_lt
  have vsa := UInt8.lt_iff_toNat_lt.mp sound.vsa_lt
  have window := UInt8.lt_iff_toNat_lt.mp sound.agreed.window_lt
  have free := UInt8.lt_iff_toNat_lt.mp room
  rw [outstanding] at free ⊢
  rw [toNat_numberDistance] at free ⊢
  rw [toNat_numberDistance, toNat_nextNumber sound.vs_lt]
  simp only [UInt8.reduceToNat] at vs vsa window
  omega

theorem not_unopened {s : Session} (connected : s.status = .connected) :
    ¬(s.status = .disconnected ∨ s.status = .connecting) := by
  rw [connected]
  decide

theorem reception_sound {s : Session} {address : LinkAddress} {pdu : Pdu}
    {transition : Transition} (sound : s.Sound) (numbered : pdu.Numbered)
    (reception : Reception s address pdu transition) : transition.next.Sound := by
  cases reception with
  | ended => exact reset_sound sound
  | parted => exact reset_sound sound
  -- a request and its grant meet a session in which nothing was exchanged
  | asked free type =>
    obtain ⟨miu, window, eq, agreed⟩ := negotiate_agreed sound.agreed pdu.info
    rw [eq]
    exact sound_of_rest (sound.unopened (.inl free)) sound.localWindow_lt agreed sound.received
      (fun _ => rfl)
  | granted waiting own type =>
    obtain ⟨miu, window, eq, agreed⟩ := negotiate_agreed sound.agreed pdu.info
    rw [eq]
    exact sound_of_rest (sound.unopened (.inr waiting)) sound.localWindow_lt agreed sound.received
      (fun closed => by cases closed)
  | taken sequence connected type present expected covered fits =>
    have small := (numbered sequence present).2
    have bounded := covered_le sound covered small
    exact { sound with
      vsa_lt := small
      vr_lt := nextNumber_lt s.vr
      outstanding_le := bounded
      received := (ReceiveBuffer.write_sound sound.received pdu.info).1
      unopened := fun closed => absurd closed (not_unopened connected) }
  | ready connected type covered =>
    have small : (pdu.sequence.map Sequence.nr).getD s.vsa < 16 := by
      cases present : pdu.sequence with
      | none => exact sound.vsa_lt
      | some sequence => exact (numbered sequence present).2
    have bounded := covered_le sound covered small
    exact { sound with
      vsa_lt := small
      outstanding_le := bounded
      unopened := fun closed => absurd closed (not_unopened connected) }
  | rejected => exact sound

/-- Every transition that an operation leads to keeps a session sound. -/
theorem leads_sound {s : Session} {address : LinkAddress} {operation : LinkOperation}
    {transition : Transition} (sound : s.Sound) (wellFormed : operation.WellFormed)
    (leads : Leads s address operation transition) : transition.next.Sound := by
  cases leads with
  | connect free =>
    exact { sound with
      unopened := fun _ => sound.unopened (.inl free)
      passive := fun closed => by cases closed }
  | accept asked peer =>
    exact { sound with
      unopened := fun closed => by rcases closed with closed | closed <;> cases closed
      passive := fun closed => by cases closed }
  | reject => exact reset_sound sound
  | disconnect =>
    exact { sound with
      unopened := fun closed => by rcases closed with closed | closed <;> cases closed
      passive := fun closed => by cases closed }
  | acknowledge =>
    exact { sound with
      vra_lt := sound.vr_lt
      unopened := fun closed => by
        obtain ⟨vs, vsa, vr, _, others⟩ := sound.unopened closed
        exact ⟨vs, vsa, vr, vr, others⟩ }
  | send data connected short ready room =>
    have bounded : numberDistance s.vsa (nextNumber s.vs) ≤ s.remoteWindow := by
      rw [UInt8.le_iff_toNat_le, outstanding_sent sound room]
      exact UInt8.lt_iff_toNat_lt.mp room
    exact { sound with
      vs_lt := nextNumber_lt s.vs
      outstanding_le := bounded
      unopened := fun closed => absurd closed (not_unopened connected) }
  | receive pdu transition reception => exact reception_sound sound wellFormed reception

end Session

end NearField.Llcp
