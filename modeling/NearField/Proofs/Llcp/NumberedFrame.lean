import NearField.Proofs.Llcp.Exhaustion
import NearField.Proofs.Llcp.Outstanding
import NearField.Proofs.Llcp.PduCodec

/-!
Numbered PDUs on an open connection. Main statement: one is taken in as a whole when its numbers are
in order and its information field fits; else the session stays as it is in every part, and the
peer is sent one report with the first reason against the PDU, unless no more frames can wait.
-/

namespace NearField.Llcp

/-- A report whose numbers fit four bits each is read as it was written. -/
theorem FrameReject.ofOctets_toOctets {report : FrameReject} (flags : report.flags < 16)
    (vs : report.vs < 16) (vr : report.vr < 16) (vsa : report.vsa < 16) (vra : report.vra < 16) :
    ofOctets report.toOctets = .ok report := by
  have first : (report.flags <<< 4) ||| report.type.code =
      packNibbles report.flags report.type.code := by
    rw [packNibbles, (keeps_low_iff report.type.code 4 rfl rfl).mpr report.type.code_lt]
  rw [toOctets, first, ofOctets]
  simp only [lowNibble_packNibbles, highNibble_packNibbles, mod_of_lt flags, mod_of_lt vs,
    mod_of_lt vr, mod_of_lt vsa, mod_of_lt vra, mod_of_lt report.type.code_lt,
    PduType.ofCode?_code]

/-- Whether counting up from one number, by less than a full round, another one comes no later than
the last. -/
def Between (first nr last : UInt8) : Prop :=
  ∃ i j : Nat, i ≤ j ∧ j < 16 ∧ nr = number (first.toNat + i) ∧ last = number (first.toNat + j)

theorem toNat_distance_counted (first : UInt8) {count : Nat} (near : count < 16) :
    (numberDistance first (number (first.toNat + count))).toNat = count := by
  have bound : first.toNat < 256 := first.toNat_lt
  rw [toNat_numberDistance, toNat_number]
  omega

theorem Session.acknowledgeable_iff {s : Session} {nr : UInt8} (small : nr < 16)
    (vs : s.vs < 16) : s.acknowledgeable nr = true ↔ Between s.vsa nr s.vs := by
  rw [acknowledgeable, decide_eq_true_eq, UInt8.le_iff_toNat_le]
  constructor
  · intro ordered
    have near : (numberDistance s.vsa s.vs).toNat < 16 := by
      rw [toNat_numberDistance]
      exact Nat.mod_lt _ (by decide)
    exact ⟨_, _, ordered, near, (number_add_distance s.vsa small).symm,
      (number_add_distance s.vsa vs).symm⟩
  · rintro ⟨i, j, ordered, near, rfl, last⟩
    rw [last, toNat_distance_counted s.vsa near, toNat_distance_counted s.vsa (by omega)]
    exact ordered

/-- Whether nothing is against a numbered PDU on an open connection. -/
structure Session.Welcomes (s : Session) (pdu : Pdu) (sequence : Sequence) : Prop where
  expected : pdu.type = .i → sequence.ns = s.vr
  covered : Between s.vsa sequence.nr s.vs
  fits : pdu.type = .i → s.received.used + pdu.info.length ≤ receiveRoom

/-- The first reason against a numbered PDU, as the flag that reports it. -/
inductive Session.Objects (s : Session) (pdu : Pdu) (sequence : Sequence) : UInt8 → Prop
  | unexpected (type : pdu.type = .i) (other : sequence.ns ≠ s.vr) : Objects s pdu sequence 0x01
  | uncovered (expected : pdu.type = .i → sequence.ns = s.vr)
      (outside : ¬Between s.vsa sequence.nr s.vs) : Objects s pdu sequence 0x02
  | crowded (type : pdu.type = .i) (expected : sequence.ns = s.vr)
      (covered : Between s.vsa sequence.nr s.vs)
      (long : receiveRoom < s.received.used + pdu.info.length) : Objects s pdu sequence 0x04

section Numbered

variable {s : Session} {pdu : Pdu} {sequence : Sequence}

theorem Session.Objects.not_welcomes {flag : UInt8} (objects : s.Objects pdu sequence flag) :
    ¬s.Welcomes pdu sequence := by
  rintro ⟨expected, covered, fits⟩
  cases objects with
  | unexpected type other => exact other (expected type)
  | uncovered _ outside => exact outside covered
  | crowded type _ _ long => exact absurd (fits type) (Nat.not_le.mpr long)

theorem Session.Objects.flag_lt {flag : UInt8} (objects : s.Objects pdu sequence flag) :
    flag < 16 := by
  cases objects <;> decide

/-- The session once a numbered PDU is taken in: an information PDU leaves its payload and is
counted, and the other two say whether the peer asks for a pause. -/
def Session.welcoming (s : Session) (pdu : Pdu) (sequence : Sequence) : Session :=
  if pdu.type = .i then
    { s with
      received := (s.received.write pdu.info).2
      vr := number (s.vr.toNat + 1)
      vsa := sequence.nr }
  else { s with vsa := sequence.nr, remoteBusy := pdu.type = .rnr }

/-- A numbered PDU on an open connection is taken in if nothing is against it, and else the first
reason against it is reported. -/
theorem Session.receive_numbered (address : LinkAddress) (connected : s.status = .connected)
    (sequenced : pdu.type.isSequenced = true) (present : pdu.sequence = some sequence)
    (vs : s.vs < 16) (vr : s.vr < 16) (nr : sequence.nr < 16) :
    s.Welcomes pdu sequence ∧ s.receive address pdu = .quiet (s.welcoming pdu sequence) ∨
      ∃ flag, s.Objects pdu sequence flag ∧
        s.receive address pdu = .sending (s.rejectFrame address flag pdu) s := by
  have between : s.acknowledgeable sequence.nr = true ↔ Between s.vsa sequence.nr s.vs :=
    acknowledgeable_iff nr vs
  have counted : nextNumber s.vr = number (s.vr.toNat + 1) := by
    rw [← nextNumber_number, number_toNat vr]
  by_cases type : pdu.type = .i
  · have receives : s.receive address pdu = s.receiveInformation address pdu := by
      rw [receive, connected, type]
    rw [receives, receiveInformation, present]
    simp only
    split
    · rename_i other
      exact .inr ⟨_, .unexpected type other, rfl⟩
    · rename_i same
      have expected : sequence.ns = s.vr := not_not.mp same
      split
      · rename_i uncovered
        have outside : ¬Between s.vsa sequence.nr s.vs := by
          rw [← between]
          simpa using uncovered
        exact .inr ⟨_, .uncovered (fun _ => expected) outside, rfl⟩
      · rename_i acknowledged
        have covered : Between s.vsa sequence.nr s.vs := by
          rw [← between]
          simpa using acknowledged
        split
        · rename_i long
          exact .inr ⟨_, .crowded type expected covered long, rfl⟩
        · rename_i short
          refine .inl ⟨⟨fun _ => expected, covered, fun _ => Nat.not_lt.mp short⟩, ?_⟩
          rw [welcoming, if_pos type, counted]
  · have ready : pdu.type = .rr ∨ pdu.type = .rnr :=
      ((PduType.isSequenced_iff _).mp sequenced).resolve_left type
    have receives : s.receive address pdu = s.receiveReady address pdu := by
      rcases ready with kind | kind <;> rw [receive, connected, kind]
    rw [receives, receiveReady, present]
    simp only [Option.map_some, Option.getD_some]
    split
    · rename_i acknowledged
      refine .inl ⟨⟨fun kind => absurd kind type, between.mp acknowledged,
        fun kind => absurd kind type⟩, ?_⟩
      rw [welcoming, if_neg type]
    · rename_i uncovered
      exact .inr ⟨_, .uncovered (fun kind => absurd kind type) (mt between.mpr uncovered), rfl⟩

end Numbered

/-- The numbers that a report quotes have four bits, so that it quotes them in full, and what the
receive buffer holds is followed by zeros. -/
structure Session.Narrow (s : Session) : Prop where
  vs_lt : s.vs < 16
  vsa_lt : s.vsa < 16
  vr_lt : s.vr < 16
  vra_lt : s.vra < 16
  received : s.received.Sound

def LinkUse.WellFormed : LinkUse → Prop
  | operate operation => operation.WellFormed
  | write _ => True

section Narrow

variable {s : Session} {address : LinkAddress} {operation : LinkOperation}
  {transition : Transition}

theorem Session.narrow_of_rest (vs : s.vs = 0) (vsa : s.vsa = 0) (vr : s.vr = 0) (vra : s.vra = 0)
    (received : s.received.Sound) : s.Narrow where
  vs_lt := vs ▸ by decide
  vsa_lt := vsa ▸ by decide
  vr_lt := vr ▸ by decide
  vra_lt := vra ▸ by decide
  received := received

theorem Session.received_narrow (narrow : s.Narrow) {received : ReceiveBuffer}
    (intact : received.Sound) : { s with received }.Narrow :=
  { narrow with received := intact }

theorem Session.reset_narrow (s : Session) : s.reset.Narrow :=
  narrow_of_rest rfl rfl rfl rfl ReceiveBuffer.empty_sound

theorem Session.reception_narrow {pdu : Pdu} (narrow : s.Narrow) (numbered : pdu.Numbered)
    (reception : Reception s address pdu transition) : transition.next.Narrow := by
  cases reception with
  | ended | parted => exact s.reset_narrow
  | asked | granted =>
    obtain ⟨miu, remoteWindow, eq⟩ := s.negotiate_keeps pdu.info
    rw [eq]
    exact { narrow with }
  | taken sequence _ _ present =>
    exact { narrow with
      vsa_lt := (numbered sequence present).2
      vr_lt := nextNumber_lt s.vr
      received := (ReceiveBuffer.write_sound narrow.received pdu.info).1 }
  | ready =>
    have small : (pdu.sequence.map Sequence.nr).getD s.vsa < 16 := by
      cases present : pdu.sequence with
      | none => exact narrow.vsa_lt
      | some sequence => exact (numbered sequence present).2
    exact { narrow with vsa_lt := small }
  | rejected => exact narrow

theorem Session.leads_narrow (narrow : s.Narrow) (wellFormed : operation.WellFormed)
    (leads : Leads s address operation transition) : transition.next.Narrow := by
  cases leads with
  | connect | accept | disconnect => exact { narrow with }
  | reject => exact s.reset_narrow
  | acknowledge => exact { narrow with vra_lt := narrow.vr_lt }
  | send => exact { narrow with vs_lt := nextNumber_lt s.vs }
  | receive pdu _ reception => exact reception_narrow narrow wellFormed reception

end Narrow

namespace DataLink

variable {link : DataLink} {pdu : Pdu} {sequence : Sequence}

theorem use_narrow (narrow : link.session.Narrow) {use : LinkUse} (wellFormed : use.WellFormed) :
    (link.use use).session.Narrow := by
  cases use with
  | write bytes =>
    rw [DataLink.use, writeReceived_link]
    exact Session.received_narrow narrow (ReceiveBuffer.write_sound narrow.received bytes).1
  | operate operation =>
    refine operate_session narrow (fun _ => Session.leads_narrow narrow wellFormed) ?_ ?_
    · exact Session.narrow_of_rest rfl rfl rfl rfl ReceiveBuffer.empty_sound
    · intro count
      exact Session.received_narrow narrow (ReceiveBuffer.consume_sound narrow.received count).1

theorem useAll_narrow (narrow : link.session.Narrow) {uses : List LinkUse}
    (wellFormed : ∀ use ∈ uses, use.WellFormed) : (link.useAll uses).session.Narrow := by
  induction uses generalizing link with
  | nil => exact narrow
  | cons use uses ih =>
    obtain ⟨first, others⟩ := List.forall_mem_cons.mp wellFormed
    exact ih (use_narrow narrow first) others

/-- Octets that tell the peer of a link the first reason against a numbered PDU and the sequence
state that the link is in. -/
def Reports (link : DataLink) (pdu : Pdu) (sequence : Sequence) (frame : Octets) : Prop :=
  ∃ info flag,
    Pdu.decode frame = .ok
      { dsap := link.address.remoteSap, type := .frmr, ssap := link.address.localSap, info } ∧
    FrameReject.ofOctets info = .ok
      { flags := flag, type := pdu.type, sequence := sequence.toOctet
        vs := link.session.vs, vr := link.session.vr
        vsa := link.session.vsa, vra := link.session.vra } ∧
    link.session.Objects pdu sequence flag

theorem rejectFrame_reports {flag : UInt8} (narrow : link.session.Narrow)
    (present : pdu.sequence = some sequence) (objects : link.session.Objects pdu sequence flag) :
    ∃ frame, link.session.rejectFrame link.address flag pdu = .ok frame ∧
      frame.length ≤ bufferRoom ∧ link.Reports pdu sequence frame := by
  let report : FrameReject :=
    { flags := flag, type := pdu.type, sequence := sequence.toOctet
      vs := link.session.vs, vr := link.session.vr
      vsa := link.session.vsa, vra := link.session.vra }
  have short : report.toOctets.length = 4 := rfl
  have encoded : link.session.rejectFrame link.address flag pdu =
      .ok (header link.address.remoteSap .frmr link.address.localSap ++ report.toOctets) := by
    rw [Session.rejectFrame_ok, present]
    rfl
  have decoded := decode_plain link.address.remoteSap link.address.localSap .frmr report.toOctets
    rfl (by omega)
  have read : FrameReject.ofOctets report.toOctets = .ok report :=
    FrameReject.ofOctets_toOctets objects.flag_lt narrow.vs_lt narrow.vr_lt narrow.vsa_lt
      narrow.vra_lt
  refine ⟨_, encoded, ?_, report.toOctets, flag, decoded, read, objects⟩
  rw [List.length_append, length_header, short]
  decide

inductive Settled (link : DataLink) (pdu : Pdu) (sequence : Sequence) :
    Except Error Unit × DataLink → Prop
  | stored (received : ReceiveBuffer) (type : pdu.type = .i)
      (welcomes : link.session.Welcomes pdu sequence)
      (used : received.used = link.session.received.used + pdu.info.length)
      (appended : received.contents = link.session.received.contents ++ pdu.info)
      (intact : received.Sound) :
      Settled link pdu sequence
        (.ok (), { link with session := { link.session with
          received, vr := number (link.session.vr.toNat + 1), vsa := sequence.nr } })
  | heeded (type : pdu.type ≠ .i) (welcomes : link.session.Welcomes pdu sequence) :
      Settled link pdu sequence
        (.ok (), { link with session := { link.session with
          vsa := sequence.nr, remoteBusy := pdu.type = .rnr } })
  | reported (frame : Octets) (queue : TransmitQueue)
      (unwelcome : ¬link.session.Welcomes pdu sequence) (room : link.pending < queueDepth)
      (last : queue.toList = link.queue.toList ++ [frame])
      (reports : link.Reports pdu sequence frame) :
      Settled link pdu sequence (.ok (), { link with queue })
  | unreported (unwelcome : ¬link.session.Welcomes pdu sequence)
      (full : link.pending = queueDepth) :
      Settled link pdu sequence (.error (.poolExhausted queueDepth), link)

theorem receive_settled (narrow : link.session.Narrow) (bound : link.pending ≤ queueDepth)
    (connected : link.session.status = .connected) (sequenced : pdu.type.isSequenced = true)
    (present : pdu.sequence = some sequence) (nr : sequence.nr < 16) :
    link.Settled pdu sequence (link.receive pdu) := by
  rcases Session.receive_numbered link.address connected sequenced present narrow.vs_lt
    narrow.vr_lt nr with ⟨welcomes, receives⟩ | ⟨flag, objects, receives⟩
  · have taken : link.receive pdu =
        (.ok (), { link with session := link.session.welcoming pdu sequence }) := by
      rw [receive, receives]
      rfl
    rw [taken, Session.welcoming]
    by_cases type : pdu.type = .i
    · have fits := welcomes.fits type
      obtain ⟨intact, appended⟩ := ReceiveBuffer.write_sound narrow.received pdu.info
      rw [List.take_of_length_le (by omega)] at appended
      have used : (link.session.received.write pdu.info).2.used =
          link.session.received.used + pdu.info.length := by
        change _ + min _ _ = _
        omega
      rw [if_pos type]
      exact .stored _ type welcomes used appended intact
    · rw [if_neg type]
      exact .heeded type welcomes
  · obtain ⟨frame, encoded, short, reports⟩ := rejectFrame_reports narrow present objects
    have commits : link.receive pdu = link.commit (.sending (.ok frame) link.session) := by
      rw [receive, receives, encoded]
    rw [commits]
    rcases Nat.lt_or_eq_of_le bound with room | full
    · obtain ⟨queue, queued, last⟩ := commit_room link.session room short
      rw [queued]
      exact .reported frame queue objects.not_welcomes room last reports
    · rw [commit, Transition.commit, TransmitQueue.push_full (Nat.le_of_eq full.symm)]
      exact .unreported objects.not_welcomes full

theorem Settled.accepts_iff (settled : link.Settled pdu sequence (link.receive pdu))
    (connected : link.session.status = .connected) (sequenced : pdu.type.isSequenced = true) :
    link.Accepts pdu ↔ link.session.Welcomes pdu sequence := by
  unfold Accepts
  generalize link.receive pdu = outcome at settled
  cases settled with
  | stored _ _ welcomes | heeded _ welcomes =>
    exact ⟨fun _ => welcomes, fun _ => ⟨connected, sequenced, rfl, rfl⟩⟩
  | reported frame queue unwelcome _ last =>
    refine ⟨fun accepts => ?_, fun welcomes => absurd welcomes unwelcome⟩
    have same : queue.size = link.queue.size := accepts.2.2.2
    rw [queue.size_eq, link.queue.size_eq, last, List.length_append, List.length_singleton] at same
    omega
  | unreported unwelcome =>
    refine ⟨fun accepts => ?_, fun welcomes => absurd welcomes unwelcome⟩
    cases accepts.2.2.1

/-- Whatever an open connection was used for, a numbered PDU is accepted if and only if its numbers
are in order and its information field fits, and then it is taken in as a whole. Else the session
stays as it is and one report is queued, which is read as the first reason against the PDU and the
sequence state; with thirty-two frames waiting the call fails and nothing changes. -/
theorem numbered_whole (address : LinkAddress) (window : UInt8) (uses : List LinkUse)
    (wellFormed : ∀ use ∈ uses, use.WellFormed) :
    let link := (DataLink.offering address window).useAll uses
    link.session.status = .connected → ∀ (pdu : Pdu) (sequence : Sequence),
      pdu.type.isSequenced = true → pdu.sequence = some sequence →
      sequence.ns < 16 → sequence.nr < 16 →
      (link.Accepts pdu ↔ link.session.Welcomes pdu sequence) ∧
        link.Settled pdu sequence (link.receive pdu) := by
  intro link connected pdu sequence sequenced present _ nr
  have fresh : (DataLink.offering address window).session.Narrow :=
    Session.narrow_of_rest rfl rfl rfl rfl ReceiveBuffer.empty_sound
  have narrow := useAll_narrow fresh wellFormed
  have none_waits : (DataLink.offering address window).pending ≤ queueDepth :=
    Nat.zero_le queueDepth
  have bound := useAll_pending none_waits uses
  have settled := receive_settled narrow bound connected sequenced present nr
  exact ⟨settled.accepts_iff connected sequenced, settled⟩

/-- A frame that is next in order and acknowledges what was sent, with one octet more than there is
room for: nothing of it is accepted. -/
theorem numbered_whole_crowded :
    let address : LinkAddress := ⟨.masked 4, .masked 32⟩
    let request : Pdu := ⟨.masked 4, .connect, .masked 32, none, [0x05, 0x01, 0x03]⟩
    let uses : List LinkUse := [.operate (.receive request), .operate .accept,
      .operate (.send [1]), .write (List.replicate 255 7)]
    let link := (DataLink.offering address 4).useAll uses
    let pdu : Pdu := ⟨.masked 4, .i, .masked 32, some ⟨0, 1⟩, [8, 9]⟩
    (∀ use ∈ uses, use.WellFormed) ∧ link.session.status = .connected ∧ ¬link.Accepts pdu ∧
      (link.Accepts pdu ↔ link.session.Welcomes pdu ⟨0, 1⟩) ∧
        link.Settled pdu ⟨0, 1⟩ (link.receive pdu) := by
  intro address request uses link pdu
  have wellFormed : ∀ use ∈ uses, use.WellFormed := by
    simp [uses, LinkUse.WellFormed, LinkOperation.WellFormed, Pdu.Numbered, request,
      -List.reduceReplicate]
  have connected : link.session.status = .connected := by decide +kernel
  have refused : ¬link.Accepts pdu := by decide +kernel
  exact ⟨wellFormed, connected, refused, numbered_whole address 4 uses wellFormed connected pdu
    ⟨0, 1⟩ rfl rfl (by decide) (by decide)⟩

end DataLink

end NearField.Llcp
