import NearField.Proofs.Llcp.Stream

/-!
Reliable delivery over an open connection. Main statement: as long as both sides stay connected, the
payloads taken in on one side are the first ones sent on the other, in order, and the sequence
numbers of both sides are the counts of what was sent, taken in and acknowledged.
-/

namespace NearField.Llcp

/-- What holds of one direction of a conversation while both sides are connected and the receiver
has offered a window. -/
structure Stream (window : UInt8) (sender receiver : Peer) : Prop where
  window_lt : window < 16
  window_eq : sender.link.session.remoteWindow = window
  vs_eq : sender.link.session.vs = number sender.sent.length
  vsa_eq : sender.link.session.vsa = number sender.acknowledged
  vr_eq : receiver.link.session.vr = number receiver.accepted.length
  in_order : receiver.accepted = sender.sent.take receiver.accepted.length
  within : sender.sent.length ≤ sender.acknowledged + window.toNat
  intact : receiver.link.session.received.Sound
  stored : receiver.consumed ++ receiver.link.session.received.contents =
    receiver.accepted.flatten
  flow : ∃ next, receiver.accepted.length ≤ next ∧ next ≤ sender.sent.length ∧
    Flow sender.accepted.length next receiver.acknowledged (sender.sent.drop next)
      (receiver.incoming ++ sender.link.queue.toList)

/-- Both directions of a conversation, with the windows that the two sides have offered. -/
structure Conversation.Sound (left right : UInt8) (c : Conversation) : Prop where
  forth : Stream right c.left c.right
  back : Stream left c.right c.left

namespace Conversation.Sound

variable {left right : UInt8} {c : Conversation}

theorem swap (sound : c.Sound left right) : c.swap.Sound right left := ⟨sound.back, sound.forth⟩

theorem acknowledged_le (sound : c.Sound left right) :
    c.left.acknowledged ≤ c.right.accepted.length := by
  obtain ⟨_, _, _, flow⟩ := sound.back.flow
  exact flow.low_le

theorem accepted_le (sound : c.Sound left right) :
    c.right.accepted.length ≤ c.left.sent.length := by
  obtain ⟨_, more, most, _⟩ := sound.forth.flow
  exact Nat.le_trans more most

theorem sent_le (sound : c.Sound left right) : c.left.sent.length ≤ c.left.acknowledged + 15 := by
  have bound := sound.forth.within
  have small := UInt8.lt_iff_toNat_lt.mp sound.forth.window_lt
  simp only [UInt8.reduceToNat] at small
  omega

end Conversation.Sound

/-! ### Turns that fill the queue -/

section Turns

variable {left right : UInt8} {c : Conversation}

theorem Conversation.send_sound (sound : c.Sound left right) (data : Octets) :
    (c.act (.send data)).Sound left right := by
  simp only [act, Peer.send]
  rcases c.left.link.send_sent data with
    ⟨refused, same⟩ | ⟨taken, room, short, head, queue, encoded, listed, eq⟩
  · rw [if_neg refused, same]
    exact sound
  · rw [if_pos taken, eq]
    have lower := sound.acknowledged_le
    have upper := sound.accepted_le
    have near := sound.sent_le
    obtain ⟨next, more, most, flow⟩ := sound.forth.flow
    have apart : c.left.link.session.outstanding.toNat =
        c.left.sent.length - c.left.acknowledged := by
      rw [Session.outstanding, sound.forth.vs_eq, sound.forth.vsa_eq]
      exact toNat_numberDistance_number (by omega) (by omega)
    -- the window is below sixteen, so the numbers tell how many frames are on their way
    have free := UInt8.lt_iff_toNat_lt.mp room
    rw [sound.forth.window_eq, apart] at free
    have fits : data.length ≤ 253 := by
      have limit : c.left.link.session.maxInfo ≤ 249 := Nat.min_le_right _ _
      omega
    have ns := sound.forth.vs_eq
    have nr := sound.back.vr_eq
    rw [ns, nr, encodeInformation_ok _ _ (number_lt _) (number_lt _)] at encoded
    cases encoded
    have read := decode_information (c.left.link.address.remoteSap)
      (c.left.link.address.localSap) data (number_lt c.left.sent.length)
      (number_lt c.left.accepted.length) fits
    refine ⟨{ sound.forth with vs_eq := ?_, in_order := ?_, within := ?_, flow := ?_ },
      { sound.back with }⟩
    · simp only [List.length_append, List.length_singleton]
      rw [ns, nextNumber_number]
    · rw [List.take_append_of_le_length upper]
      exact sound.forth.in_order
    · simp only [List.length_append, List.length_singleton]
      omega
    · refine ⟨next, more, ?_, ?_⟩
      · simp only [List.length_append]
        omega
      · simp only
        rw [listed, List.drop_append_of_le_length most, ← List.append_assoc]
        refine flow.append_information read rfl ?_
        rw [List.length_drop, Nat.add_sub_cancel' most]

theorem Conversation.acknowledge_sound (sound : c.Sound left right) :
    (c.act .acknowledge).Sound left right := by
  simp only [act]
  rcases c.left.link.acknowledge_sent with same | ⟨frame, queue, encoded, listed, eq⟩
  · rw [same]
    exact sound
  · rw [sound.back.vr_eq, encodeReady_ok _ _ (number_lt _)] at encoded
    cases encoded
    obtain ⟨next, more, most, flow⟩ := sound.forth.flow
    have longer := flow.append_ready (decode_ready c.left.link.address.remoteSap
      c.left.link.address.localSap (number_lt c.left.accepted.length)) rfl rfl
    rw [eq]
    refine ⟨{ sound.forth with flow := ⟨next, more, most, ?_⟩ }, { sound.back with }⟩
    simp only
    rw [listed, ← List.append_assoc]
    exact longer

theorem Conversation.consume_sound (sound : c.Sound left right) (count : Nat) :
    (c.act (.consume count)).Sound left right := by
  simp only [act, Peer.consume]
  rw [DataLink.consumeReceived_link]
  obtain ⟨intact, rest⟩ := ReceiveBuffer.consume_sound sound.back.intact count
  generalize (c.left.link.session.received.consume count).2 = received at intact rest
  refine ⟨{ sound.forth with }, { sound.back with intact, stored := ?_ }⟩
  simp only
  rw [rest, List.append_assoc, List.take_append_drop]
  exact sound.back.stored

theorem Conversation.transmit_sound (sound : c.Sound left right) :
    (c.act .transmit).Sound left right := by
  simp only [act]
  rcases c.left.link.next_eq with ⟨_, eq⟩ | ⟨frame, queue, first, eq⟩
  · rw [eq]
    exact sound
  · rw [eq]
    refine ⟨{ sound.forth with flow := ?_ }, { sound.back with }⟩
    obtain ⟨next, more, most, flow⟩ := sound.forth.flow
    refine ⟨next, more, most, ?_⟩
    rw [first] at flow
    simp only [List.append_assoc, List.singleton_append]
    exact flow

end Turns

/-! ### Turns that take in a frame -/

theorem Peer.receive_link (peer : Peer) (pdu : Pdu) :
    (peer.receive pdu).link = (peer.link.receive pdu).2 := by
  simp only [Peer.receive]
  split <;> rfl

theorem Peer.receive_taken (peer : Peer) {pdu : Pdu}
    (before : peer.link.session.status = .connected)
    (after : (peer.receive pdu).link.session.status = .connected) :
    ∃ link, Taken peer.link pdu link ∧ peer.receive pdu =
      { peer with
        link
        accepted :=
          if pdu.type = .i ∧ link.session.vr ≠ peer.link.session.vr then
            peer.accepted ++ [pdu.info]
          else peer.accepted
        acknowledged := peer.acknowledged +
          (numberDistance peer.link.session.vsa link.session.vsa).toNat } := by
  rw [Peer.receive_link] at after
  refine ⟨(peer.link.receive pdu).2, DataLink.receive_taken before after, ?_⟩
  simp only [Peer.receive, if_pos after]

namespace Conversation.Sound

variable {left right : UInt8} {c : Conversation} {incoming : List Octets} {pdu : Pdu}
  {next ack : Nat}

theorem counted (sound : c.Sound left right) (forward : c.left.acknowledged ≤ ack)
    (reached : ack ≤ c.right.accepted.length) :
    c.left.acknowledged + (numberDistance c.left.link.session.vsa (number ack)).toNat = ack := by
  have bound := sound.accepted_le
  have near := sound.sent_le
  rw [sound.forth.vsa_eq, toNat_numberDistance_number forward (by omega)]
  omega

theorem dropped (sound : c.Sound left right) (queue : TransmitQueue)
    (kept : Reported c.left.link.queue queue)
    (rest : ∃ next, c.left.accepted.length ≤ next ∧ next ≤ c.right.sent.length ∧
      Flow c.right.accepted.length next c.left.acknowledged (c.right.sent.drop next)
        (incoming ++ c.right.link.queue.toList)) :
    Sound left right ⟨{ c.left with link := { c.left.link with queue }, incoming }, c.right⟩ := by
  obtain ⟨next, more, most, flow⟩ := sound.forth.flow
  refine ⟨{ sound.forth with flow := ⟨next, more, most, ?_⟩ }, { sound.back with flow := rest }⟩
  simp only
  rcases kept with same | ⟨report, quoting, read, type, listed⟩
  · rw [same]
    exact flow
  · rw [listed, ← List.append_assoc]
    exact flow.append_report read type

theorem ready (sound : c.Sound left right) (busy : Bool) (forward : c.left.acknowledged ≤ ack)
    (more : c.left.accepted.length ≤ next) (most : next ≤ c.right.sent.length)
    (rest : Flow c.right.accepted.length next ack (c.right.sent.drop next)
      (incoming ++ c.right.link.queue.toList)) :
    Sound left right ⟨{ c.left with
      link := { c.left.link with session := { c.left.link.session with
        vsa := number ack, remoteBusy := busy } }
      incoming
      acknowledged := ack }, c.right⟩ := by
  have within := sound.forth.within
  exact ⟨{ sound.forth with vsa_eq := rfl, within := by simp only; omega },
    { sound.back with flow := ⟨next, more, most, rest⟩ }⟩

theorem expected (sound : c.Sound left right) (more : c.left.accepted.length ≤ next)
    (carried : next < c.right.sent.length) (same : number next = c.left.link.session.vr) :
    next = c.left.accepted.length := by
  -- both counts lie in one window, where equal numbers mean equal counts
  have near := sound.swap.sent_le
  have bound := sound.swap.acknowledged_le
  simp only [Conversation.swap] at near bound
  rw [sound.back.vr_eq, number_eq_iff] at same
  omega

/-- A numbered frame that is taken in is the next one in order. -/
theorem information (sound : c.Sound left right) {payloads : List Octets}
    (forward : c.left.acknowledged ≤ ack)
    (carried : c.right.sent.drop c.left.accepted.length = pdu.info :: payloads)
    (fits : c.left.link.session.received.used + pdu.info.length ≤ receiveRoom)
    (rest : Flow c.right.accepted.length (c.left.accepted.length + 1) ack payloads
      (incoming ++ c.right.link.queue.toList)) :
    Sound left right ⟨{ c.left with
      link := { c.left.link with session := { c.left.link.session with
        received := (c.left.link.session.received.write pdu.info).2
        vr := nextNumber c.left.link.session.vr, vsa := number ack } }
      incoming
      accepted := c.left.accepted ++ [pdu.info]
      acknowledged := ack }, c.right⟩ := by
  obtain ⟨intact, written⟩ := ReceiveBuffer.write_sound sound.back.intact pdu.info
  rw [List.take_of_length_le (by omega)] at written
  generalize (c.left.link.session.received.write pdu.info).2 = received at intact written
  have within := sound.forth.within
  have order := sound.back.in_order
  have room : c.left.accepted.length < c.right.sent.length := by
    have size := congrArg List.length carried
    rw [List.length_drop, List.length_cons] at size
    omega
  have tail : c.right.sent.drop (c.left.accepted.length + 1) = payloads := by
    rw [← List.drop_drop, carried]
    rfl
  have first : c.right.sent.take (c.left.accepted.length + 1) = c.left.accepted ++ [pdu.info] := by
    rw [List.take_add, carried, ← order]
    rfl
  refine ⟨{ sound.forth with vsa_eq := rfl, within := ?_, flow := ?_ },
    { sound.back with vr_eq := ?_, in_order := ?_, intact, stored := ?_, flow := ?_ }⟩
  · simp only
    omega
  · obtain ⟨next, more, most, flow⟩ := sound.forth.flow
    refine ⟨next, more, most, flow.raise ?_⟩
    simp
  · simp only [List.length_append, List.length_singleton]
    rw [sound.back.vr_eq, nextNumber_number]
  · simp only [List.length_append, List.length_singleton]
    exact first.symm
  · simp only [List.flatten_append, List.flatten_singleton]
    rw [written, ← List.append_assoc, sound.back.stored]
  · simp only [List.length_append, List.length_singleton]
    exact ⟨_, Nat.le_refl _, room, tail ▸ rest⟩

theorem received_ready (sound : c.Sound left right) {link : DataLink}
    (taken : Taken c.left.link pdu link) (type : pdu.type = .rr)
    (numbers : pdu.sequence = some ⟨0, number ack⟩)
    (forward : c.left.acknowledged ≤ ack) (more : c.left.accepted.length ≤ next)
    (most : next ≤ c.right.sent.length)
    (rest : Flow c.right.accepted.length next ack (c.right.sent.drop next)
      (incoming ++ c.right.link.queue.toList)) :
    Sound left right ⟨{ c.left with
      link
      incoming
      acknowledged := c.left.acknowledged +
        (numberDistance c.left.link.session.vsa link.session.vsa).toNat }, c.right⟩ := by
  cases taken with
  | information _ kind => rw [type] at kind; cases kind
  | ready =>
    simp only [numbers, Option.map_some, Option.getD_some, sound.counted forward rest.low_le]
    exact sound.ready _ forward more most rest
  | dropped queue _ kept =>
    simp only [numberDistance_self]
    exact sound.dropped queue kept ⟨next, more, most, rest.relax forward⟩

theorem received_information (sound : c.Sound left right) {link : DataLink} {payloads : List Octets}
    (taken : Taken c.left.link pdu link) (type : pdu.type = .i)
    (numbers : pdu.sequence = some ⟨number next, number ack⟩)
    (forward : c.left.acknowledged ≤ ack) (more : c.left.accepted.length ≤ next)
    (carried : c.right.sent.drop next = pdu.info :: payloads)
    (rest : Flow c.right.accepted.length (next + 1) ack payloads
      (incoming ++ c.right.link.queue.toList)) :
    Sound left right ⟨{ c.left with
      link
      incoming
      accepted :=
        if link.session.vr ≠ c.left.link.session.vr then c.left.accepted ++ [pdu.info]
        else c.left.accepted
      acknowledged := c.left.acknowledged +
        (numberDistance c.left.link.session.vsa link.session.vsa).toNat }, c.right⟩ := by
  have room : next < c.right.sent.length := by
    have size := congrArg List.length carried
    rw [List.length_drop, List.length_cons] at size
    omega
  cases taken with
  | ready kind => rw [type] at kind; rcases kind with kind | kind <;> cases kind
  | information sequence _ present expect fits =>
    rw [numbers] at present
    cases present
    have same := sound.expected more room expect
    subst same
    rw [if_pos (nextNumber_ne _)]
    simp only [sound.counted forward rest.low_le]
    exact sound.information forward carried fits rest
  | dropped queue _ kept =>
    -- the count behind the channel moves on without the payload, which is never accepted later
    have tail : c.right.sent.drop (next + 1) = payloads := by
      rw [← List.drop_drop, carried]
      rfl
    rw [if_neg (not_not.mpr rfl)]
    simp only [numberDistance_self]
    exact sound.dropped queue kept
      ⟨next + 1, Nat.le_succ_of_le more, room, tail ▸ rest.relax forward⟩

/-- Reading a frame keeps a conversation sound, as long as both connections stay open. -/
theorem received (sound : c.Sound left right) {frame : Octets}
    (waiting : c.left.incoming = frame :: incoming) (read : Pdu.decode frame = .ok pdu)
    (before : c.left.link.session.status = .connected)
    (after : ({ c.left with incoming }.receive pdu).link.session.status = .connected) :
    Sound left right ⟨{ c.left with incoming }.receive pdu, c.right⟩ := by
  obtain ⟨link, taken, eq⟩ := Peer.receive_taken { c.left with incoming } before after
  obtain ⟨next, more, most, flow⟩ := sound.back.flow
  generalize carried : c.right.sent.drop next = payloads at flow
  rw [waiting, List.cons_append] at flow
  rw [eq]
  cases flow with
  | report again type =>
    rw [read] at again
    cases again
    cases taken with
    | information _ kind => rw [type] at kind; cases kind
    | ready kind => rw [type] at kind; rcases kind with kind | kind <;> cases kind
    | dropped _ kind => rw [type] at kind; cases kind
  | ready again type numbers forward rest =>
    rw [read] at again
    cases again
    simp only [type, reduceCtorEq, false_and, if_false]
    exact sound.received_ready taken type numbers forward more most (carried ▸ rest)
  | information again type numbers forward rest =>
    rw [read] at again
    cases again
    simp only [type, true_and]
    exact sound.received_information taken type numbers forward more carried rest

end Conversation.Sound

theorem Conversation.deliver_sound {left right : UInt8} {c : Conversation}
    (sound : c.Sound left right) (before : c.Open)
    (after : (c.act .deliver).Open) : (c.act .deliver).Sound left right := by
  simp only [act, Peer.deliver] at after ⊢
  cases waiting : c.left.incoming with
  | nil => exact sound
  | cons frame incoming =>
    obtain ⟨_, _, _, flow⟩ := sound.back.flow
    rw [waiting, List.cons_append] at flow
    obtain ⟨pdu, read⟩ := flow.read
    rw [waiting] at after
    simp only [read] at after ⊢
    exact sound.received waiting read before.1 after.1

/-! ### Runs -/

theorem Conversation.act_sound {left right : UInt8} {c : Conversation}
    (sound : c.Sound left right) (before : c.Open)
    {action : Action} (after : (c.act action).Open) : (c.act action).Sound left right := by
  cases action with
  | send data => exact send_sound sound data
  | acknowledge => exact acknowledge_sound sound
  | consume count => exact consume_sound sound count
  | transmit => exact transmit_sound sound
  | deliver => exact deliver_sound sound before after

theorem Conversation.step_sound {left right : UInt8} {c : Conversation}
    (sound : c.Sound left right) (before : c.Open)
    {turn : Turn} (after : (c.step turn).Open) : (c.step turn).Sound left right := by
  cases turn with
  | left action => exact act_sound sound before after
  | right action => exact (act_sound sound.swap before.symm after.symm).swap

theorem Conversation.act_links (c : Conversation) (action : Action) :
    (c.act action).right.link = c.right.link ∧
      ((c.act action).left.link.session.status = c.left.link.session.status ∧
          (c.act action).left.link.session.initiator = c.left.link.session.initiator ∨
        ∃ pdu, (c.act action).left.link = (c.left.link.receive pdu).2) := by
  cases action with
  | send data =>
    refine ⟨rfl, .inl ?_⟩
    simp only [act, Peer.send]
    rcases c.left.link.send_sent data with ⟨_, same⟩ | ⟨_, _, _, _, _, _, _, eq⟩
    · rw [same]
      exact ⟨rfl, rfl⟩
    · rw [eq]
      exact ⟨rfl, rfl⟩
  | acknowledge =>
    refine ⟨rfl, .inl ?_⟩
    simp only [act]
    rcases c.left.link.acknowledge_sent with same | ⟨_, _, _, _, eq⟩
    · rw [same]
      exact ⟨rfl, rfl⟩
    · rw [eq]
      exact ⟨rfl, rfl⟩
  | consume count =>
    refine ⟨rfl, .inl ?_⟩
    simp only [act, Peer.consume]
    rw [DataLink.consumeReceived_link]
    exact ⟨rfl, rfl⟩
  | transmit =>
    simp only [act]
    rcases c.left.link.next_eq with ⟨_, eq⟩ | ⟨_, _, _, eq⟩
    · rw [eq]
      exact ⟨rfl, .inl ⟨rfl, rfl⟩⟩
    · rw [eq]
      exact ⟨rfl, .inl ⟨rfl, rfl⟩⟩
  | deliver =>
    refine ⟨rfl, ?_⟩
    simp only [act, Peer.deliver]
    split
    · exact .inl ⟨rfl, rfl⟩
    · split
      · exact .inl ⟨rfl, rfl⟩
      · rename_i pdu read
        exact .inr ⟨pdu, Peer.receive_link _ pdu⟩

def Conversation.Passive (c : Conversation) : Prop := c.left.link.Passive ∧ c.right.link.Passive

theorem Conversation.act_passive {c : Conversation} (passive : c.Passive) (action : Action) :
    (c.act action).Passive ∧ ((c.act action).Open → c.Open) := by
  obtain ⟨right, ⟨status, initiator⟩ | ⟨pdu, left⟩⟩ := c.act_links action
  · unfold Passive Open DataLink.Passive
    rw [right, status, initiator]
    exact ⟨passive, id⟩
  · unfold Passive Open
    obtain ⟨still, opened⟩ := DataLink.receive_passive passive.1 pdu
    rw [right, left]
    exact ⟨⟨still, passive.2⟩, fun both => ⟨opened both.1, both.2⟩⟩

theorem Conversation.step_passive {c : Conversation} (passive : c.Passive) (turn : Turn) :
    (c.step turn).Passive ∧ ((c.step turn).Open → c.Open) := by
  cases turn with
  | left action => exact act_passive passive action
  | right action =>
    obtain ⟨still, opened⟩ := act_passive (c := c.swap) passive.symm action
    exact ⟨still.symm, fun both => (opened both.symm).symm⟩

theorem Conversation.run_open {c : Conversation} (passive : c.Passive) (turns : List Turn)
    (after : (c.run turns).Open) : c.Open := by
  induction turns generalizing c with
  | nil => exact after
  | cons turn turns ih =>
    obtain ⟨still, opened⟩ := step_passive passive turn
    exact opened (ih still after)

theorem Conversation.run_sound {left right : UInt8} {c : Conversation} (passive : c.Passive)
    (sound : c.Sound left right)
    (turns : List Turn) (after : (c.run turns).Open) : (c.run turns).Sound left right := by
  induction turns generalizing c with
  | nil => exact sound
  | cons turn turns ih =>
    obtain ⟨still, opened⟩ := step_passive passive turn
    -- that both sides are open now follows from the end of the run
    have middle : (c.step turn).Open := run_open still turns after
    exact ih still (step_sound sound (opened middle) middle) after

/-- Reliable delivery in one direction, in terms of what happened on both sides and of the window
that the receiver has offered. -/
structure Delivered (window : UInt8) (sender receiver : Peer) : Prop where
  in_order : receiver.accepted = sender.sent.take receiver.accepted.length
  acknowledged_le : sender.acknowledged ≤ receiver.accepted.length
  accepted_le : receiver.accepted.length ≤ sender.sent.length
  within : sender.sent.length - sender.acknowledged ≤ window.toNat
  vs_eq : sender.link.session.vs.toNat = sender.sent.length % 16
  vsa_eq : sender.link.session.vsa.toNat = sender.acknowledged % 16
  vr_eq : receiver.link.session.vr.toNat = receiver.accepted.length % 16
  stored : receiver.consumed ++ receiver.link.session.received.contents =
    receiver.accepted.flatten

theorem Conversation.Sound.delivered {left right : UInt8} {c : Conversation}
    (sound : c.Sound left right) : Delivered right c.left c.right where
  in_order := sound.forth.in_order
  acknowledged_le := sound.acknowledged_le
  accepted_le := sound.accepted_le
  within := Nat.sub_le_iff_le_add'.mpr sound.forth.within
  vs_eq := by rw [sound.forth.vs_eq, toNat_number]
  vsa_eq := by rw [sound.forth.vsa_eq, toNat_number]
  vr_eq := by rw [sound.forth.vr_eq, toNat_number]
  stored := sound.forth.stored

theorem Conversation.opened_sound (address : LinkAddress) (left right : UInt8) :
    ∃ c, opened address left right = some c ∧ c.Open ∧ c.Passive ∧
      c.Sound (left &&& 0x0f) (right &&& 0x0f) := by
  obtain ⟨asked, granted, settled, idle, quiet⟩ := handshake_offering address left right
  refine ⟨_, by rw [opened, settled]; rfl, ⟨rfl, rfl⟩, ?_, ?_, ?_⟩
  · constructor <;> exact fun waiting => by cases waiting
  · refine ⟨lowNibble_lt right, rfl, rfl, rfl, rfl, rfl, Nat.zero_le _,
      ReceiveBuffer.empty_sound, rfl, 0, Nat.le_refl _, Nat.le_refl _, ?_⟩
    simp only [idle]
    exact .done (Nat.le_refl _)
  · refine ⟨lowNibble_lt left, rfl, rfl, rfl, rfl, rfl, Nat.zero_le _,
      ReceiveBuffer.empty_sound, rfl, 0, Nat.le_refl _, Nat.le_refl _, ?_⟩
    simp only [quiet]
    exact .done (Nat.le_refl _)

/-- Two new links open a connection, and as long as both stay connected, whatever either side does
and whenever frames are carried over, each side takes in what the other one sent, in order. -/
theorem Conversation.opened_delivers (address : LinkAddress) (left right : UInt8) :
    ∃ c, opened address left right = some c ∧ c.Open ∧
      ∀ turns, (c.run turns).Open →
        Delivered (right &&& 0x0f) (c.run turns).left (c.run turns).right ∧
          Delivered (left &&& 0x0f) (c.run turns).right (c.run turns).left := by
  obtain ⟨c, opens, isOpen, passive, sound⟩ := opened_sound address left right
  refine ⟨c, opens, isOpen, fun turns remains => ?_⟩
  have reached := run_sound passive sound turns remains
  exact ⟨reached.delivered, reached.swap.delivered⟩

/-- A frame that is sent, taken in and acknowledged while the other side sends one back. -/
theorem delivers_one_each_way :
    let turns : List Conversation.Turn := [.left (.send [7]), .left .transmit, .right (.send [9]),
      .right .deliver, .right .acknowledge, .right .transmit, .right .transmit, .left .deliver,
      .left .deliver]
    ∃ c, Conversation.opened ⟨.masked 4, .masked 32⟩ 1 15 = some c ∧ (c.run turns).Open ∧
      (c.run turns).right.accepted = [[7]] ∧ (c.run turns).left.acknowledged = 1 ∧
        Delivered 15 (c.run turns).left (c.run turns).right ∧
          Delivered 1 (c.run turns).right (c.run turns).left := by
  intro turns
  obtain ⟨c, opens, _, delivers⟩ := Conversation.opened_delivers ⟨.masked 4, .masked 32⟩ 1 15
  have computed : (Conversation.opened ⟨.masked 4, .masked 32⟩ 1 15).map (fun c =>
      (decide (c.run turns).Open, (c.run turns).right.accepted,
        (c.run turns).left.acknowledged)) = some (true, [[7]], 1) := by decide +kernel
  rw [opens] at computed
  simp only [Option.map_some, Option.some.injEq, Prod.mk.injEq, decide_eq_true_eq] at computed
  obtain ⟨remains, accepted, acknowledged⟩ := computed
  exact ⟨c, opens, remains, accepted, acknowledged, delivers turns remains⟩

end NearField.Llcp
