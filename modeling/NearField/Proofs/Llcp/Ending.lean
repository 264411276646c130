import NearField.Proofs.Llcp.Operation

/-!
How a received PDU ends a connection. Main statement: a PDU that is not expected in the present
status, and one that is sent to end the connection, leave of a link only the terms that were agreed
on and the frames that wait; where the peer has to be told, one frame with the reason follows them,
if there is room for it. No other PDU leaves a link disconnected.
-/

namespace NearField.Llcp

/-- The PDUs that are expected in the present status. -/
inductive Session.Expects (s : Session) : PduType → Prop
  | request (free : s.status = .disconnected) : Expects s .connect
  | grant (waiting : s.status = .connecting) (own : s.initiator = true) : Expects s .cc
  | numbered {type : PduType} (connected : s.status = .connected)
      (kind : type = .i ∨ type = .rr ∨ type = .rnr) : Expects s type
  | goodbye (connected : s.status = .connected) : Expects s .disc
  | report (connected : s.status = .connected) : Expects s .frmr
  | silence : Expects s .dm

/-- The PDUs that end a connection, each with the reason that the peer is told, if it is told
one. -/
inductive Session.EndedBy (s : Session) : PduType → Option UInt8 → Prop
  | unexpected {type : PduType} (foreign : ¬s.Expects type) : EndedBy s type (some 0x01)
  | goodbye (connected : s.status = .connected) : EndedBy s .disc (some 0x00)
  | report (connected : s.status = .connected) : EndedBy s .frmr none
  | silence : EndedBy s .dm none

namespace Session

variable {s : Session} {address : LinkAddress} {pdu : Pdu}

def ending (s : Session) (address : LinkAddress) : Option UInt8 → Transition
  | none => .quiet s.reset
  | some reason =>
    .parting (encodeDisconnected address.remoteSap address.localSap reason) s.reset

theorem receive_unexpected (foreign : ¬s.Expects pdu.type) :
    s.receive address pdu = s.ending address (some 0x01) := by
  unfold receive
  split
  · rename_i type
    exact absurd (type ▸ .silence) foreign
  · rename_i free type
    exact absurd (type ▸ .request free) foreign
  · rename_i waiting type
    split
    · rename_i own
      exact absurd (type ▸ .grant waiting own) foreign
    · rfl
  · rename_i connected type
    exact absurd (.numbered connected (.inl type)) foreign
  · rename_i connected type
    exact absurd (.numbered connected (.inr (.inl type))) foreign
  · rename_i connected type
    exact absurd (.numbered connected (.inr (.inr type))) foreign
  · rename_i connected type
    exact absurd (type ▸ .goodbye connected) foreign
  · rename_i connected type
    exact absurd (type ▸ .report connected) foreign
  · rfl

theorem receive_ending {type : PduType} {word : Option UInt8} (kind : pdu.type = type)
    (ended : s.EndedBy type word) : s.receive address pdu = s.ending address word := by
  cases ended with
  | unexpected foreign => exact receive_unexpected (kind ▸ foreign)
  | goodbye connected => rw [receive, connected, kind, ending]; rfl
  | report connected => rw [receive, connected, kind, ending]
  | silence => rw [receive, kind, ending]

theorem receive_numbered_open (connected : s.status = .connected)
    (kind : pdu.type = .i ∨ pdu.type = .rr ∨ pdu.type = .rnr) :
    (s.receive address pdu).next.status = .connected := by
  have reception := s.receive_reception address pdu
  generalize s.receive address pdu = transition at reception
  cases reception with
  | taken | ready | rejected => exact connected
  | ended silent => rcases kind with kind | kind | kind <;> simp [kind] at silent
  | parted _ _ unexpected =>
    have plain := unexpected connected
    rcases kind with kind | kind | kind <;> simp [kind, PduType.isSequenced] at plain
  | asked free => simp [connected] at free
  | granted waiting => simp [connected] at waiting

theorem receive_lasting {type : PduType} (kind : pdu.type = type) (expected : s.Expects type)
    (lasting : ∀ word, ¬s.EndedBy type word) :
    (s.receive address pdu).next.status ≠ .disconnected := by
  cases expected with
  | request free =>
    rw [receive, free, kind]
    rintro ⟨⟩
  | grant waiting own =>
    rw [receive, waiting, kind, own]
    rintro ⟨⟩
  | numbered connected numbered =>
    rw [receive_numbered_open connected (kind ▸ numbered)]
    rintro ⟨⟩
  | goodbye connected => exact absurd (.goodbye connected) (lasting _)
  | report connected => exact absurd (.report connected) (lasting _)
  | silence => exact absurd .silence (lasting _)

end Session

namespace DataLink

variable {link : DataLink} {pdu : Pdu}

/-- What is left of a link whose connection has ended: the terms, but no numbers and no octets. -/
structure Ended (link after : DataLink) : Prop where
  address : after.address = link.address
  status : after.session.status = .disconnected
  passive : after.session.initiator = false
  ready : after.session.remoteBusy = false
  numbers : after.session.vs = 0 ∧ after.session.vsa = 0 ∧ after.session.vr = 0 ∧
    after.session.vra = 0
  received : after.session.received.used = 0 ∧
    after.session.received.memory.octets = Octets.zeros receiveRoom
  terms : after.session.miu = link.session.miu ∧
    after.session.localWindow = link.session.localWindow ∧
    after.session.remoteWindow = link.session.remoteWindow

/-- The frames that tell the peer of a link why its connection ended: one, unless there is nothing
to tell or thirty-two frames wait. -/
inductive Tells (link : DataLink) : Option UInt8 → List Octets → Prop
  | nothing : Tells link none []
  | told {reason : UInt8} {frame : Octets} (room : link.pending < queueDepth)
      (read : Pdu.decode frame = .ok
        { dsap := link.address.remoteSap, type := .dm, ssap := link.address.localSap
          info := [reason] }) : Tells link (some reason) [frame]
  | dropped {reason : UInt8} (full : queueDepth ≤ link.pending) : Tells link (some reason) []

theorem reset_ended (link : DataLink) (queue : TransmitQueue) :
    link.Ended { link with session := link.session.reset, queue } where
  address := rfl
  status := rfl
  passive := rfl
  ready := rfl
  numbers := ⟨rfl, rfl, rfl, rfl⟩
  received := ⟨rfl, rfl⟩
  terms := ⟨rfl, rfl, rfl⟩

theorem commit_ending (link : DataLink) (word : Option UInt8) :
    ∃ queue said, link.commit (link.session.ending link.address word) =
        (.ok (), { link with session := link.session.reset, queue }) ∧
      queue.toList = link.queue.toList ++ said ∧ link.Tells word said := by
  cases word with
  | none => exact ⟨link.queue, [], rfl, (List.append_nil _).symm, .nothing⟩
  | some reason =>
    have encoded : encodeDisconnected link.address.remoteSap link.address.localSap reason =
        .ok (header link.address.remoteSap .dm link.address.localSap ++ [reason]) :=
      encodeWithInfo_ok _ _ .dm [reason] (by simp)
    rw [Session.ending, encoded, commit, Transition.commit]
    by_cases full : queueDepth ≤ link.pending
    · rw [TransmitQueue.push_full full]
      exact ⟨link.queue, [], rfl, (List.append_nil _).symm, .dropped full⟩
    · have room : link.pending < queueDepth := Nat.not_le.mp full
      have fits : (header link.address.remoteSap .dm link.address.localSap ++ [reason]).length ≤
          bufferRoom := by simp [bufferRoom]
      obtain ⟨queue, pushed, listed⟩ := TransmitQueue.push_room room fits
      rw [pushed]
      exact ⟨queue, _, rfl, listed, .told room (decode_plain _ _ .dm [reason] rfl (by simp))⟩

theorem receive_stays (lasting : ∀ word, ¬link.session.EndedBy pdu.type word) :
    (link.receive pdu).2.session.status ≠ .disconnected := by
  have expected : link.session.Expects pdu.type := by
    by_contra foreign
    exact lasting _ (.unexpected foreign)
  have next : (link.session.receive link.address pdu).next.status ≠ .disconnected :=
    Session.receive_lasting rfl expected lasting
  -- a transition that is not committed leaves the old status, which may be the one in question
  by_cases free : link.session.status = .disconnected
  · have asked : pdu.type = .connect := by
      generalize pdu.type = type at expected lasting
      cases expected with
      | request => rfl
      | silence => exact absurd .silence (lasting _)
      | grant waiting => simp [free] at waiting
      | numbered connected | goodbye connected | report connected => simp [free] at connected
    rw [receive_request free asked]
    rintro ⟨⟩
  · rw [receive]
    rcases link.commit_session (link.session.receive link.address pdu) with same | moved
    · rw [same]
      exact free
    · rw [moved]
      exact next

/-- A received PDU leaves a link disconnected if and only if it is one that ends the connection, and
then the call succeeds, whatever waits to be sent: nothing is left of the connection but its terms,
what waited still waits, and the peer is told the reason if there is one and room for it. -/
theorem receive_ends (link : DataLink) (pdu : Pdu) :
    ((link.receive pdu).2.session.status = .disconnected ↔
      ∃ word, link.session.EndedBy pdu.type word) ∧
    ∀ word, link.session.EndedBy pdu.type word →
      (link.receive pdu).1 = .ok () ∧ link.Ended (link.receive pdu).2 ∧
        ∃ said, (link.receive pdu).2.queue.toList = link.queue.toList ++ said ∧
          link.Tells word said := by
  have cleanly (word : Option UInt8) (ended : link.session.EndedBy pdu.type word) :
      (link.receive pdu).1 = .ok () ∧ link.Ended (link.receive pdu).2 ∧
        ∃ said, (link.receive pdu).2.queue.toList = link.queue.toList ++ said ∧
          link.Tells word said := by
    obtain ⟨queue, said, commits, listed, tells⟩ := link.commit_ending word
    have receives : link.receive pdu =
        (.ok (), { link with session := link.session.reset, queue }) := by
      rw [receive, Session.receive_ending rfl ended, commits]
    rw [receives]
    exact ⟨rfl, link.reset_ended queue, said, listed, tells⟩
  refine ⟨⟨fun closed => ?_, ?_⟩, cleanly⟩
  · by_contra lasting
    exact receive_stays (not_exists.mp lasting) closed
  · rintro ⟨word, ended⟩
    exact (cleanly word ended).2.1.status

/-- A link that waits for the answer to its own request is sent a request instead. -/
theorem receive_ends_crossed :
    let address : LinkAddress := ⟨.masked 4, .masked 32⟩
    let link := (DataLink.offering address 4).operateAll [.connect]
    let pdu : Pdu := { dsap := .masked 4, type := .connect, ssap := .masked 32 }
    link.session.status = .connecting ∧ link.session.EndedBy pdu.type (some 0x01) ∧
      (link.receive pdu).1 = .ok () ∧ link.Ended (link.receive pdu).2 ∧
      ∃ said, (link.receive pdu).2.queue.toList = link.queue.toList ++ said ∧
        link.Tells (some 0x01) said := by
  intro address link pdu
  have waiting : link.session.status = .connecting := by decide +kernel
  have foreign : ¬link.session.Expects .connect := by
    rintro (free | _ | ⟨connected, _⟩)
    · simp [waiting] at free
    · simp [waiting] at connected
  have ended : link.session.EndedBy pdu.type (some 0x01) := .unexpected foreign
  exact ⟨waiting, ended, (receive_ends link pdu).2 _ ended⟩

end DataLink

end NearField.Llcp
