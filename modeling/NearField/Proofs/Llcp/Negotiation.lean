import NearField.Proofs.Llcp.Operation
import Mathlib.Data.List.Induction

/-!
What the two ends of a connection have agreed on. Main statement: when a connection opens, its
terms are what the field that opened it says and, where that field is silent, what the connections
before it left behind since the link was new or cleared.
-/

namespace NearField.Llcp

/-- What a session has taken over from the peer. -/
structure Terms where
  miu : UInt16 := defaultMiu
  window : UInt8 := peerDefaultWindow
deriving DecidableEq

namespace Param

def extension? : Param → Option UInt16
  | miux extension => some extension
  | _ => none

def window? : Param → Option UInt8
  | rw window => some window
  | _ => none

/-- The parameters in an information field; none where it cannot be read. -/
def readable (field : Octets) : List Param := (parseAll field).toOption.getD []

def lastExtension (field : Octets) : Option UInt16 :=
  ((readable field).filterMap extension?).getLast?

def lastWindow (field : Octets) : Option UInt8 := ((readable field).filterMap window?).getLast?

end Param

/-- The terms after an information field: the last value of each kind in it counts, and what it
does not mention stays. -/
def Terms.revise (terms : Terms) (field : Octets) : Terms where
  miu := (Param.lastExtension field).elim terms.miu (defaultMiu + ·)
  window := (Param.lastWindow field).getD terms.window

namespace Session

def terms (s : Session) : Terms := ⟨s.miu, s.remoteWindow⟩

theorem terms_foldl_apply (params : List Param) (s : Session) :
    (params.foldl apply s).terms =
      ⟨((params.filterMap Param.extension?).getLast?).elim s.miu (defaultMiu + ·),
        ((params.filterMap Param.window?).getLast?).getD s.remoteWindow⟩ := by
  -- the last value of a kind comes from the last parameter of that kind
  induction params using List.reverseRecOn with
  | nil => rfl
  | append_singleton params param ih =>
    rw [List.foldl_append, List.filterMap_append, List.filterMap_append]
    generalize params.foldl apply s = before at ih
    cases param with
    | miux extension =>
      have window := congrArg Terms.window ih
      simp only [terms] at window
      simp [apply, terms, Param.extension?, Param.window?, window]
    | rw window =>
      have miu := congrArg Terms.miu ih
      simp only [terms] at miu
      simp [apply, terms, Param.extension?, Param.window?, miu]
    | _ => simpa [apply, Param.extension?, Param.window?] using ih

theorem terms_negotiate (s : Session) (field : Octets) :
    (s.negotiate field).terms = s.terms.revise field := by
  unfold negotiate Terms.revise Param.lastExtension Param.lastWindow Param.readable
  cases Param.parseAll field with
  | error e => rfl
  | ok params => exact terms_foldl_apply params s

end Session

/-- A use of a data link: an operation, or octets stored as if they had been received. -/
inductive LinkUse where
  | operate (operation : LinkOperation)
  | write (bytes : Octets)
deriving DecidableEq

namespace DataLink

def use (link : DataLink) : LinkUse → DataLink
  | .operate operation => link.operate operation
  | .write bytes => (link.writeReceived bytes).2

/-- The information field that a use makes the link take into account: that of a request while the
link is free, or of a grant while it waits for the answer to its own request. -/
def fieldTaken (link : DataLink) : LinkUse → Option Octets
  | .operate (.receive pdu) =>
    if link.session.status = .disconnected ∧ pdu.type = .connect ∨
        link.session.status = .connecting ∧ link.session.initiator = true ∧ pdu.type = .cc then
      some pdu.info
    else none
  | _ => none

end DataLink

/-- Whether the peer has said what it wants of the present connection: it is open, or the peer asked
for it. -/
def Session.Engaged (s : Session) : Prop :=
  s.status = .connected ∨ s.status = .connecting ∧ s.initiator = false

namespace DataLink

variable {link : DataLink}

@[simp] theorem use_operate (operation : LinkOperation) :
    link.use (.operate operation) = link.operate operation := rfl

/-- A field that is taken into account revises the terms. -/
theorem use_taken {use : LinkUse} {field : Octets} (taken : link.fieldTaken use = some field) :
    (link.use use).session.terms = link.session.terms.revise field := by
  cases use with
  | write bytes => cases taken
  | operate operation =>
    cases operation with
    | receive pdu =>
      rw [fieldTaken] at taken
      split at taken
      · rename_i counts
        cases taken
        rw [← Session.terms_negotiate]
        rcases counts with ⟨free, type⟩ | ⟨waiting, own, type⟩
        · rw [use_operate, operate, receive_request free type]
          rfl
        · rw [use_operate, operate, receive_grant waiting own type]
          rfl
      · cases taken
    | _ => cases taken

/-- Without such a field a transition keeps the terms, and opens no connection that the peer has not
been asked about. -/
theorem leads_untaken {operation : LinkOperation} {transition : Transition}
    (leads : Leads link.session link.address operation transition)
    (untaken : link.fieldTaken (.operate operation) = none) :
    transition.next.terms = link.session.terms ∧
      (transition.next.Engaged → link.session.Engaged) := by
  cases leads with
  | connect => exact ⟨rfl, by simp [Transition.next, Session.Engaged]⟩
  | accept asked peer => exact ⟨rfl, fun _ => .inr ⟨asked, peer⟩⟩
  | reject => exact ⟨rfl, by simp [Transition.next, Session.Engaged, Session.reset]⟩
  | disconnect => exact ⟨rfl, by simp [Transition.next, Session.Engaged]⟩
  | acknowledge | send => exact ⟨rfl, id⟩
  | receive pdu _ reception =>
    have other : ¬(link.session.status = .disconnected ∧ pdu.type = .connect ∨
        link.session.status = .connecting ∧ link.session.initiator = true ∧ pdu.type = .cc) := by
      intro taken
      rw [fieldTaken, if_pos taken] at untaken
      cases untaken
    cases reception with
    | ended | parted => exact ⟨rfl, by simp [Transition.next, Session.Engaged, Session.reset]⟩
    | asked free type => exact absurd (.inl ⟨free, type⟩) other
    | granted waiting own type => exact absurd (.inr ⟨waiting, own, type⟩) other
    | taken | ready | rejected => exact ⟨rfl, id⟩

theorem use_untaken {use : LinkUse} (untaken : link.fieldTaken use = none)
    (uncleared : use ≠ .operate .clear) :
    (link.use use).session.terms = link.session.terms ∧
      ((link.use use).session.Engaged → link.session.Engaged) := by
  cases use with
  | write bytes => exact ⟨rfl, id⟩
  | operate operation =>
    have operated := link.operate_operated operation
    rw [use_operate]
    generalize link.operate operation = after at operated
    cases operated with
    | still | popped => exact ⟨rfl, id⟩
    | cleared => exact absurd rfl uncleared
    | consumed count =>
      rw [consumeReceived_link]
      simp [Session.terms, Session.Engaged]
    | moved _ transition leads =>
      rcases link.commit_session transition with same | next
      · rw [same]
        exact ⟨rfl, id⟩
      · rw [next]
        exact leads_untaken leads untaken

end DataLink

/-- A link with the information fields it has taken into account since it was new or cleared: the
one that belongs to the present connection, and those of the connections before, oldest first. -/
structure Watched where
  link : DataLink
  opening : Option Octets := none
  earlier : List Octets := []

namespace Watched

def taken (watched : Watched) : List Octets := watched.earlier ++ watched.opening.toList

def inherited (watched : Watched) : Terms := watched.earlier.foldl Terms.revise {}

/-- A field that is taken into account is the one of a new connection; when the link is
disconnected afterwards, its connection is one of the earlier ones. -/
def use (watched : Watched) (use : LinkUse) : Watched :=
  let link := watched.link.use use
  if use = .operate .clear then { link }
  else
    match watched.link.fieldTaken use with
    | some field => { link, opening := some field, earlier := watched.taken }
    | none =>
      if link.session.status = .disconnected then { link, earlier := watched.taken }
      else { watched with link }

theorem taken_some (link : DataLink) (field : Octets) (earlier : List Octets) :
    taken ⟨link, some field, earlier⟩ = earlier ++ [field] := rfl

theorem taken_none (link : DataLink) (earlier : List Octets) :
    taken ⟨link, none, earlier⟩ = earlier := List.append_nil earlier

def useAll (watched : Watched) (uses : List LinkUse) : Watched := uses.foldl Watched.use watched

def offering (address : LinkAddress) (window : UInt8) : Watched :=
  { link := .offering address window }

/-- The terms are those of the fields taken into account, and one of these belongs to the present
connection as soon as the peer has had its say. -/
structure Sound (watched : Watched) : Prop where
  terms : watched.link.session.terms = watched.taken.foldl Terms.revise {}
  opening : watched.link.session.Engaged → watched.opening ≠ none

theorem use_link (watched : Watched) (use : LinkUse) :
    (watched.use use).link = watched.link.use use := by
  simp only [Watched.use]
  split
  · rfl
  · split
    · rfl
    · split <;> rfl

theorem useAll_link (watched : Watched) (uses : List LinkUse) :
    (watched.useAll uses).link = uses.foldl DataLink.use watched.link := by
  induction uses generalizing watched with
  | nil => rfl
  | cons use uses ih =>
    rw [List.foldl_cons, ← use_link]
    exact ih (watched.use use)

theorem offering_sound (address : LinkAddress) (window : UInt8) : (offering address window).Sound :=
  ⟨rfl, by simp [offering, DataLink.offering, Session.offering, Session.Engaged]⟩

theorem use_sound {watched : Watched} (sound : watched.Sound) (use : LinkUse) :
    (watched.use use).Sound := by
  simp only [Watched.use]
  split
  · rename_i cleared
    rw [cleared]
    exact ⟨rfl, by simp [DataLink.operate, DataLink.clear, Session.renew, Session.reset,
      Session.Engaged]⟩
  · rename_i uncleared
    split
    · rename_i field taken
      have terms := DataLink.use_taken taken
      rw [sound.terms] at terms
      refine ⟨terms.trans ?_, by rintro _ ⟨⟩⟩
      simp [taken_some]
    · rename_i untaken
      obtain ⟨terms, engaged⟩ := DataLink.use_untaken untaken uncleared
      rw [sound.terms] at terms
      split
      · rename_i closed
        refine ⟨terms.trans ?_, by simp [Session.Engaged, closed]⟩
        rw [taken_none]
      · exact ⟨terms, fun after => sound.opening (engaged after)⟩

theorem useAll_sound {watched : Watched} (sound : watched.Sound) (uses : List LinkUse) :
    (watched.useAll uses).Sound := by
  induction uses generalizing watched with
  | nil => exact sound
  | cons use uses ih => exact ih (use_sound sound use)

end Watched

theorem Terms.revise_eq_iff (terms : Terms) (field : Octets) :
    terms.revise field = Terms.revise {} field ↔
      ((Param.lastExtension field).isSome ∨ terms.miu = defaultMiu) ∧
        ((Param.lastWindow field).isSome ∨ terms.window = peerDefaultWindow) := by
  unfold Terms.revise
  rw [Terms.mk.injEq]
  refine and_congr ?_ ?_
  · cases Param.lastExtension field <;> simp
  · cases Param.lastWindow field <;> simp

/-- The terms of an open connection come from the field that opened it and, where that field is
silent, from the connections before it; so they come from this field alone exactly if it speaks of
everything that the connections before it left changed. -/
theorem DataLink.connected_terms (address : LinkAddress) (window : UInt8) (uses : List LinkUse)
    (connected :
      (uses.foldl DataLink.use (.offering address window)).session.status = .connected) :
    let link := uses.foldl DataLink.use (.offering address window)
    let watched := (Watched.offering address window).useAll uses
    watched.link = link ∧ ∃ field, watched.opening = some field ∧
      link.session.terms = watched.inherited.revise field ∧
      (link.session.terms = Terms.revise {} field ↔
        ((Param.lastExtension field).isSome ∨ watched.inherited.miu = defaultMiu) ∧
          ((Param.lastWindow field).isSome ∨ watched.inherited.window = peerDefaultWindow)) := by
  intro link watched
  have same : watched.link = link := Watched.useAll_link (.offering address window) uses
  have sound : watched.Sound := Watched.useAll_sound (Watched.offering_sound address window) uses
  obtain ⟨field, opened⟩ := Option.ne_none_iff_exists'.mp
    (sound.opening (.inl (same ▸ connected)))
  have terms : link.session.terms = watched.inherited.revise field := by
    rw [← same, sound.terms, Watched.taken, opened, List.foldl_append]
    rfl
  exact ⟨same, field, opened, terms, by rw [terms, Terms.revise_eq_iff]⟩

/-- A peer that opens a link for long PDUs and a window of fifteen, closes it and opens it again
without a word about either. -/
def reopened : List LinkUse :=
  let pdu type info : Pdu := ⟨.masked 4, type, .masked 32, none, info⟩
  [.receive (pdu .connect [0x02, 0x02, 0x00, 0x80, 0x05, 0x01, 0x0f]), .accept,
    .receive (pdu .disc []), .receive (pdu .connect []), .accept].map .operate

/-- The second connection keeps the terms of the first, although its opening field grants neither. -/
theorem DataLink.reopened_inherits :
    let address : LinkAddress := ⟨.masked 4, .masked 32⟩
    let link := reopened.foldl DataLink.use (.offering address 4)
    let watched := (Watched.offering address 4).useAll reopened
    watched.link = link ∧ link.session.status = .connected ∧ watched.opening = some [] ∧
      link.session.miu = 256 ∧ link.session.remoteWindow = 15 ∧
        Terms.revise {} [] = ⟨defaultMiu, peerDefaultWindow⟩ := by
  decide +kernel

theorem DataLink.reopened_terms :
    let link := reopened.foldl DataLink.use (.offering ⟨.masked 4, .masked 32⟩ 4)
    let watched := (Watched.offering ⟨.masked 4, .masked 32⟩ 4).useAll reopened
    link.session.status = .connected ∧ ∃ field, watched.opening = some field ∧
      link.session.terms = watched.inherited.revise field ∧
        link.session.terms ≠ Terms.revise {} field := by
  have connected : (reopened.foldl DataLink.use
      (.offering ⟨.masked 4, .masked 32⟩ 4)).session.status = .connected := by decide +kernel
  obtain ⟨_, field, opened, terms, alone⟩ := DataLink.connected_terms _ 4 reopened connected
  refine ⟨connected, field, opened, terms, fun same => ?_⟩
  have silent : ((Watched.offering ⟨.masked 4, .masked 32⟩ 4).useAll reopened).opening =
      some [] := by decide +kernel
  have changed : ¬((Param.lastExtension []).isSome ∨ ((Watched.offering ⟨.masked 4, .masked 32⟩
      4).useAll reopened).inherited.miu = defaultMiu) := by decide +kernel
  cases opened.symm.trans silent
  exact changed (alone.mp same).1

end NearField.Llcp
