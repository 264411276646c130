import NearField.Proofs.Llcp.Lane
import NearField.Proofs.Llcp.Negotiation

/-!
Everything that a logical link can be used for, the direct use of its connections included. Main
statements: what every use of a connection keeps holds of all connections whatever is done; so each
of them has the address it is kept under, and has taken in nothing as long as it was not open.
-/

namespace NearField.Llcp

/-- A use of a logical link. -/
inductive LogicalUse where
  | operate (operation : LogicalOperation)
  | adjust (address : LinkAddress) (use : LinkUse)
  | offer (window : UInt8)
  | reset

namespace LogicalLink

def use (link : LogicalLink) : LogicalUse → LogicalLink
  | .operate operation => link.operate operation
  | .adjust address use =>
    match link.links.get? address with
    | none => link
    | some dataLink => link.store address (dataLink.use use)
  | .offer window => link.offering window
  | .reset => link.reset

def useAll (link : LogicalLink) (uses : List LogicalUse) : LogicalLink := uses.foldl use link

variable {P : LinkAddress → DataLink → Prop} {link : LogicalLink}

section Use

variable (kept : ∀ address dataLink use, P address dataLink → P address (dataLink.use use))
  (fresh : ∀ address window, P address (.offering address window))

include kept fresh

theorem use_keeps (all : link.Keeps P) (use : LogicalUse) : (link.use use).Keeps P := by
  cases use with
  | operate operation =>
    apply operate_keeps _ fresh all operation
    exact fun address dataLink operation _ => kept address dataLink (.operate operation)
  | adjust address use =>
    simp only [LogicalLink.use]
    split
    · exact all
    · rename_i dataLink found
      exact store_keeps all (kept _ _ use (all _ _ found))
  | offer window => exact all
  | reset =>
    intro address dataLink found
    cases found

/-- What new connections have and every use of a connection keeps holds of all connections,
whatever the logical link was used for. -/
theorem useAll_keeps (all : link.Keeps P) (uses : List LogicalUse) :
    (link.useAll uses).Keeps P := by
  induction uses generalizing link with
  | nil => exact all
  | cons use uses ih => exact ih (use_keeps kept fresh all use)

end Use

end LogicalLink

def Session.Fresh (s : Session) : Prop :=
  s.status = .disconnected ∨ s.status = .connecting → s.vr = 0

theorem Session.negotiate_vr (s : Session) (info : Octets) : (s.negotiate info).vr = s.vr := by
  unfold negotiate
  cases Param.parseAll info with
  | error e => rfl
  | ok params =>
    simp only
    induction params generalizing s with
    | nil => rfl
    | cons param params ih =>
      rw [List.foldl_cons, ih]
      cases param <;> rfl

theorem Session.leads_fresh {s : Session} {address : LinkAddress} {operation : LinkOperation}
    {transition : Transition} (before : s.Fresh) (leads : Leads s address operation transition) :
    transition.next.Fresh := by
  have opened (next : Session) (connected : next.status = .connected) : next.Fresh := by
    rintro (free | waiting)
    · rw [connected] at free
      cases free
    · rw [connected] at waiting
      cases waiting
  cases leads with
  | connect free => exact fun _ => before (.inl free)
  | accept => exact opened _ rfl
  | reject => exact fun _ => rfl
  | disconnect => rintro (free | waiting) <;> contradiction
  | acknowledge | send => exact before
  | receive pdu _ reception =>
    cases reception with
    | ended | parted => exact fun _ => rfl
    | asked free =>
      intro _
      exact (s.negotiate_vr pdu.info).trans (before (.inl free))
    | granted => exact opened _ rfl
    | taken _ connected | ready connected => exact opened _ connected
    | rejected => exact before

structure DataLink.Placed (link : DataLink) (address : LinkAddress) : Prop where
  address_eq : link.address = address
  fresh : link.session.Fresh

namespace DataLink

variable {link : DataLink} {address : LinkAddress}

theorem offering_placed (address : LinkAddress) (window : UInt8) :
    (offering address window).Placed address :=
  ⟨rfl, fun _ => rfl⟩

theorem operate_placed (placed : link.Placed address) (operation : LinkOperation) :
    (link.operate operation).Placed address where
  address_eq := (link.operate_address operation).trans placed.address_eq
  fresh := by
    apply operate_session (P := Session.Fresh) placed.fresh
    · intro transition leads
      exact Session.leads_fresh placed.fresh leads
    · exact fun _ => rfl
    · intro count unopened
      exact placed.fresh unopened

theorem use_placed (placed : link.Placed address) (use : LinkUse) :
    (link.use use).Placed address := by
  cases use with
  | operate operation => exact operate_placed placed operation
  | write bytes =>
    rw [DataLink.use, writeReceived_link]
    exact ⟨placed.address_eq, fun unopened => placed.fresh unopened⟩

end DataLink

namespace LogicalLink

variable {link : LogicalLink}

def Placed (link : LogicalLink) : Prop :=
  link.Keeps fun address dataLink => dataLink.Placed address

theorem linkAt_placed (placed : link.Placed) (address : LinkAddress) :
    (link.linkAt address).Placed address :=
  linkAt_keeps DataLink.offering_placed placed address

theorem useAll_placed (placed : link.Placed) (uses : List LogicalUse) :
    (link.useAll uses).Placed :=
  useAll_keeps (fun _ _ use here => DataLink.use_placed here use) DataLink.offering_placed placed uses

theorem new_placed (window : UInt8) : (new.offering window).Placed := new_keeps window

end LogicalLink

end NearField.Llcp
