import NearField.Proofs.Llcp.Outstanding
import NearField.Proofs.Table

/-!
Uses of the logical link to one endpoint, as data. Main statement: whatever a logical link is used
for, its connections go only through operations of data links, so what these keep holds of each of
them.
-/

namespace NearField.Llcp

/-- A use of a logical link. What receives the next PDU on transmission is left open. -/
inductive LogicalOperation where
  | bind (sap : Sap) (name : Octets)
  | unbind (sap : Sap)
  | connect (address : LinkAddress)
  | send (address : LinkAddress) (data : Octets)
  | receive (bytes : Octets)
  | next
  | transmit (send : Octets → Except Error Nat)

def LogicalLink.operate (link : LogicalLink) : LogicalOperation → LogicalLink
  | .bind sap name =>
    match link.bind sap name with
    | .ok bound => bound
    | .error _ => link
  | .unbind sap => (link.unbind sap).2
  | .connect address => (link.connect address).2
  | .send address data => (link.send address data).2
  | .receive bytes => (link.receive bytes).2
  | .next => link.next.2
  | .transmit send => (link.transmit send).2

def LogicalLink.operateAll (link : LogicalLink) (operations : List LogicalOperation) :
    LogicalLink :=
  operations.foldl LogicalLink.operate link

/-- A property holds of each connection and the address that it is kept under. -/
def LogicalLink.Keeps (link : LogicalLink) (P : LinkAddress → DataLink → Prop) : Prop :=
  ∀ address dataLink, link.links.get? address = some dataLink → P address dataLink

def LogicalLink.Links (link : LogicalLink) (P : DataLink → Prop) : Prop := link.Keeps fun _ => P

theorem Sequence.ofOctet_lt (octet : UInt8) :
    (Sequence.ofOctet octet).ns < 16 ∧ (Sequence.ofOctet octet).nr < 16 :=
  ⟨highNibble_lt octet, lowNibble_lt octet⟩

theorem Pdu.numbered_of_decode {bytes : Octets} {pdu : Pdu} (read : Pdu.decode bytes = .ok pdu) :
    pdu.Numbered := by
  rw [Pdu.decode] at read
  by_cases long : maxPduLength < bytes.length
  · rw [if_pos long] at read
    cases read
  · rw [if_neg long] at read
    cases parts : decodeHeader bytes with
    | error e =>
      rw [parts] at read
      cases read
    | ok fields =>
      obtain ⟨dsap, type, ssap⟩ := fields
      rw [parts] at read
      change (if type.isSequenced = true then _ else _) = Except.ok pdu at read
      intro sequence present
      split at read
      · split at read
        · cases read
        · cases read
          cases present
          exact Sequence.ofOctet_lt _
      · cases read
        cases present

def LinkOperation.Continues (operation : LinkOperation) : Prop :=
  operation.WellFormed ∧ operation ≠ .disconnect

namespace LogicalLink

variable {P : LinkAddress → DataLink → Prop} {link : LogicalLink}

theorem store_keeps (all : link.Keeps P) {address : LinkAddress} {dataLink : DataLink}
    (here : P address dataLink) : (link.store address dataLink).Keeps P := by
  intro other found inside
  by_cases same : address = other
  · subst same
    rw [store, Table.get?_insert_self] at inside
    cases inside
    exact here
  · rw [store, Table.get?_insert_of_ne _ same] at inside
    exact all other found inside

theorem linkAt_keeps (fresh : ∀ address window, P address (.offering address window))
    (all : link.Keeps P) (address : LinkAddress) : P address (link.linkAt address) := by
  unfold linkAt
  cases found : link.links.get? address with
  | none => exact fresh address link.window
  | some dataLink => exact all address dataLink found

theorem queueControl_keeps (all : link.Keeps P) (pdu : Pdu) :
    (link.queueControl pdu).2.Keeps P := by
  unfold queueControl
  split <;> exact all

theorem receiveLookup_keeps (all : link.Keeps P) (pdu : Pdu) :
    (link.receiveLookup pdu).2.Keeps P := by
  unfold receiveLookup
  split
  · exact all
  · split
    · exact all
    · split
      · exact all
      · exact queueControl_keeps all _

section Kept

variable (kept : ∀ address dataLink operation, operation.Continues → P address dataLink →
  P address (dataLink.operate operation))

include kept

theorem receiveOnLink_keeps (all : link.Keeps P) {pdu : Pdu} (numbered : pdu.Numbered) :
    (link.receiveOnLink pdu).2.Keeps P := by
  unfold receiveOnLink
  simp only
  split
  · split
    · exact all
    · exact queueControl_keeps all _
  · rename_i before found
    have heard := kept _ _ (.receive pdu) ⟨numbered, by rintro ⟨⟩⟩ (all _ _ found)
    simp only [DataLink.operate] at heard
    split
    · rename_i eq
      rw [eq] at heard
      exact store_keeps all heard
    · rename_i eq
      rw [eq] at heard
      split
      · exact store_keeps all (kept _ _ .acknowledge ⟨trivial, by rintro ⟨⟩⟩ heard)
      · exact store_keeps all heard

theorem next_keeps (all : link.Keeps P) : link.next.2.Keeps P := by
  unfold next
  split
  · exact all
  · split
    · exact all
    · rename_i address dataLink first
      have found := (Table.first?_get? first).1
      exact store_keeps all (kept _ _ .next ⟨trivial, by rintro ⟨⟩⟩ (all _ _ found))

variable (fresh : ∀ address window, P address (.offering address window))

include fresh

theorem receiveConnect_keeps (all : link.Keeps P) {pdu : Pdu} (numbered : pdu.Numbered) :
    (link.receiveConnect pdu).2.Keeps P := by
  unfold receiveConnect
  cases link.connectTarget pdu with
  | error e => exact all
  | ok target =>
    cases target with
    | none => exact queueControl_keeps all _
    | some sap =>
      have start := linkAt_keeps fresh all ⟨sap, pdu.ssap⟩
      have heard := kept _ _ (.receive pdu) ⟨numbered, by rintro ⟨⟩⟩ start
      simp only [DataLink.operate] at heard
      simp only
      split
      · rename_i eq
        rw [eq] at heard
        exact store_keeps all heard
      · rename_i eq
        rw [eq] at heard
        split
        · exact store_keeps all (kept _ _ .accept ⟨trivial, by rintro ⟨⟩⟩ heard)
        · exact store_keeps all heard

theorem receive_keeps (all : link.Keeps P) (bytes : Octets) : (link.receive bytes).2.Keeps P := by
  unfold receive
  cases read : Pdu.decode bytes with
  | error e => exact all
  | ok pdu =>
    have numbered := Pdu.numbered_of_decode read
    simp only [receivePdu]
    split
    · exact all
    · exact all
    · exact all
    · exact all
    · exact receiveLookup_keeps all pdu
    · exact receiveConnect_keeps kept fresh all numbered
    · exact receiveOnLink_keeps kept all numbered

/-- What data links keep under their operations holds of every connection of a logical link. -/
theorem operate_keeps (all : link.Keeps P) (operation : LogicalOperation) :
    (link.operate operation).Keeps P := by
  cases operation with
  | bind sap name =>
    simp only [operate, bind]
    split <;> rename_i eq
    · split at eq
      · cases eq
      · cases eq
        exact all
    · exact all
  | unbind sap => exact all
  | connect address =>
    have start := linkAt_keeps fresh all address
    exact store_keeps all (kept _ _ .connect ⟨trivial, by rintro ⟨⟩⟩ start)
  | send address data =>
    simp only [operate, send]
    split
    · exact all
    · rename_i dataLink found
      exact store_keeps all (kept _ _ (.send data) ⟨trivial, by rintro ⟨⟩⟩ (all _ _ found))
  | receive bytes => exact receive_keeps kept fresh all bytes
  | next => exact next_keeps kept all
  | transmit send =>
    simp only [operate, transmit]
    split
    · exact all
    · exact next_keeps kept all

theorem operateAll_keeps (all : link.Keeps P) (operations : List LogicalOperation) :
    (link.operateAll operations).Keeps P := by
  induction operations generalizing link with
  | nil => exact all
  | cons operation operations ih => exact ih (operate_keeps kept fresh all operation)

end Kept

theorem new_keeps (window : UInt8) : (new.offering window).Keeps P := by
  intro address dataLink found
  cases found

end LogicalLink

structure DataLink.Steady (link : DataLink) : Prop where
  session : link.session.Sound
  pending_le : link.pending ≤ queueDepth
  continuing : link.session.status ≠ .disconnecting

theorem DataLink.offering_steady (address : LinkAddress) (window : UInt8) :
    (DataLink.offering address window).Steady :=
  ⟨Session.offering_sound window, Nat.zero_le _, nofun⟩

theorem Session.leads_continuing {s : Session} {address : LinkAddress} {operation : LinkOperation}
    {transition : Transition} (before : s.status ≠ .disconnecting)
    (leads : Leads s address operation transition) (other : operation ≠ .disconnect) :
    transition.next.status ≠ .disconnecting := by
  cases leads with
  | connect => exact nofun
  | accept => exact nofun
  | reject => exact nofun
  | disconnect => exact absurd rfl other
  | acknowledge => exact before
  | send => exact before
  | receive pdu _ reception =>
    cases reception with
    | ended => exact nofun
    | parted => exact nofun
    | asked => exact nofun
    | granted => exact nofun
    | taken => exact before
    | ready => exact before
    | rejected => exact before

theorem DataLink.operate_steady (link : DataLink) (operation : LinkOperation)
    (continues : operation.Continues) (steady : link.Steady) : (link.operate operation).Steady where
  session := DataLink.operate_sound steady.session continues.1
  pending_le := DataLink.operate_pending steady.pending_le operation
  continuing := by
    apply DataLink.operate_session (P := fun s => s.status ≠ .disconnecting) steady.continuing
    · intro transition leads
      exact Session.leads_continuing steady.continuing leads continues.2
    · exact nofun
    · exact fun _ => steady.continuing

/-- Every connection of a logical link is steady, whatever the logical link was used for. -/
theorem LogicalLink.reachable_steady (window : UInt8) (operations : List LogicalOperation) :
    ((LogicalLink.new.offering window).operateAll operations).Links DataLink.Steady :=
  operateAll_keeps (fun _ => DataLink.operate_steady) DataLink.offering_steady
    (new_keeps window) operations

end NearField.Llcp
