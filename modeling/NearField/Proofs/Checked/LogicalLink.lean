import NearField.Proofs.Checked.DataLink
import NearField.Proofs.Llcp.Outbound

/-!
The logical link to an endpoint with every access and every sum checked. Main statements: whatever
octets come from the peer are taken without a fault, and so is the next PDU to send.
-/

namespace NearField.Llcp

theorem Pdu.decode_info_length {bytes : Octets} {pdu : Pdu} (read : Pdu.decode bytes = .ok pdu) :
    pdu.info.length ≤ maxPduLength := by
  unfold Pdu.decode at read
  by_cases long : maxPduLength < bytes.length
  · rw [if_pos long] at read
    cases read
  · rw [if_neg long] at read
    have bound := Nat.not_lt.mp long
    obtain ⟨⟨dsap, type, ssap⟩, _, read⟩ := bind_eq_ok read
    have size : (bytes.drop headerLength).length ≤ bytes.length := by
      rw [List.length_drop]
      omega
    simp only at read
    split at read
    · cases rest : bytes.drop headerLength with
      | nil => rw [rest] at read; cases read
      | cons octet info =>
        rw [rest] at read size
        cases read
        rw [List.length_cons] at size
        simp only
        omega
    · cases read
      exact Nat.le_trans size bound

namespace LogicalLink

def checkedQueueControl (link : LogicalLink) (pdu : Pdu) :
    Checked (Except Error Unit × LogicalLink) := do
  match ← pdu.checkedEncode.run with
  | .error e => return (.error e, link)
  | .ok bytes => return (.ok (), { link with control := link.control ++ [bytes] })

def checkedQueueDisconnected (link : LogicalLink) (pdu : Pdu) (reason : DisconnectReason) :
    Checked (Except Error Unit × LogicalLink) :=
  link.checkedQueueControl
    { dsap := pdu.ssap, type := .dm, ssap := pdu.dsap, info := [reason.code] }

def checkedReceiveLookup (link : LogicalLink) (pdu : Pdu) :
    Checked (Except Error Unit × LogicalLink) := do
  match ← (Param.checkedParseAll pdu.info).run with
  | .error e => return (.error e, link)
  | .ok params =>
    match params.filterMap link.answer? with
    | [] => return (.ok (), link)
    | answers =>
      match ← (Param.checkedEncodeAll answers).run with
      | .error e => return (.error e, link)
      | .ok info =>
        link.checkedQueueControl { dsap := pdu.ssap, type := .snl, ssap := .discovery, info }

def checkedConnectTarget (link : LogicalLink) (pdu : Pdu) : Attempt (Option Sap) :=
  if pdu.dsap = .discovery then do
    let params ← Param.checkedParseAll pdu.info
    return (serviceName? params).bind link.lookup
  else if link.isBound pdu.dsap then return some pdu.dsap
  else return none

def checkedReceiveConnect (link : LogicalLink) (pdu : Pdu) :
    Checked (Except Error Unit × LogicalLink) := do
  match ← (link.checkedConnectTarget pdu).run with
  | .error e => return (.error e, link)
  | .ok none => link.checkedQueueDisconnected pdu .noService
  | .ok (some sap) =>
    let address : LinkAddress := ⟨sap, pdu.ssap⟩
    match ← (link.linkAt address).checkedReceive pdu with
    | (.error e, dataLink) => return (.error e, link.store address dataLink)
    | (.ok (), dataLink) =>
      if dataLink.session.status = .connecting ∧ !dataLink.session.initiator then
        let (result, dataLink) ← dataLink.checkedAccept
        return (result, link.store address dataLink)
      else return (.ok (), link.store address dataLink)

def checkedReceiveOnLink (link : LogicalLink) (pdu : Pdu) :
    Checked (Except Error Unit × LogicalLink) :=
  let address : LinkAddress := ⟨pdu.dsap, pdu.ssap⟩
  match link.links.get? address with
  | none =>
    if pdu.type = .dm then return (.ok (), link)
    else link.checkedQueueDisconnected pdu .notConnected
  | some before => do
    match ← before.checkedReceive pdu with
    | (.error e, dataLink) => return (.error e, link.store address dataLink)
    | (.ok (), dataLink) =>
      if pdu.type = .i ∧ dataLink.session.vr ≠ before.session.vr then
        let (result, dataLink) ← dataLink.checkedAcknowledge
        return (result, link.store address dataLink)
      else return (.ok (), link.store address dataLink)

def checkedReceive (link : LogicalLink) (bytes : Octets) :
    Checked (Except Error Unit × LogicalLink) := do
  match ← (Pdu.checkedDecode bytes).run with
  | .error e => return (.error e, link)
  | .ok pdu =>
    match pdu.type with
    | .symm | .ui | .pax | .agf => return (.ok (), link)
    | .snl => link.checkedReceiveLookup pdu
    | .connect => link.checkedReceiveConnect pdu
    | _ => link.checkedReceiveOnLink pdu

def checkedPeekFirst : List (LinkAddress × DataLink) → Checked (Option Octets)
  | [] => return none
  | (_, dataLink) :: rest => do
    match ← dataLink.queue.checkedPeek with
    | some frame => return some frame
    | none => checkedPeekFirst rest

def checkedPeek (link : LogicalLink) : Checked (Option Octets) :=
  match link.control with
  | bytes :: _ => return some bytes
  | [] => checkedPeekFirst link.links.entries

def checkedPopFirst :
    List (LinkAddress × DataLink) → Checked (Option (LinkAddress × Octets × DataLink))
  | [] => return none
  | (address, dataLink) :: rest => do
    match ← dataLink.queue.checkedPop with
    | some (frame, queue) => return some (address, frame, { dataLink with queue })
    | none => checkedPopFirst rest

def checkedNext (link : LogicalLink) : Checked (Option Octets × LogicalLink) :=
  match link.control with
  | bytes :: rest => return (some bytes, { link with control := rest })
  | [] => do
    match ← checkedPopFirst link.links.entries with
    | none => return (none, link)
    | some (address, frame, dataLink) => return (some frame, link.store address dataLink)

def checkedTransmit (link : LogicalLink)
    (write : Octets → Checked (Except Error Nat × Octets)) :
    Checked ((Except Error Nat × Octets) × LogicalLink) := do
  let waiting ← link.checkedPeek
  match ← write (waiting.getD symmetry) with
  | (.error e, buffer) => return ((.error e, buffer), link)
  | (.ok count, buffer) =>
    let (_, link) ← link.checkedNext
    return ((.ok count, buffer), link)

abbrev Steady (link : LogicalLink) : Prop := link.Links DataLink.Steady

theorem checkedQueueControl_eq (link : LogicalLink) {pdu : Pdu} (short : pdu.info.length < 2 ^ 63) :
    link.checkedQueueControl pdu = pure (link.queueControl pdu) := by
  rw [checkedQueueControl, Pdu.checkedEncode_eq short, run_settled, pure_bind, queueControl]
  cases pdu.encode <;> rfl

theorem checkedQueueDisconnected_eq (link : LogicalLink) (pdu : Pdu) (reason : DisconnectReason) :
    link.checkedQueueDisconnected pdu reason = pure (link.queueDisconnected pdu reason) :=
  checkedQueueControl_eq link (by simp)

theorem checkedReceiveLookup_eq (link : LogicalLink) {pdu : Pdu}
    (short : pdu.info.length ≤ maxPduLength) :
    link.checkedReceiveLookup pdu = pure (link.receiveLookup pdu) := by
  have max : maxPduLength = 256 := rfl
  rw [checkedReceiveLookup, Param.checkedParseAll_eq, run_settled, pure_bind, receiveLookup]
  cases parsed : Param.parseAll pdu.info with
  | error e => rfl
  | ok params =>
    have few := Param.parseAll_length parsed
    have fewer := List.length_filterMap_le link.answer? params
    have all := link.answers_all params
    simp only
    generalize params.filterMap link.answer? = answers at fewer all
    cases answers with
    | nil => rfl
    | cons answer rest =>
      obtain ⟨info, encoded, size⟩ := Param.encodeAll_answers all
      have narrow : ∀ param ∈ answer :: rest, param.value.length < 65536 := by
        intro param inside
        obtain ⟨tid, sap, rfl⟩ := all param inside
        exact (by decide : 2 < 65536)
      simp only
      rw [Param.checkedEncodeAll_eq narrow, run_settled, pure_bind, encoded]
      simp only
      exact checkedQueueControl_eq link (by simp only; omega)

theorem checkedConnectTarget_eq (link : LogicalLink) (pdu : Pdu) :
    link.checkedConnectTarget pdu = settled (link.connectTarget pdu) := by
  unfold checkedConnectTarget connectTarget
  split
  · rw [Param.checkedParseAll_eq, settled_map]
  · split <;> rfl

theorem checkedReceiveConnect_eq {link : LogicalLink} (steady : link.Steady)
    {pdu : Pdu} (short : pdu.info.length ≤ maxPduLength) :
    link.checkedReceiveConnect pdu = pure (link.receiveConnect pdu) := by
  have max : maxPduLength = 256 := rfl
  rw [checkedReceiveConnect, checkedConnectTarget_eq, run_settled, pure_bind, receiveConnect]
  cases link.connectTarget pdu with
  | error e => rfl
  | ok target =>
    cases target with
    | none => exact checkedQueueDisconnected_eq link pdu _
    | some sap =>
      have before := linkAt_keeps DataLink.offering_steady steady ⟨sap, pdu.ssap⟩
      simp only
      rw [DataLink.checkedReceive_eq before.session (by omega), pure_bind]
      generalize (link.linkAt ⟨sap, pdu.ssap⟩).receive pdu = received
      obtain ⟨result, dataLink⟩ := received
      cases result with
      | error e => rfl
      | ok =>
        simp only
        split
        · rw [DataLink.checkedAccept_eq, pure_bind]
        · rfl

theorem checkedReceiveOnLink_eq {link : LogicalLink} (steady : link.Steady)
    {pdu : Pdu} (short : pdu.info.length ≤ maxPduLength) :
    link.checkedReceiveOnLink pdu = pure (link.receiveOnLink pdu) := by
  have max : maxPduLength = 256 := rfl
  unfold checkedReceiveOnLink receiveOnLink
  simp only
  cases found : link.links.get? ⟨pdu.dsap, pdu.ssap⟩ with
  | none =>
    simp only
    split
    · rfl
    · exact checkedQueueDisconnected_eq link pdu _
  | some before =>
    simp only
    rw [DataLink.checkedReceive_eq (steady _ _ found).session (by omega), pure_bind]
    generalize before.receive pdu = received
    obtain ⟨result, dataLink⟩ := received
    cases result with
    | error e => rfl
    | ok =>
      simp only
      split
      · rw [DataLink.checkedAcknowledge_eq, pure_bind]
      · rfl

/-- Whatever octets come from the peer, they are taken as the unchecked link takes them. -/
theorem checkedReceive_eq {link : LogicalLink} (steady : link.Steady)
    (bytes : Octets) : link.checkedReceive bytes = pure (link.receive bytes) := by
  rw [checkedReceive, Pdu.checkedDecode_eq, run_settled, pure_bind, receive]
  cases read : Pdu.decode bytes with
  | error e => rfl
  | ok pdu =>
    have short := Pdu.decode_info_length read
    have lookup := link.checkedReceiveLookup_eq short
    have connect := checkedReceiveConnect_eq steady short
    have others := checkedReceiveOnLink_eq steady short
    simp only [receivePdu]
    cases pdu.type <;> first | rfl | exact lookup | exact connect | exact others

theorem checkedPeekFirst_eq (entries : List (LinkAddress × DataLink)) :
    checkedPeekFirst entries =
      pure ((entries.find? fun entry => entry.2.pending ≠ 0).bind fun entry => entry.2.peek) := by
  induction entries with
  | nil => rfl
  | cons entry rest ih =>
    obtain ⟨address, dataLink⟩ := entry
    rw [checkedPeekFirst, TransmitQueue.checkedPeek_eq, pure_bind, List.find?_cons]
    unfold DataLink.pending DataLink.peek TransmitQueue.size TransmitQueue.peek
    cases waits : dataLink.queue.buffers with
    | nil => exact ih
    | cons buffer others => simp [waits]

theorem checkedPeek_eq (link : LogicalLink) : link.checkedPeek = pure link.peek := by
  unfold checkedPeek peek
  cases link.control with
  | cons bytes rest => rfl
  | nil => exact checkedPeekFirst_eq link.links.entries

theorem checkedPopFirst_eq (entries : List (LinkAddress × DataLink)) :
    checkedPopFirst entries =
      pure ((entries.find? fun entry => entry.2.pending ≠ 0).bind fun entry =>
        entry.2.queue.pop.map fun taken =>
          (entry.1, taken.1, { entry.2 with queue := taken.2 })) := by
  induction entries with
  | nil => rfl
  | cons entry rest ih =>
    obtain ⟨address, dataLink⟩ := entry
    rw [checkedPopFirst, TransmitQueue.checkedPop_eq, pure_bind, List.find?_cons]
    rcases dataLink.queue.pop_parts with
      ⟨nothing, popped⟩ | ⟨buffer, others, after, waits, popped, _⟩
    · rw [popped]
      have idle : dataLink.pending = 0 := congrArg List.length nothing
      simpa [idle] using ih
    · rw [popped]
      have busy : dataLink.pending ≠ 0 := by
        rw [DataLink.pending, TransmitQueue.size, waits]
        exact Nat.succ_ne_zero _
      simp [busy, popped]

theorem checkedNext_eq (link : LogicalLink) : link.checkedNext = pure link.next := by
  unfold checkedNext next
  cases link.control with
  | cons bytes rest => rfl
  | nil =>
    simp only [checkedPopFirst_eq, pure_bind, firstPending, Table.first?]
    cases found : link.links.entries.find? fun entry => entry.2.pending ≠ 0 with
    | none => rfl
    | some entry =>
      obtain ⟨address, dataLink⟩ := entry
      have busy : dataLink.pending ≠ 0 := by simpa using List.find?_some found
      rcases dataLink.queue.pop_parts with ⟨nothing, _⟩ | ⟨buffer, others, after, _, popped, _⟩
      · exact absurd (congrArg List.length nothing) busy
      · simp only [Option.bind_some, popped, Option.map_some, DataLink.next]

theorem checkedTransmit_eq (link : LogicalLink) {buffer : Octets}
    {write : Octets → Checked (Except Error Nat × Octets)}
    {encode : Octets → Except Error Octets}
    (writes : ∀ pdu, write pdu = pure (buffer.place (encode pdu))) :
    link.checkedTransmit write =
      pure (buffer.place (link.transmit fun pdu => Octets.within buffer.length (encode pdu)).1,
        (link.transmit fun pdu => Octets.within buffer.length (encode pdu)).2) := by
  rw [checkedTransmit, checkedPeek_eq, pure_bind, writes, pure_bind, transmit]
  cases fits : Octets.within buffer.length (encode (link.peek.getD symmetry)) with
  | error e =>
    rw [Octets.place, fits]
    rfl
  | ok bytes =>
    have room := (Octets.within_ok fits).2
    rw [Octets.place, fits]
    simp only
    rw [checkedNext_eq, pure_bind, Octets.place_ok, if_neg (Nat.not_lt.mpr room)]

theorem reset_steady (link : LogicalLink) : link.reset.Steady :=
  fun _ _ inside => by cases inside

theorem receive_steady {link : LogicalLink} (steady : link.Steady) (bytes : Octets) :
    (link.receive bytes).2.Steady :=
  receive_keeps (fun _ => DataLink.operate_steady) DataLink.offering_steady steady bytes

theorem transmit_steady {β : Type} {link : LogicalLink} (steady : link.Steady)
    (send : Octets → Except Error β) : (link.transmit send).2.Steady := by
  unfold transmit
  split
  · exact steady
  · exact next_keeps (fun _ => DataLink.operate_steady) steady

end LogicalLink

end NearField.Llcp
