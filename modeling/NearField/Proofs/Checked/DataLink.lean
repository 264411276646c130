import NearField.Proofs.Checked.Param
import NearField.Proofs.Checked.Pdu
import NearField.Proofs.Llcp.LogicalOperation

/-!
Data link connections with every access to packet and receive buffers and every step of a counter
checked. Main statements: the queue never hands out more than its pool counts, received information
always finds its place, and so a sound session takes whatever PDU comes without a fault.
-/

namespace NearField.Llcp

namespace PacketBuffer

def checkedContents (buffer : PacketBuffer) : Checked Octets :=
  buffer.memory.checkedSlice 0 buffer.length

/-- Lets a writer change the whole memory; what it leaves must be as long. -/
def checkedFill (buffer : PacketBuffer)
    (write : Octets → Checked (Except Error Nat × Octets)) :
    Checked (Except Error Nat × PacketBuffer) := do
  let (result, written) ← write buffer.memory.octets
  let memory ← buffer.memory.checkedCopy 0 bufferRoom written
  match result with
  | .error e => return (.error e, { buffer with memory })
  | .ok count =>
    if bufferRoom < count then
      return (.error (.invalidLength bufferRoom count), { buffer with memory })
    else return (.ok count, ⟨memory, count⟩)

def checkedRelease (buffer : PacketBuffer) : Checked PacketBuffer := do
  let memory ← buffer.memory.checkedBlank 0 buffer.length
  return ⟨memory, 0⟩

theorem checkedContents_eq {buffer : PacketBuffer} (fits : buffer.length ≤ bufferRoom) :
    buffer.checkedContents = pure buffer.contents :=
  Block.checkedSlice_le buffer.memory (Nat.zero_le _) fits

theorem checkedRelease_eq {buffer : PacketBuffer} (fits : buffer.length ≤ bufferRoom) :
    buffer.checkedRelease = pure buffer.release := by
  rw [checkedRelease, Block.checkedBlank_le _ (Nat.zero_le _) fits, pure_bind]
  rfl

theorem checkedFill_eq (buffer : PacketBuffer)
    {write : Octets → Checked (Except Error Nat × Octets)} {frame : Except Error Octets}
    (writes : ∀ memory, write memory = pure (Octets.place memory frame)) :
    buffer.checkedFill write = pure (buffer.fill fun memory => Octets.place memory frame) := by
  have whole : (Octets.place buffer.memory.octets frame).2.length = bufferRoom := by
    have size := buffer.memory.length_octets
    unfold Octets.place
    split
    · exact size
    · rw [Octets.length_overlay, size]
  rw [checkedFill, writes, pure_bind, fill]
  generalize Octets.place buffer.memory.octets frame = placed at whole
  obtain ⟨result, written⟩ := placed
  simp only at whole ⊢
  rw [Block.checkedCopy_eq _ (by omega) (Nat.le_refl _), pure_bind]
  cases result with
  | error e => rfl
  | ok count =>
    simp only
    split <;> rfl

end PacketBuffer

namespace PacketPool

def checkedAlloc (pool : PacketPool) : Checked (Except Error (PacketBuffer × PacketPool)) :=
  if pool.capacity ≤ pool.outstanding then return .error (.poolExhausted pool.capacity)
  else do
    let outstanding ← Size.add pool.outstanding 1
    match pool.spare with
    | [] => return .ok (.blank, { pool with outstanding })
    | buffer :: spare => return .ok (buffer, { pool with spare, outstanding })

def checkedFree (pool : PacketPool) (buffer : PacketBuffer) : Checked PacketPool := do
  let released ← buffer.checkedRelease
  return { pool with spare := released :: pool.spare, outstanding := pool.outstanding - 1 }

theorem checkedAlloc_eq {pool : PacketPool} (small : pool.capacity ≤ queueDepth) :
    pool.checkedAlloc = pure pool.alloc := by
  have depth : queueDepth = 32 := rfl
  unfold checkedAlloc alloc
  split
  · rfl
  · rw [Size.add_small (by omega), pure_bind]
    cases pool.spare <;> rfl

theorem checkedFree_eq (pool : PacketPool) {buffer : PacketBuffer}
    (fits : buffer.length ≤ bufferRoom) : pool.checkedFree buffer = pure (pool.free buffer) := by
  rw [checkedFree, PacketBuffer.checkedRelease_eq fits, pure_bind]
  rfl

end PacketPool

/-! ### The transmit queue -/

namespace TransmitQueue

instance (buffer : PacketBuffer) : Decidable buffer.Tidy := inferInstanceAs (Decidable (_ ∧ _))

def ofParts (buffers : List PacketBuffer) (pool : PacketPool) : Checked TransmitQueue :=
  if agree : pool.capacity = queueDepth ∧ pool.outstanding = buffers.length ∧
      (∀ buffer ∈ pool.spare, buffer = .blank) ∧ ∀ buffer ∈ buffers, buffer.Tidy then
    pure ⟨buffers, pool, agree.1, agree.2.1, agree.2.2.1, agree.2.2.2⟩
  else throw .queue

/-- Lets a writer fill a buffer of the pool and puts it last. The buffer of a frame that cannot be
written goes back, and the queue is as it was. -/
def checkedPush (queue : TransmitQueue)
    (write : Octets → Checked (Except Error Nat × Octets)) :
    Checked (Except Error TransmitQueue) := do
  match ← queue.pool.checkedAlloc with
  | .error e => return .error e
  | .ok (buffer, pool) =>
    match ← buffer.checkedFill write with
    | (.error e, buffer) =>
      let _ ← pool.checkedFree buffer
      return .error e
    | (.ok _, buffer) =>
      let _ ← buffer.checkedContents
      return .ok (← ofParts (queue.buffers ++ [buffer]) pool)

def checkedPeek (queue : TransmitQueue) : Checked (Option Octets) :=
  match queue.buffers with
  | [] => return none
  | buffer :: _ => return some (← buffer.checkedContents)

def checkedPop (queue : TransmitQueue) : Checked (Option (Octets × TransmitQueue)) :=
  match queue.buffers with
  | [] => return none
  | buffer :: rest => do
    let frame ← buffer.checkedContents
    let pool ← queue.pool.checkedFree buffer
    return some (frame, ← ofParts rest pool)

theorem ofParts_eq (queue : TransmitQueue) : ofParts queue.buffers queue.pool = pure queue :=
  dif_pos ⟨queue.capacity_eq, queue.outstanding_eq, queue.spare_blank, queue.tidy⟩

theorem push_parts (queue : TransmitQueue) (frame : Except Error Octets) :
    (∃ e, queue.pool.alloc = .error e ∧ queue.push frame = .error e) ∨
      ∃ pool, queue.pool.alloc = .ok (.blank, pool) ∧
        ((∃ e, Octets.within bufferRoom frame = .error e ∧ queue.push frame = .error e) ∨
          ∃ bytes pushed, Octets.within bufferRoom frame = .ok bytes ∧
            queue.push frame = .ok pushed ∧ pushed.buffers = queue.buffers ++ [framed bytes] ∧
              pushed.pool = pool) := by
  generalize eq : queue.push frame = outcome
  unfold push at eq
  split at eq
  · rename_i e alloc
    exact .inl ⟨e, alloc, eq.symm⟩
  · rename_i buffer pool alloc
    have blank : buffer = .blank :=
      (PacketPool.alloc_ok alloc).1.elim id (queue.spare_blank _)
    subst blank
    refine .inr ⟨pool, alloc, ?_⟩
    split at eq
    · rename_i e filled fill
      rw [fill_blank_place] at fill
      split at fill
      · rename_i failed within
        cases fill
        exact .inl ⟨e, within, eq.symm⟩
      · cases fill
    · rename_i count filled fill
      rw [fill_blank_place] at fill
      split at fill
      · cases fill
      · rename_i bytes within
        cases fill
        exact .inr ⟨bytes, _, within, eq.symm, rfl, rfl⟩

theorem pop_parts (queue : TransmitQueue) :
    queue.buffers = [] ∧ queue.pop = none ∨
      ∃ buffer rest popped, queue.buffers = buffer :: rest ∧
        queue.pop = some (buffer.contents, popped) ∧ popped.buffers = rest ∧
          popped.pool = queue.pool.free buffer := by
  generalize eq : queue.pop = outcome
  unfold pop at eq
  split at eq
  · rename_i none_waits
    exact .inl ⟨none_waits, eq.symm⟩
  · rename_i buffer rest waits
    exact .inr ⟨buffer, rest, _, waits, eq.symm, rfl, rfl⟩

theorem checkedPush_eq (queue : TransmitQueue)
    {write : Octets → Checked (Except Error Nat × Octets)} {frame : Except Error Octets}
    (writes : ∀ memory, write memory = pure (Octets.place memory frame)) :
    queue.checkedPush write = pure (queue.push frame) := by
  rw [checkedPush, PacketPool.checkedAlloc_eq (Nat.le_of_eq queue.capacity_eq), pure_bind]
  rcases queue.push_parts frame with ⟨e, alloc, failed⟩ | ⟨pool, alloc, filled⟩
  · rw [alloc, failed]
  · rw [alloc]
    simp only
    rw [PacketBuffer.checkedFill_eq _ writes, pure_bind, fill_blank_place]
    rcases filled with ⟨e, within, failed⟩ | ⟨bytes, pushed, within, ok, buffers, parts⟩
    · rw [within, failed]
      simp only
      rw [PacketPool.checkedFree_eq _ (Nat.zero_le _), pure_bind]
    · rw [within, ok]
      simp only
      rw [PacketBuffer.checkedContents_eq (framed_tidy (Octets.within_ok within).2).1, pure_bind,
        ← buffers, ← parts, ofParts_eq, pure_bind]

theorem checkedPeek_eq (queue : TransmitQueue) : queue.checkedPeek = pure queue.peek := by
  unfold checkedPeek peek
  cases eq : queue.buffers with
  | nil => rfl
  | cons buffer rest =>
    have tidy := queue.tidy buffer (eq ▸ List.mem_cons_self)
    simp only
    rw [PacketBuffer.checkedContents_eq tidy.1, pure_bind]
    rfl

theorem checkedPop_eq (queue : TransmitQueue) : queue.checkedPop = pure queue.pop := by
  rcases queue.pop_parts with ⟨nothing, none_⟩ | ⟨buffer, rest, popped, waits, some_, buffers, pool⟩
  · rw [checkedPop, nothing, none_]
  · have tidy := queue.tidy buffer (waits ▸ List.mem_cons_self)
    rw [checkedPop, waits, some_]
    simp only
    rw [PacketBuffer.checkedContents_eq tidy.1, pure_bind, PacketPool.checkedFree_eq _ tidy.1,
      pure_bind, ← buffers, ← pool, ofParts_eq, pure_bind]

end TransmitQueue

def ReceiveBuffer.checkedWrite (buffer : ReceiveBuffer) (bytes : Octets) :
    Checked (Nat × ReceiveBuffer) := do
  let room ← Size.sub receiveRoom buffer.used
  let count := min bytes.length room
  let stop ← Size.add buffer.used count
  let source ← bytes.checkedSlice 0 count
  let memory ← buffer.memory.checkedCopy buffer.used stop source
  let used ← Size.add buffer.used count
  return (count, ⟨memory, used⟩)

def checkedNextNumber (v : UInt8) : Checked UInt8 := do
  let sum ← Octet.add v 1
  return sum % 16

theorem ReceiveBuffer.checkedWrite_eq {buffer : ReceiveBuffer} (used : buffer.used ≤ receiveRoom)
    (bytes : Octets) : buffer.checkedWrite bytes = pure (buffer.write bytes) := by
  have room : receiveRoom = 256 := rfl
  have fits : buffer.used + min bytes.length (receiveRoom - buffer.used) ≤ receiveRoom := by omega
  rw [checkedWrite, Size.sub_of_le used, pure_bind]
  simp only
  rw [Size.add_small (by omega), pure_bind,
    Octets.checkedSlice_le (Nat.zero_le _) (Nat.min_le_left _ _), pure_bind,
    Block.checkedCopy_eq _ (by
      rw [List.drop_zero, List.length_take, Nat.sub_zero, Nat.min_eq_left (Nat.min_le_left _ _)])
      fits, pure_bind, pure_bind]
  rfl

theorem checkedNextNumber_eq {v : UInt8} (small : v < 16) :
    checkedNextNumber v = pure (nextNumber v) := by
  have bound : v.toNat < 16 := UInt8.lt_iff_toNat_lt.mp small
  have one : (1 : UInt8).toNat = 1 := rfl
  rw [checkedNextNumber, Octet.add_small (by omega), pure_bind]
  rfl

-- the addition comes before the remainder, so that it is the bound that keeps it from a fault
example : checkedNextNumber 255 = .error .number := by decide

/-! ### Sessions -/

namespace Session

def checkedApply (s : Session) : Param → Checked Session
  | .miux extension => do
    let miu ← Word.add defaultMiu extension
    return { s with miu }
  | .rw window => return { s with remoteWindow := window }
  | _ => return s

def checkedNegotiate (s : Session) (info : Octets) : Checked Session := do
  match ← (Param.checkedParseAll info).run with
  | .error _ => return s
  | .ok params => params.foldlM checkedApply s

theorem checkedApply_eq (s : Session) {param : Param} (narrow : param.Narrow) :
    s.checkedApply param = pure (s.apply param) := by
  cases param with
  | miux extension =>
    have bound : extension.toNat ≤ 2047 := narrow
    have default : defaultMiu.toNat = 128 := rfl
    rw [checkedApply, Word.add_small (by omega), pure_bind]
    rfl
  | _ => rfl

theorem checkedNegotiate_eq (s : Session) (info : Octets) :
    s.checkedNegotiate info = pure (s.negotiate info) := by
  rw [checkedNegotiate, Param.checkedParseAll_eq, run_settled, pure_bind, negotiate]
  cases parsed : Param.parseAll info with
  | error e => rfl
  | ok params =>
    have narrow := Param.parseAll_narrow parsed
    clear parsed
    simp only
    induction params generalizing s with
    | nil => rfl
    | cons param params ih =>
      obtain ⟨first, others⟩ := List.forall_mem_cons.mp narrow
      rw [List.foldlM_cons, checkedApply_eq s first, pure_bind, ih (s.apply param) others,
        List.foldl_cons]

end Session

/-! ### Data links -/

namespace DataLink

def checkedQueue (link : DataLink) (write : Octets → Checked (Except Error Nat × Octets)) :
    Checked (Except Error Unit × DataLink) := do
  match ← link.queue.checkedPush write with
  | .error e => return (.error e, link)
  | .ok queue => return (.ok (), { link with queue })

def checkedSending (link : DataLink) (write : Octets → Checked (Except Error Nat × Octets))
    (next : Session) : Checked (Except Error Unit × DataLink) := do
  match ← link.checkedQueue write with
  | (.error e, link) => return (.error e, link)
  | (.ok (), link) => return (.ok (), { link with session := next })

def checkedParting (link : DataLink) (reason : DisconnectReason) :
    Checked (Except Error Unit × DataLink) := do
  let address := link.address
  let (_, link) ← link.checkedQueue fun buffer =>
    checkedEncodeOctet buffer address.remoteSap .dm address.localSap reason.code
  return (.ok (), { link with session := link.session.reset })

def checkedAccept (link : DataLink) : Checked (Except Error Unit × DataLink) := do
  let s := link.session
  if s.status ≠ .connecting ∨ s.initiator then
    return (.error (.unsupportedOperation (.accept s.status s.initiator)), link)
  else
    match ← (Param.checkedEncodeAll [.rw s.localWindow]).run with
    | .error e => return (.error e, link)
    | .ok info =>
      link.checkedSending
        (fun buffer =>
          checkedEncodeInfo buffer link.address.remoteSap .cc link.address.localSap info)
        { s with status := .connected }

def checkedAcknowledge (link : DataLink) : Checked (Except Error Unit × DataLink) :=
  link.checkedSending
    (fun buffer =>
      checkedEncodeReady buffer .rr link.address.remoteSap link.address.localSap link.session.vr)
    { link.session with vra := link.session.vr }

def checkedRefuse (link : DataLink) (flags : UInt8) (pdu : Pdu) :
    Checked (Except Error Unit × DataLink) :=
  let s := link.session
  let report : FrameReject :=
    { flags, type := pdu.type, sequence := (pdu.sequence.map Sequence.toOctet).getD 0
      vs := s.vs, vr := s.vr, vsa := s.vsa, vra := s.vra }
  link.checkedQueue fun buffer =>
    checkedEncodeInfo buffer link.address.remoteSap .frmr link.address.localSap report.toOctets

def checkedReceiveInformation (link : DataLink) (pdu : Pdu) :
    Checked (Except Error Unit × DataLink) :=
  let s := link.session
  match pdu.sequence with
  | none => link.checkedRefuse FrameReject.flagWellFormed pdu
  | some sequence =>
    if sequence.ns ≠ s.vr then link.checkedRefuse FrameReject.flagSend pdu
    else if !s.acknowledgeable sequence.nr then link.checkedRefuse FrameReject.flagReceive pdu
    else do
      let total ← Size.add s.received.used pdu.info.length
      if receiveRoom < total then link.checkedRefuse FrameReject.flagInformation pdu
      else
        let (_, received) ← s.received.checkedWrite pdu.info
        let vr ← checkedNextNumber s.vr
        return (.ok (), { link with session := { s with received, vr, vsa := sequence.nr } })

def checkedReceiveReady (link : DataLink) (pdu : Pdu) :
    Checked (Except Error Unit × DataLink) :=
  let s := link.session
  let nr := (pdu.sequence.map Sequence.nr).getD s.vsa
  if s.acknowledgeable nr then
    return (.ok (), { link with session := { s with vsa := nr, remoteBusy := pdu.type = .rnr } })
  else link.checkedRefuse FrameReject.flagReceive pdu

def checkedAgree (link : DataLink) (info : Octets) (change : Session → Session) :
    Checked (Except Error Unit × DataLink) := do
  let session ← link.session.checkedNegotiate info
  return (.ok (), { link with session := change session })

def checkedReceive (link : DataLink) (pdu : Pdu) : Checked (Except Error Unit × DataLink) :=
  match link.session.status, pdu.type with
  | _, .dm => return (.ok (), { link with session := link.session.reset })
  | .disconnected, .connect =>
    link.checkedAgree pdu.info fun s => { s with status := .connecting, initiator := false }
  | .connecting, .cc =>
    if link.session.initiator then
      link.checkedAgree pdu.info fun s => { s with status := .connected }
    else link.checkedParting .notConnected
  | .connected, .i => link.checkedReceiveInformation pdu
  | .connected, .rr => link.checkedReceiveReady pdu
  | .connected, .rnr => link.checkedReceiveReady pdu
  | .connected, .disc => link.checkedParting .closed
  | .connected, .frmr => return (.ok (), { link with session := link.session.reset })
  | _, _ => link.checkedParting .notConnected

section Frames

variable {link : DataLink} {write : Octets → Checked (Except Error Nat × Octets)}
  {frame : Except Error Octets}

theorem checkedSending_eq (writes : ∀ memory, write memory = pure (Octets.place memory frame))
    (next : Session) :
    link.checkedSending write next = pure (link.commit (.sending frame next)) := by
  rw [checkedSending, checkedQueue, TransmitQueue.checkedPush_eq _ writes, pure_bind, commit,
    Transition.commit]
  cases link.queue.push frame <;> rfl

theorem checkedQueue_eq (writes : ∀ memory, write memory = pure (Octets.place memory frame)) :
    link.checkedQueue write = pure (link.commit (.sending frame link.session)) := by
  rw [checkedQueue, TransmitQueue.checkedPush_eq _ writes, pure_bind, commit, Transition.commit]
  cases link.queue.push frame <;> rfl

end Frames

theorem checkedParting_eq (link : DataLink) (reason : DisconnectReason) :
    link.checkedParting reason =
      pure (link.commit
        (.parting (Session.disconnectedFrame link.address reason) link.session.reset)) := by
  have writes := fun buffer =>
    checkedEncodeOctet_eq buffer link.address.remoteSap .dm link.address.localSap reason.code
  rw [checkedParting, checkedQueue, TransmitQueue.checkedPush_eq _ writes, pure_bind, commit,
    Transition.commit, Session.disconnectedFrame, encodeDisconnected]
  cases link.queue.push (encodeWithInfo link.address.remoteSap .dm link.address.localSap
    [reason.code]) <;> rfl

theorem checkedAccept_eq (link : DataLink) : link.checkedAccept = pure link.accept := by
  unfold checkedAccept accept perform Session.accept
  simp only
  split
  · rfl
  · have small : ∀ param ∈ [Param.rw link.session.localWindow], param.value.length < 65536 := by
      intro param inside
      rw [List.mem_singleton.mp inside]
      exact (by decide : 1 < 65536)
    have info : Param.encodeAll [.rw link.session.localWindow] =
        .ok [0x05, 1, link.session.localWindow &&& 0x0f] := rfl
    rw [Param.checkedEncodeAll_eq small, run_settled, pure_bind, info]
    exact checkedSending_eq (fun buffer => checkedEncodeInfo_eq buffer _ _ _ (by simp)) _

theorem checkedAcknowledge_eq (link : DataLink) :
    link.checkedAcknowledge = pure link.acknowledge :=
  checkedSending_eq (fun buffer => checkedEncodeReady_eq buffer _ _ _ _) _

theorem checkedRefuse_eq (link : DataLink) (flags : UInt8) (pdu : Pdu) :
    link.checkedRefuse flags pdu =
      pure (link.commit (link.session.refuse link.address flags pdu)) :=
  checkedQueue_eq fun buffer => checkedEncodeInfo_eq buffer _ _ _ (by simp [FrameReject.toOctets])

theorem checkedReceiveInformation_eq {link : DataLink} (sound : link.session.Sound) {pdu : Pdu}
    (short : pdu.info.length < 65000) :
    link.checkedReceiveInformation pdu =
      pure (link.commit (link.session.receiveInformation link.address pdu)) := by
  have used := sound.received.used_le
  have room : receiveRoom = 256 := rfl
  unfold checkedReceiveInformation Session.receiveInformation
  cases pdu.sequence with
  | none => exact checkedRefuse_eq link _ pdu
  | some sequence =>
    simp only
    by_cases order : sequence.ns ≠ link.session.vr
    · rw [if_pos order, if_pos order]
      exact checkedRefuse_eq link _ pdu
    · rw [if_neg order, if_neg order]
      by_cases covered : (!link.session.acknowledgeable sequence.nr) = true
      · rw [if_pos covered, if_pos covered]
        exact checkedRefuse_eq link _ pdu
      · rw [if_neg covered, if_neg covered, Size.add_small (by omega), pure_bind]
        by_cases long : receiveRoom < link.session.received.used + pdu.info.length
        · rw [if_pos long, if_pos long]
          exact checkedRefuse_eq link _ pdu
        · rw [if_neg long, if_neg long, ReceiveBuffer.checkedWrite_eq used, pure_bind,
            checkedNextNumber_eq sound.vr_lt, pure_bind]
          rfl

theorem checkedReceiveReady_eq (link : DataLink) (pdu : Pdu) :
    link.checkedReceiveReady pdu =
      pure (link.commit (link.session.receiveReady link.address pdu)) := by
  unfold checkedReceiveReady Session.receiveReady
  simp only
  split
  · rfl
  · exact checkedRefuse_eq link _ pdu

theorem checkedAgree_eq (link : DataLink) (info : Octets) (change : Session → Session) :
    link.checkedAgree info change =
      pure (link.commit (.quiet (change (link.session.negotiate info)))) := by
  rw [checkedAgree, Session.checkedNegotiate_eq, pure_bind]
  rfl

/-- A sound session takes every PDU without a fault and does with it what the unchecked one does. -/
theorem checkedReceive_eq {link : DataLink} (sound : link.session.Sound) {pdu : Pdu}
    (short : pdu.info.length < 65000) : link.checkedReceive pdu = pure (link.receive pdu) := by
  have agreed := link.checkedAgree_eq pdu.info
  have parted := link.checkedParting_eq
  have information := checkedReceiveInformation_eq sound short
  have ready := link.checkedReceiveReady_eq pdu
  unfold checkedReceive receive Session.receive
  cases link.session.status <;> cases pdu.type
  case connecting.cc =>
    simp only
    split
    · exact agreed _
    · exact parted _
  all_goals
    first
    | rfl
    | exact information
    | exact ready
    | exact agreed _
    | exact parted _

end DataLink

end NearField.Llcp
