import NearField.Proofs.Llcp.Exhaustion

/-!
Failures of an operation on a connection, and what sending comes to. Main statement: an operation
that fails leaves the link as it was, and sending fails, has to wait or queues one numbered frame
with the data, each under its own condition.
-/

namespace NearField.Llcp

def LinkResult.Failed (result : LinkResult) : Prop :=
  ∃ e, result = done (.error e) ∨ result = sent (.error e)

namespace DataLink

variable {link : DataLink} {data : Octets}

theorem perform_error {transition : Except Error Transition} {e : Error}
    (failed : (link.perform transition).1 = .error e) : (link.perform transition).2 = link := by
  cases transition with
  | error => rfl
  | ok transition => exact commit_error failed

theorem send_error {e : Error} (failed : (link.send data).1 = .error e) :
    (link.send data).2 = link := by
  rcases link.send_sent data with ⟨_, same⟩ | ⟨sent, _⟩
  · exact same
  · rw [sent] at failed
    cases failed

/-- An operation that fails leaves the link as it was. -/
theorem use_failed {use : LinkUse} (failed : (link.result use).Failed) : link.use use = link := by
  obtain ⟨e, failed⟩ := failed
  cases use with
  | write bytes => simp [result] at failed
  | operate operation =>
    cases operation with
    | connect | accept | reject | disconnect =>
      simp only [result, LinkResult.done.injEq, reduceCtorEq, or_false] at failed
      exact perform_error failed
    | acknowledge | receive =>
      simp only [result, LinkResult.done.injEq, reduceCtorEq, or_false] at failed
      exact commit_error failed
    | send data =>
      simp only [result, LinkResult.sent.injEq, reduceCtorEq, false_or] at failed
      exact send_error failed
    | next | clear | consume => simp [result] at failed

/-- The peer takes no numbered frame now: it asked for a pause, or its receive window is full. -/
def Held (link : DataLink) : Prop :=
  link.session.remoteBusy = true ∨ link.session.remoteWindow ≤ link.session.outstanding

def dataLimit (link : DataLink) : Nat := min link.session.miu.toNat 249

inductive Sending (link : DataLink) (data : Octets) : Except Error Bool × DataLink → Prop
  | closed (other : link.session.status ≠ .connected) :
      Sending link data (.error
        (.linkNotConnected link.address.localSap.value link.address.remoteSap.value), link)
  | long (connected : link.session.status = .connected) (exceeds : link.dataLimit < data.length) :
      Sending link data (.error (.invalidLength link.dataLimit data.length), link)
  | held (connected : link.session.status = .connected) (short : data.length ≤ link.dataLimit)
      (held : link.Held) : Sending link data (.ok false, link)
  | full (connected : link.session.status = .connected) (short : data.length ≤ link.dataLimit)
      (free : ¬link.Held) (full : link.pending = queueDepth) :
      Sending link data (.error (.poolExhausted queueDepth), link)
  | queued (connected : link.session.status = .connected) (short : data.length ≤ link.dataLimit)
      (free : ¬link.Held) (room : link.pending < queueDepth) (frame : Octets)
      (queue : TransmitQueue) (last : queue.toList = link.queue.toList ++ [frame])
      (read : Pdu.decode frame = .ok
        { dsap := link.address.remoteSap, type := .i, ssap := link.address.localSap
          sequence := some ⟨link.session.vs, link.session.vr⟩, info := data }) :
      Sending link data (.ok true,
        { link with session := { link.session with vs := number (link.session.vs.toNat + 1) }
                    queue })

theorem send_closed (other : link.session.status ≠ .connected) (data : Octets) :
    link.send data = (.error
      (.linkNotConnected link.address.localSap.value link.address.remoteSap.value), link) := by
  rw [send, Session.send, if_pos other]

theorem send_long (connected : link.session.status = .connected)
    (exceeds : link.dataLimit < data.length) :
    link.send data = (.error (.invalidLength link.dataLimit data.length), link) := by
  have long : link.session.maxInfo < data.length := exceeds
  rw [send, Session.send, if_neg (not_not.mpr connected), if_pos long]
  rfl

theorem send_held (connected : link.session.status = .connected)
    (short : data.length ≤ link.dataLimit) (held : link.Held) :
    link.send data = (.ok false, link) := by
  have fits : ¬link.session.maxInfo < data.length := Nat.not_lt.mpr short
  rw [Held] at held
  rw [send, Session.send, if_neg (not_not.mpr connected), if_neg fits, if_pos held]

theorem send_free {window : UInt8} (offers : link.session.Offers window)
    (connected : link.session.status = .connected) (short : data.length ≤ link.dataLimit)
    (free : ¬link.Held) :
    link.send data =
      let (outcome, after) := link.commit (.sending
        (.ok (header link.address.remoteSap .i link.address.localSap ++
          [Sequence.toOctet ⟨link.session.vs, link.session.vr⟩] ++ data))
        { link.session with vs := number (link.session.vs.toNat + 1) })
      (outcome.map fun _ => true, after) := by
  have counted : nextNumber link.session.vs = number (link.session.vs.toNat + 1) := by
    rw [← nextNumber_number, number_toNat offers.vs_lt]
  have fits : ¬link.session.maxInfo < data.length := Nat.not_lt.mpr short
  rw [Held] at free
  rw [send, Session.send, if_neg (not_not.mpr connected), if_neg fits, if_neg free,
    encodeInformation_ok _ _ offers.vs_lt offers.vr_lt, counted]
  rfl

theorem send_free_sending {window : UInt8} (offers : link.session.Offers window)
    (bound : link.pending ≤ queueDepth) (connected : link.session.status = .connected)
    (short : data.length ≤ link.dataLimit) (free : ¬link.Held) :
    link.Sending data (link.send data) := by
  rw [send_free offers connected short free]
  rcases Nat.lt_or_eq_of_le bound with room | full
  · have small : data.length ≤ 249 := Nat.le_trans short (Nat.min_le_right _ _)
    have fits : (header link.address.remoteSap .i link.address.localSap ++
        [Sequence.toOctet ⟨link.session.vs, link.session.vr⟩] ++ data).length ≤ bufferRoom := by
      simp only [List.length_append, length_header, List.length_singleton, bufferRoom]
      omega
    obtain ⟨queue, queued, last⟩ :=
      commit_room { link.session with vs := number (link.session.vs.toNat + 1) } room fits
    have read := decode_information link.address.remoteSap link.address.localSap data
      offers.vs_lt offers.vr_lt (by omega)
    rw [queued]
    exact .queued connected short free room _ queue last read
  · rw [commit, Transition.commit, TransmitQueue.push_full (Nat.le_of_eq full.symm)]
    exact .full connected short free full

theorem send_sending {window : UInt8} (offers : link.session.Offers window)
    (bound : link.pending ≤ queueDepth) (data : Octets) :
    link.Sending data (link.send data) := by
  by_cases connected : link.session.status = .connected
  · rcases Nat.lt_or_ge link.dataLimit data.length with exceeds | short
    · rw [send_long connected exceeds]
      exact .long connected exceeds
    · by_cases held : link.Held
      · rw [send_held connected short held]
        exact .held connected short held
      · exact send_free_sending offers bound connected short held
  · rw [send_closed connected]
    exact .closed connected

/-- Which result sending has: the conditions are looked at in turn, and each decides between its
own result and those after it. -/
structure Decides (link : DataLink) (data : Octets) (result : Except Error Bool) : Prop where
  closed : result = .error
      (.linkNotConnected link.address.localSap.value link.address.remoteSap.value) ↔
    link.session.status ≠ .connected
  long : link.session.status = .connected →
    (result = .error (.invalidLength link.dataLimit data.length) ↔ link.dataLimit < data.length)
  held : link.session.status = .connected → data.length ≤ link.dataLimit →
    (result = .ok false ↔ link.Held)
  full : link.session.status = .connected → data.length ≤ link.dataLimit → ¬link.Held →
    (result = .error (.poolExhausted queueDepth) ↔ link.pending = queueDepth)
  queued : result = .ok true ↔ link.session.status = .connected ∧
    data.length ≤ link.dataLimit ∧ ¬link.Held ∧ link.pending ≠ queueDepth

theorem Sending.decides {outcome : Except Error Bool × DataLink}
    (sending : link.Sending data outcome) : link.Decides data outcome.1 := by
  cases sending with
  | closed other => constructor <;> simp [other]
  | long connected exceeds => constructor <;> simp [connected, exceeds]
  | held connected short held => constructor <;> simp [connected, short, held]
  | full connected short free full => constructor <;> simp [connected, short, free, full]
  | queued connected short free room =>
    have other : link.pending ≠ queueDepth := Nat.ne_of_lt room
    constructor <;> simp [connected, short, free, other]

/-- Whatever a link was used for, an operation that fails leaves it as it was; and sending data has
the result that the first condition against it gives, with nothing changed, or else advances the
send number and queues one numbered frame that is read as the data. -/
theorem failed_unchanged_send_exact (address : LinkAddress) (window : UInt8)
    (uses : List LinkUse) :
    let link := (DataLink.offering address window).useAll uses
    (∀ use, (link.result use).Failed → link.use use = link) ∧
      ∀ data, link.Decides data (link.send data).1 ∧ link.Sending data (link.send data) := by
  intro link
  have offers : link.session.Offers window :=
    useAll_offers (Session.offers_of_rest rfl rfl rfl) uses
  have none_waits : (DataLink.offering address window).pending ≤ queueDepth :=
    Nat.zero_le queueDepth
  have bound : link.pending ≤ queueDepth := useAll_pending none_waits uses
  refine ⟨fun use => use_failed, fun data => ?_⟩
  have sending := send_sending offers bound data
  exact ⟨sending.decides, sending⟩

/-- Thirty-two frames wait on an open connection whose peer would take one more. -/
theorem failed_unchanged_send_exact_full :
    let address : LinkAddress := ⟨.masked 4, .masked 32⟩
    let request : Pdu :=
      { dsap := .masked 4, type := .connect, ssap := .masked 32, info := [0x05, 0x01, 0x0f] }
    let uses : List LinkUse := .operate (.receive request) :: .operate .accept ::
      List.replicate 31 (.operate .acknowledge)
    let data : Octets := [1]
    let link := (DataLink.offering address 4).useAll uses
    link.session.status = .connected ∧ ¬link.Held ∧ link.pending = queueDepth ∧
      (link.send data).1 = .error (.poolExhausted queueDepth) ∧
      (link.result (.operate (.send data))).Failed ∧
      link.use (.operate (.send data)) = link := by
  intro address request uses data
  obtain ⟨unchanged, sends⟩ := failed_unchanged_send_exact address 4 uses
  have connected : ((DataLink.offering address 4).useAll uses).session.status = .connected := by
    decide +kernel
  have short : data.length ≤ ((DataLink.offering address 4).useAll uses).dataLimit := by
    decide +kernel
  have free : ¬((DataLink.offering address 4).useAll uses).Held := by
    unfold Held
    decide +kernel
  have full : ((DataLink.offering address 4).useAll uses).pending = queueDepth := by
    decide +kernel
  have exhausted := ((sends data).1.full connected short free).mpr full
  have failed : (((DataLink.offering address 4).useAll uses).result
      (.operate (.send data))).Failed :=
    ⟨_, .inr (congrArg LinkResult.sent exhausted)⟩
  exact ⟨connected, free, full, exhausted, failed, unchanged _ failed⟩

end DataLink

end NearField.Llcp
