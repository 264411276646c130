import NearField.Llcp.PacketPool

/-!
The transmit queue of a connection: frames wait in buffers of a pool of thirty-two, oldest first.
Main statements: whatever the buffers went through, the queue acts like a plain list of frames, and
only a full queue refuses a frame.
-/

namespace NearField.Llcp

def queueDepth : Nat := 32

def PacketBuffer.Tidy (buffer : PacketBuffer) : Prop :=
  buffer.length ≤ bufferRoom ∧
    buffer.memory.octets = buffer.contents ++ Octets.zeros (bufferRoom - buffer.length)

theorem PacketBuffer.length_contents {buffer : PacketBuffer} (tidy : buffer.Tidy) :
    buffer.contents.length = buffer.length := by
  simp [contents, buffer.memory.length_octets, tidy.1]

theorem PacketBuffer.release_of_tidy {buffer : PacketBuffer} (tidy : buffer.Tidy) :
    buffer.release = .blank := by
  have len := length_contents tidy
  have whole := buffer.memory.length_octets
  simp only [release, blank, Block.clearFirst, Block.overlay, Block.zero, mk.injEq, Block.mk.injEq,
    and_true]
  rw [Octets.overlay_zero (by simpa [whole] using tidy.1), tidy.2, Octets.length_zeros,
    List.drop_append_of_le_length (by omega), List.drop_of_length_le (by omega), List.nil_append,
    Octets.zeros, Octets.zeros, Octets.zeros, List.replicate_append_replicate]
  congr 1
  have := tidy.1
  omega

/-- Frames that wait to be sent, and the pool their buffers come from. -/
structure TransmitQueue where
  buffers : List PacketBuffer
  pool : PacketPool
  capacity_eq : pool.capacity = queueDepth
  outstanding_eq : pool.outstanding = buffers.length
  spare_blank : ∀ buffer ∈ pool.spare, buffer = .blank
  tidy : ∀ buffer ∈ buffers, buffer.Tidy
deriving DecidableEq

namespace TransmitQueue

def empty : TransmitQueue where
  buffers := []
  pool := .ofCapacity queueDepth
  capacity_eq := rfl
  outstanding_eq := rfl
  spare_blank := by simp [PacketPool.ofCapacity]
  tidy := by simp

def toList (queue : TransmitQueue) : List Octets := queue.buffers.map PacketBuffer.contents

def size (queue : TransmitQueue) : Nat := queue.buffers.length

def framed (frame : Octets) : PacketBuffer :=
  ⟨PacketBuffer.blank.memory.overlay 0 frame, frame.length⟩

theorem contents_framed {frame : Octets} (fits : frame.length ≤ bufferRoom) :
    (framed frame).contents = frame := by
  simp only [framed, PacketBuffer.contents, PacketBuffer.blank, Block.overlay, Block.zero]
  rw [Octets.overlay_zero (by simpa using fits), List.take_left']
  rfl

theorem framed_tidy {frame : Octets} (fits : frame.length ≤ bufferRoom) :
    (framed frame).Tidy := by
  refine ⟨fits, ?_⟩
  rw [contents_framed fits]
  simp only [framed, PacketBuffer.blank, Block.overlay, Block.zero]
  rw [Octets.overlay_zero (by simpa using fits)]
  simp [Octets.zeros, List.drop_replicate]

theorem fill_blank_place (encoding : Except Error Octets) :
    PacketBuffer.blank.fill (fun memory => Octets.place memory encoding) =
      match Octets.within bufferRoom encoding with
      | .error e => (.error e, .blank)
      | .ok frame => (.ok frame.length, framed frame) := by
  have room : PacketBuffer.blank.memory.octets.length = bufferRoom :=
    PacketBuffer.blank.memory.length_octets
  simp only [PacketBuffer.fill, Octets.place, room]
  cases h : Octets.within bufferRoom encoding with
  | error e =>
    simp only [Prod.mk.injEq, true_and]
    exact congrArg (PacketBuffer.mk · 0) (Block.ext (Block.octets_overlay_all _ room))
  | ok frame =>
    have fits := (Octets.within_ok h).2
    simp only [Nat.not_lt.mpr fits, if_false, framed, Prod.mk.injEq, PacketBuffer.mk.injEq,
      true_and, and_true]
    exact Block.ext (Block.octets_overlay_all _ (by simpa using room))

/-- Appends a frame. A full queue is reported before a frame that cannot be encoded. Either way the
queue stays as it was: the buffer taken for a frame that cannot be encoded would go back as blank as
it came (`failed_blank`). -/
def push (queue : TransmitQueue) (encoding : Except Error Octets) : Except Error TransmitQueue :=
  match alloc : queue.pool.alloc with
  | .error e => .error e
  | .ok (buffer, pool) =>
    match fill : buffer.fill (fun memory => Octets.place memory encoding) with
    | (.error e, _) => .error e
    | (.ok _, filled) =>
      have taken := PacketPool.alloc_ok alloc
      have blank : buffer = .blank := taken.1.elim id (queue.spare_blank _)
      .ok {
        buffers := queue.buffers ++ [filled]
        pool
        capacity_eq := taken.2.2.1.trans queue.capacity_eq
        outstanding_eq := by simp [taken.2.2.2, queue.outstanding_eq]
        spare_blank := fun b hb => queue.spare_blank b (taken.2.1 b hb)
        tidy := by
          intro b hb
          rcases List.mem_append.mp hb with hb | hb
          · exact queue.tidy b hb
          · rw [List.mem_singleton.mp hb]
            subst blank
            rw [fill_blank_place] at fill
            split at fill
            · cases fill
            · rename_i frame fits
              cases fill
              exact framed_tidy (Octets.within_ok fits).2 }

def peek (queue : TransmitQueue) : Option Octets := queue.buffers.head?.map PacketBuffer.contents

def pop (queue : TransmitQueue) : Option (Octets × TransmitQueue) :=
  match eq : queue.buffers with
  | [] => none
  | buffer :: rest =>
    some (buffer.contents, {
      buffers := rest
      pool := queue.pool.free buffer
      capacity_eq := queue.capacity_eq
      outstanding_eq := by simp [PacketPool.free, queue.outstanding_eq, eq]
      spare_blank := by
        intro b hb
        rcases List.mem_cons.mp hb with rfl | hb
        · exact PacketBuffer.release_of_tidy (queue.tidy _ (eq ▸ List.mem_cons_self))
        · exact queue.spare_blank b hb
      tidy := fun b hb => queue.tidy b (eq ▸ List.mem_cons_of_mem _ hb) })

def clear (queue : TransmitQueue) : TransmitQueue :=
  go queue.buffers.length queue
where
  go : Nat → TransmitQueue → TransmitQueue
    | 0, queue => queue
    | count + 1, queue =>
      match queue.pop with
      | none => queue
      | some (_, rest) => go count rest

theorem size_eq (queue : TransmitQueue) : queue.size = queue.toList.length := by
  simp [size, toList]

theorem peek_eq (queue : TransmitQueue) : queue.peek = queue.toList.head? := by
  simp [peek, toList]

theorem pop_eq (queue : TransmitQueue) :
    queue.pop.map (fun p => (p.1, p.2.toList)) =
      match queue.toList with
      | [] => none
      | frame :: rest => some (frame, rest) := by
  rw [pop]
  split
  · rename_i eq
    simp [toList, eq]
  · rename_i buffer rest eq
    simp [toList, eq]

theorem alloc_eq (queue : TransmitQueue) :
    queue.pool.alloc =
      if queueDepth ≤ queue.size then .error (.poolExhausted queueDepth)
      else .ok (.blank, { queue.pool with
        spare := queue.pool.spare.tail, outstanding := queue.size + 1 }) := by
  rw [PacketPool.alloc, queue.capacity_eq, queue.outstanding_eq]
  change (if queueDepth ≤ queue.size then _ else _) = _
  split
  · rfl
  · cases eq : queue.pool.spare with
    | nil => simp [size, queue.capacity_eq]
    | cons buffer spare =>
      have blank := queue.spare_blank buffer (eq ▸ List.mem_cons_self)
      simp [size, blank, queue.capacity_eq]

/-- A buffer whose frame cannot be encoded goes back as blank as it came. -/
theorem failed_blank (queue : TransmitQueue) {encoding : Except Error Octets}
    {e : Error} (room : queue.size < queueDepth) (failed : encoding = .error e) :
    ∃ pool, queue.pool.alloc = .ok (.blank, pool) ∧
      PacketBuffer.blank.fill (fun memory => Octets.place memory encoding) = (.error e, .blank) ∧
      (pool.free .blank).outstanding = queue.pool.outstanding ∧
      ∀ buffer ∈ (pool.free .blank).spare, buffer = .blank := by
  have allocated := queue.alloc_eq
  rw [if_neg (Nat.not_le.mpr room)] at allocated
  refine ⟨_, allocated, ?_, ?_, ?_⟩
  · rw [fill_blank_place, failed]
    rfl
  · rw [queue.outstanding_eq]
    exact Nat.add_sub_cancel _ _
  · intro buffer inside
    rcases List.mem_cons.mp inside with rfl | spare
    · have tidy : PacketBuffer.blank.Tidy := ⟨Nat.zero_le _, rfl⟩
      exact PacketBuffer.release_of_tidy tidy
    · exact queue.spare_blank buffer (List.mem_of_mem_tail spare)

/-- What appending does to the list of frames: a full queue refuses, a frame that cannot be encoded
or is too long is refused next, and else the frame comes last. -/
theorem push_eq (queue : TransmitQueue) (encoding : Except Error Octets) :
    (queue.push encoding).map toList =
      if queueDepth ≤ queue.size then .error (.poolExhausted queueDepth)
      else (Octets.within bufferRoom encoding).map fun frame => queue.toList ++ [frame] := by
  have allocated := queue.alloc_eq
  rw [push]
  split
  · rename_i e alloc
    rw [alloc] at allocated
    split at allocated
    · rename_i full
      cases allocated
      simp [full, Except.map]
    · cases allocated
  · rename_i buffer pool alloc
    rw [alloc] at allocated
    split at allocated
    · cases allocated
    · rename_i free
      cases allocated
      rw [if_neg free]
      have filled := fill_blank_place encoding
      split
      · rename_i e written fill
        rw [fill] at filled
        split at filled
        · rename_i within
          cases filled
          simp [within, Except.map]
        · cases filled
      · rename_i count written fill
        rw [fill] at filled
        split at filled
        · cases filled
        · rename_i frame within
          cases filled
          simp [within, Except.map, toList, contents_framed (Octets.within_ok within).2]

end TransmitQueue

end NearField.Llcp
