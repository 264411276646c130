import NearField.Llcp.TransmitQueue
import Mathlib.Tactic.Common

/-!
Packet buffers that are handed out again. Main statement: a buffer that is handed out counts no
octets, but it is blank only if it is new or nothing was left behind what it counted when it came
back; and just then no writer can show an octet that neither is its own nor zero.
-/

namespace NearField.Llcp

namespace PacketBuffer

variable {buffer : PacketBuffer}

/-- Who writes to the buffer shows only own octets and zeros: an octet that counts afterwards and
is as the writer found it is zero. -/
def Discreet (buffer : PacketBuffer) : Prop :=
  ∀ write count after, buffer.fill write = (.ok count, after) → ∀ (i : Nat) (octet : UInt8),
    after.contents[i]? = some octet → buffer.memory.octets[i]? = some octet → octet = 0

theorem octets_release (fits : buffer.length ≤ bufferRoom) :
    buffer.release.memory.octets =
      Octets.zeros buffer.length ++ buffer.memory.octets.drop buffer.length := by
  have size := buffer.memory.length_octets
  have inside : (Octets.zeros buffer.length).length ≤ buffer.memory.octets.length := by
    rw [Octets.length_zeros]
    omega
  rw [release, Block.clearFirst, Block.overlay]
  simp only
  rw [Octets.overlay_zero inside, Octets.length_zeros]

theorem release_blank_iff (fits : buffer.length ≤ bufferRoom) :
    buffer.release.memory.octets = Octets.zeros bufferRoom ↔ buffer.Tidy := by
  constructor
  · intro blank
    have whole : bufferRoom = buffer.length + (bufferRoom - buffer.length) := by omega
    have split : Octets.zeros bufferRoom =
        Octets.zeros buffer.length ++ Octets.zeros (bufferRoom - buffer.length) := by
      simp only [Octets.zeros, List.replicate_append_replicate]
      rw [← whole]
    rw [octets_release fits, split] at blank
    have rest := List.append_cancel_left blank
    refine ⟨fits, ?_⟩
    rw [contents, ← rest, List.take_append_drop]
  · intro tidy
    rw [release_of_tidy tidy]
    rfl

theorem discreet_iff (buffer : PacketBuffer) :
    buffer.Discreet ↔ buffer.memory.octets = Octets.zeros bufferRoom := by
  have size := buffer.memory.length_octets
  constructor
  · intro discreet
    -- the writer that writes nothing and counts everything
    have nothing : buffer.fill (fun _ => (.ok bufferRoom, [])) =
        (.ok bufferRoom, ⟨buffer.memory.overlay 0 [], bufferRoom⟩) := rfl
    have shown : (⟨buffer.memory.overlay 0 [], bufferRoom⟩ : PacketBuffer).contents =
        buffer.memory.octets := by
      simp [contents, Block.overlay, Octets.overlay, ← size]
    refine List.eq_replicate_iff.mpr ⟨size, fun octet inside => ?_⟩
    obtain ⟨i, found⟩ := List.mem_iff_getElem?.mp inside
    exact discreet _ _ _ nothing i octet (shown ▸ found) found
  · intro blank write count after _ i octet _ found
    rw [blank, Octets.zeros] at found
    exact List.eq_of_mem_replicate (List.mem_of_getElem? found)

theorem length_fill_le (fits : buffer.length ≤ bufferRoom)
    (write : Octets → Except Error Nat × Octets) :
    (buffer.fill write).2.length ≤ bufferRoom := by
  unfold fill
  cases write buffer.memory.octets with
  | mk outcome written =>
    cases outcome with
    | error e => exact fits
    | ok count =>
      simp only
      split
      · exact fits
      · rename_i short
        exact Nat.not_lt.mp short

/-- A writer covers a buffer if it gives up and leaves everything as it was, or writes just the
octets that it counts, and no fewer than counted before. -/
def CoveredBy (buffer : PacketBuffer) (write : Octets → Except Error Nat × Octets) : Prop :=
  match write buffer.memory.octets with
  | (.error _, written) => buffer.memory.overlay 0 written = buffer.memory
  | (.ok count, written) =>
    written.length = count ∧ buffer.length ≤ count ∧ count ≤ bufferRoom

theorem drop_of_tidy (tidy : buffer.Tidy) {count : Nat} (beyond : buffer.length ≤ count) :
    buffer.memory.octets.drop count = Octets.zeros (bufferRoom - count) := by
  have counted := length_contents tidy
  rw [tidy.2, List.drop_append, counted, List.drop_of_length_le (by omega), List.nil_append,
    Octets.zeros, Octets.zeros, List.drop_replicate]
  congr 1
  omega

theorem fill_tidy {write : Octets → Except Error Nat × Octets} (tidy : buffer.Tidy)
    (covered : buffer.CoveredBy write) : (buffer.fill write).2.Tidy := by
  have size := buffer.memory.length_octets
  unfold CoveredBy at covered
  unfold fill
  cases wrote : write buffer.memory.octets with
  | mk outcome written =>
    rw [wrote] at covered
    cases outcome with
    | error e =>
      simp only at covered ⊢
      rw [covered]
      exact tidy
    | ok count =>
      obtain ⟨exact_count, longer, fits⟩ := covered
      simp only [if_neg (Nat.not_lt.mpr fits)]
      have laid : (buffer.memory.overlay 0 written).octets =
          written ++ Octets.zeros (bufferRoom - count) := by
        rw [Block.overlay]
        simp only
        rw [Octets.overlay_zero (by omega), exact_count, drop_of_tidy tidy longer]
      refine ⟨fits, ?_⟩
      simp only [contents]
      rw [laid, ← exact_count, List.take_left]

end PacketBuffer

/-! ### A pool in use -/

/-- What is done with a pool. Its buffers are numbered in the order in which they are handed
out. -/
inductive PoolUse where
  | alloc
  | fill (number : Nat) (write : Octets → Except Error Nat × Octets)
  | free (number : Nat)

/-- A pool, the buffers it has handed out, each until it comes back, and those that came back and
wait to be handed out again, each as it came and the last one first. -/
structure Lending where
  pool : PacketPool
  lent : List (Option PacketBuffer)
  returned : List PacketBuffer

namespace Lending

def ofCapacity (capacity : Nat) : Lending := ⟨.ofCapacity capacity, [], []⟩

def holds (lending : Lending) (number : Nat) : Option PacketBuffer := lending.lent[number]?.join

def inUse (lending : Lending) : Nat := lending.lent.countP Option.isSome

def use (lending : Lending) : PoolUse → Lending
  | .alloc =>
    match lending.pool.alloc with
    | .error _ => lending
    | .ok (buffer, pool) =>
      { pool, lent := lending.lent ++ [some buffer], returned := lending.returned.tail }
  | .fill number write =>
    match lending.holds number with
    | none => lending
    | some buffer =>
      { lending with lent := lending.lent.set number (some (buffer.fill write).2) }
  | .free number =>
    match lending.holds number with
    | none => lending
    | some buffer =>
      { pool := lending.pool.free buffer
        lent := lending.lent.set number none
        returned := buffer :: lending.returned }

def useAll (lending : Lending) (uses : List PoolUse) : Lending := uses.foldl use lending

def Covered (lending : Lending) : List PoolUse → Prop
  | [] => True
  | use :: uses =>
    (∀ number write buffer, use = .fill number write → lending.holds number = some buffer →
      buffer.CoveredBy write) ∧ (lending.use use).Covered uses

/-- What holds of all buffers that are handed out, and held of all that wait when they came back. -/
structure Buffers (P : PacketBuffer → Prop) (lending : Lending) : Prop where
  lent : ∀ buffer, some buffer ∈ lending.lent → P buffer
  returned : ∀ buffer ∈ lending.returned, P buffer

/-- The pool counts the buffers that are handed out and keeps those that came back. -/
structure Sound (capacity : Nat) (lending : Lending) : Prop where
  capacity_eq : lending.pool.capacity = capacity
  outstanding_eq : lending.pool.outstanding = lending.inUse
  spare_eq : lending.pool.spare = lending.returned.map PacketBuffer.release
  fits : lending.Buffers (·.length ≤ bufferRoom)

variable {capacity : Nat} {lending : Lending}

theorem ofCapacity_buffers (P : PacketBuffer → Prop) (capacity : Nat) :
    (ofCapacity capacity).Buffers P := ⟨by simp [ofCapacity], by simp [ofCapacity]⟩

theorem ofCapacity_sound (capacity : Nat) : (ofCapacity capacity).Sound capacity :=
  ⟨rfl, rfl, rfl, ofCapacity_buffers _ capacity⟩

theorem mem_of_holds {number : Nat} {buffer : PacketBuffer}
    (held : lending.holds number = some buffer) :
    ∃ inside : number < lending.lent.length, lending.lent[number] = some buffer := by
  rw [holds, Option.join_eq_some_iff] at held
  exact List.getElem?_eq_some_iff.mp held

theorem lent_of_holds {number : Nat} {buffer : PacketBuffer}
    (held : lending.holds number = some buffer) : some buffer ∈ lending.lent := by
  obtain ⟨inside, same⟩ := mem_of_holds held
  exact same ▸ List.getElem_mem inside

def next (lending : Lending) : PacketBuffer :=
  (lending.returned.head?.map PacketBuffer.release).getD .blank

theorem alloc_eq (sound : lending.Sound capacity) :
    lending.pool.alloc =
      if capacity ≤ lending.inUse then .error (.poolExhausted capacity)
      else .ok (lending.next,
        ⟨lending.returned.tail.map PacketBuffer.release, capacity, lending.inUse + 1⟩) := by
  rw [PacketPool.alloc, sound.capacity_eq, sound.outstanding_eq, sound.spare_eq, next]
  split
  · rfl
  · cases lending.returned <;> rfl

theorem length_next (lending : Lending) : lending.next.length = 0 := by
  rw [next]
  cases lending.returned <;> rfl

theorem next_blank_iff (sound : lending.Sound capacity) :
    lending.next.memory.octets = Octets.zeros bufferRoom ↔
      ∀ last ∈ lending.returned.head?, last.Tidy := by
  have fits := sound.fits.returned
  rw [next]
  cases waiting : lending.returned with
  | nil => simp [PacketBuffer.blank, Block.zero]
  | cons last earlier =>
    rw [waiting] at fits
    simpa using PacketBuffer.release_blank_iff (fits last List.mem_cons_self)

theorem next_of_tidy (tidy : ∀ last ∈ lending.returned, last.Tidy) : lending.next = .blank := by
  rw [next]
  cases waiting : lending.returned with
  | nil => rfl
  | cons last earlier =>
    rw [waiting] at tidy
    exact PacketBuffer.release_of_tidy (tidy last List.mem_cons_self)

theorem use_alloc (sound : lending.Sound capacity) :
    lending.use .alloc =
      if capacity ≤ lending.inUse then lending
      else
        { pool := ⟨lending.returned.tail.map PacketBuffer.release, capacity, lending.inUse + 1⟩
          lent := lending.lent ++ [some lending.next]
          returned := lending.returned.tail } := by
  rw [use, alloc_eq sound]
  by_cases full : capacity ≤ lending.inUse
  · simp only [if_pos full]
  · simp only [if_neg full]

theorem inUse_set {number : Nat} {buffer : PacketBuffer} (after : Option PacketBuffer)
    (held : lending.holds number = some buffer) :
    (lending.lent.set number after).countP Option.isSome =
      lending.inUse - 1 + (if after.isSome then 1 else 0) := by
  obtain ⟨inside, same⟩ := mem_of_holds held
  rw [List.countP_set inside, same]
  rfl

theorem inUse_pos {number : Nat} {buffer : PacketBuffer}
    (held : lending.holds number = some buffer) : 0 < lending.inUse :=
  List.countP_pos_iff.mpr ⟨_, lent_of_holds held, rfl⟩

/-- What holds of a buffer that is handed out next and after each writing holds of all buffers. -/
theorem use_buffers {P : PacketBuffer → Prop} {use : PoolUse} (sound : lending.Sound capacity)
    (buffers : lending.Buffers P) (new : P lending.next)
    (filled : ∀ number write buffer, use = .fill number write →
      lending.holds number = some buffer → P (buffer.fill write).2) :
    (lending.use use).Buffers P := by
  cases use with
  | alloc =>
    rw [use_alloc sound]
    split
    · exact buffers
    · refine ⟨fun buffer inside => ?_,
        fun buffer inside => buffers.returned buffer (List.mem_of_mem_tail inside)⟩
      rcases List.mem_append.mp inside with earlier | last
      · exact buffers.lent buffer earlier
      · obtain rfl : buffer = lending.next := by simpa using last
        exact new
  | fill number write =>
    rw [Lending.use]
    split
    · exact buffers
    · rename_i buffer held
      refine ⟨fun other inside => ?_, buffers.returned⟩
      rcases List.mem_or_eq_of_mem_set inside with earlier | changed
      · exact buffers.lent other earlier
      · obtain rfl := Option.some.inj changed
        exact filled number write buffer rfl held
  | free number =>
    rw [Lending.use]
    split
    · exact buffers
    · rename_i buffer held
      refine ⟨fun other inside => ?_, fun other inside => ?_⟩
      · rcases List.mem_or_eq_of_mem_set inside with earlier | changed
        · exact buffers.lent other earlier
        · cases changed
      · rcases List.mem_cons.mp inside with rfl | earlier
        · exact buffers.lent _ (lent_of_holds held)
        · exact buffers.returned other earlier

theorem use_sound (sound : lending.Sound capacity) (use : PoolUse) :
    (lending.use use).Sound capacity := by
  have fits : (lending.use use).Buffers (·.length ≤ bufferRoom) := by
    refine use_buffers sound sound.fits ?_ fun number write buffer _ held => ?_
    · rw [length_next]
      exact Nat.zero_le _
    · exact PacketBuffer.length_fill_le (sound.fits.lent buffer (lent_of_holds held)) write
  cases use with
  | alloc =>
    rw [use_alloc sound] at fits ⊢
    split
    · exact sound
    · rename_i room
      rw [if_neg room] at fits
      exact ⟨rfl, by simp [inUse], rfl, fits⟩
  | fill number write =>
    rw [Lending.use] at fits ⊢
    split
    · exact sound
    · rename_i buffer held
      simp only [held] at fits
      refine { sound with outstanding_eq := ?_, fits }
      have positive := inUse_pos held
      rw [inUse, inUse_set _ held, sound.outstanding_eq]
      simp only [Option.isSome_some, if_true]
      omega
  | free number =>
    rw [Lending.use] at fits ⊢
    split
    · exact sound
    · rename_i buffer held
      simp only [held] at fits
      refine ⟨sound.capacity_eq, ?_, ?_, fits⟩
      · rw [inUse, inUse_set _ held]
        exact congrArg (· - 1) sound.outstanding_eq
      · rw [List.map_cons, ← sound.spare_eq]
        rfl

theorem use_tidy {use : PoolUse} (sound : lending.Sound capacity)
    (tidy : lending.Buffers PacketBuffer.Tidy)
    (covered : ∀ number write buffer, use = .fill number write →
      lending.holds number = some buffer → buffer.CoveredBy write) :
    (lending.use use).Buffers PacketBuffer.Tidy := by
  refine use_buffers sound tidy ?_ fun number write buffer fills held => ?_
  -- what came back tidy is blank when it is handed out, and so tidy again
  · rw [next_of_tidy tidy.returned]
    exact ⟨Nat.zero_le _, rfl⟩
  · have before := tidy.lent buffer (lent_of_holds held)
    exact PacketBuffer.fill_tidy before (covered number write buffer fills held)

/-! ### Any number of uses -/

theorem useAll_sound (sound : lending.Sound capacity) (uses : List PoolUse) :
    (lending.useAll uses).Sound capacity := by
  induction uses generalizing lending with
  | nil => exact sound
  | cons use uses ih => exact ih (use_sound sound use)

theorem useAll_tidy (sound : lending.Sound capacity) (tidy : lending.Buffers PacketBuffer.Tidy)
    {uses : List PoolUse} (covered : lending.Covered uses) :
    (lending.useAll uses).Buffers PacketBuffer.Tidy := by
  induction uses generalizing lending with
  | nil => exact tidy
  | cons use uses ih =>
    obtain ⟨first, others⟩ := covered
    exact ih (use_sound sound use) (use_tidy sound tidy first) others

/-- Whatever a pool was used for, it hands out a buffer if fewer are in use than it may hand out.
The buffer counts nothing. Its 256 octets are zero if and only if it is new or nothing was left
behind what it counted when it came back, and just then a writer shows only own octets and zeros.
So it is where every writer covers the buffer that it is given. -/
theorem handed_out_blank_iff (capacity : Nat) (uses : List PoolUse) :
    let lending := (Lending.ofCapacity capacity).useAll uses
    ((∃ buffer pool, lending.pool.alloc = .ok (buffer, pool)) ↔ lending.inUse < capacity) ∧
    (∀ buffer pool, lending.pool.alloc = .ok (buffer, pool) →
      buffer.length = 0 ∧
      (buffer.memory.octets = Octets.zeros 256 ↔ ∀ last ∈ lending.returned.head?, last.Tidy) ∧
      (buffer.Discreet ↔ ∀ last ∈ lending.returned.head?, last.Tidy)) ∧
    ((Lending.ofCapacity capacity).Covered uses →
      ∀ buffer pool, lending.pool.alloc = .ok (buffer, pool) →
        buffer.memory.octets = Octets.zeros 256) := by
  intro lending
  have sound : lending.Sound capacity := useAll_sound (ofCapacity_sound capacity) uses
  have allocates := alloc_eq sound
  have handed {buffer pool} (alloc : lending.pool.alloc = .ok (buffer, pool)) :
      buffer = lending.next := by
    rw [allocates] at alloc
    split at alloc
    · cases alloc
    · exact (congrArg Prod.fst (Except.ok.inj alloc)).symm
  refine ⟨⟨?_, fun room => ?_⟩, ?_, ?_⟩
  · rintro ⟨buffer, pool, alloc⟩
    rw [allocates] at alloc
    split at alloc
    · cases alloc
    · rename_i room
      exact Nat.not_le.mp room
  · rw [allocates, if_neg (Nat.not_le.mpr room)]
    exact ⟨_, _, rfl⟩
  · intro buffer pool alloc
    obtain rfl := handed alloc
    have blank := next_blank_iff sound
    exact ⟨lending.length_next, blank, (PacketBuffer.discreet_iff _).trans blank⟩
  · intro covered buffer pool alloc
    obtain rfl := handed alloc
    have tidy : lending.Buffers PacketBuffer.Tidy :=
      useAll_tidy (ofCapacity_sound capacity) (ofCapacity_buffers _ capacity) covered
    rw [next_of_tidy tidy.returned]
    rfl

/-- A buffer came back as it was written, and after it one that a writer gave up on: the second one
is handed out first, with what was left in it, and then the first one, blank. Without the second
one every writer covers its buffer. -/
theorem handed_out_blank_last_first :
    let full : Octets → Except Error Nat × Octets := fun _ => (.ok 2, [1, 2])
    let failed : Octets → Except Error Nat × Octets :=
      fun _ => (.error (.invalidLength 2 1), [5])
    let uses : List PoolUse := [.alloc, .alloc, .fill 0 full, .fill 1 failed, .free 0, .free 1]
    let before := (Lending.ofCapacity 2).useAll uses
    let after := (Lending.ofCapacity 2).useAll (uses ++ [.alloc])
    (∃ buffer pool, before.pool.alloc = .ok (buffer, pool) ∧ buffer.length = 0 ∧
      ¬buffer.Discreet) ∧
    (∃ buffer pool, after.pool.alloc = .ok (buffer, pool) ∧ buffer.length = 0 ∧
      buffer.Discreet) ∧
    ((Lending.ofCapacity 1).Covered [.alloc, .fill 0 full, .free 0] ∧
      ∃ buffer pool,
        ((Lending.ofCapacity 1).useAll [.alloc, .fill 0 full, .free 0]).pool.alloc =
          .ok (buffer, pool) ∧ buffer.memory.octets = Octets.zeros 256) := by
  intro full failed uses before after
  obtain ⟨lends, hands, -⟩ := handed_out_blank_iff 2 uses
  obtain ⟨lends_later, hands_later, -⟩ := handed_out_blank_iff 2 (uses ++ [.alloc])
  obtain ⟨lends_one, -, blank⟩ := handed_out_blank_iff 1 [.alloc, .fill 0 full, .free 0]
  refine ⟨?_, ?_, ?_⟩
  · obtain ⟨buffer, pool, alloc⟩ := lends.mpr (by decide +kernel)
    obtain ⟨empty, -, discreet⟩ := hands buffer pool alloc
    refine ⟨buffer, pool, alloc, empty, fun own => ?_⟩
    have tidy := discreet.mp own _ rfl
    unfold PacketBuffer.Tidy at tidy
    exact absurd tidy (by decide +kernel)
  · obtain ⟨buffer, pool, alloc⟩ := lends_later.mpr (by decide +kernel)
    obtain ⟨empty, -, discreet⟩ := hands_later buffer pool alloc
    refine ⟨buffer, pool, alloc, empty, discreet.mpr fun last came => ?_⟩
    obtain rfl := Option.some.inj came
    unfold PacketBuffer.Tidy
    decide +kernel
  · have covered : (Lending.ofCapacity 1).Covered [.alloc, .fill 0 full, .free 0] := by
      refine ⟨by simp, ?_, by simp, trivial⟩
      rintro _ _ buffer ⟨⟩ held
      obtain rfl := Option.some.inj held
      exact ⟨rfl, Nat.zero_le _, by decide⟩
    obtain ⟨buffer, pool, alloc⟩ := lends_one.mpr (by decide +kernel)
    exact ⟨covered, buffer, pool, alloc, blank covered buffer pool alloc⟩

/-- Three octets that are written over with a single one come back, and two of them are handed out:
who then counts three octets and writes none shows them. -/
theorem handed_out_leaks :
    let long : Octets → Except Error Nat × Octets := fun _ => (.ok 3, [1, 2, 3])
    let short : Octets → Except Error Nat × Octets := fun _ => (.ok 1, [4])
    let none_written : Octets → Except Error Nat × Octets := fun _ => (.ok 3, [])
    let lending := (Lending.ofCapacity 1).useAll [.alloc, .fill 0 long, .fill 0 short, .free 0]
    ∃ buffer pool, lending.pool.alloc = .ok (buffer, pool) ∧
      buffer.memory.octets ≠ Octets.zeros 256 ∧
      (buffer.fill none_written).1 = .ok 3 ∧
      (buffer.fill none_written).2.contents = [0, 2, 3] := by
  intro long short none_written lending
  refine ⟨lending.next, ⟨[], 1, 1⟩, by rfl, ?_, by rfl, ?_⟩ <;> decide +kernel

end Lending

end NearField.Llcp
