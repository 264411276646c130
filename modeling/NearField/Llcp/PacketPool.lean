import NearField.Octets.Block
import NearField.Octets.Reader

/-!
A bounded pool of packet buffers. A buffer that comes back is handed out again before a new one is
made, the last one first, and coming back it is blanked only as far as it was filled.
-/

namespace NearField.Llcp

def bufferRoom : Nat := 256

structure PacketBuffer where
  memory : Block bufferRoom
  length : Nat
deriving DecidableEq, Repr

namespace PacketBuffer

def blank : PacketBuffer := ⟨.zero bufferRoom, 0⟩

def contents (buffer : PacketBuffer) : Octets := buffer.memory.octets.take buffer.length

/-- Lets a writer change the memory and say how much of it counts. What it wrote stays, even when
it fails or claims more than there is room for; then the length stays too. -/
def fill (buffer : PacketBuffer) (write : Octets → Except Error Nat × Octets) :
    Except Error Nat × PacketBuffer :=
  let (result, written) := write buffer.memory.octets
  let memory := buffer.memory.overlay 0 written
  match result with
  | .error e => (.error e, { buffer with memory })
  | .ok count =>
    if bufferRoom < count then
      (.error (.invalidLength bufferRoom count), { buffer with memory })
    else (.ok count, ⟨memory, count⟩)

/-- The buffer as it goes back: the octets that counted are blanked. -/
def release (buffer : PacketBuffer) : PacketBuffer := ⟨buffer.memory.clearFirst buffer.length, 0⟩

end PacketBuffer

/-- Buffers that came back, how many may be in use at once and how many are. -/
structure PacketPool where
  spare : List PacketBuffer
  capacity : Nat
  outstanding : Nat
deriving DecidableEq, Repr

namespace PacketPool

def ofCapacity (capacity : Nat) : PacketPool := ⟨[], capacity, 0⟩

/-- Takes a buffer: the one that came back last, or a new one. -/
def alloc (pool : PacketPool) : Except Error (PacketBuffer × PacketPool) :=
  if pool.capacity ≤ pool.outstanding then .error (.poolExhausted pool.capacity)
  else
    match pool.spare with
    | [] => .ok (.blank, { pool with outstanding := pool.outstanding + 1 })
    | buffer :: spare => .ok (buffer, { pool with spare, outstanding := pool.outstanding + 1 })

def free (pool : PacketPool) (buffer : PacketBuffer) : PacketPool :=
  { pool with spare := buffer.release :: pool.spare, outstanding := pool.outstanding - 1 }

theorem alloc_ok {pool rest : PacketPool} {buffer : PacketBuffer}
    (h : pool.alloc = .ok (buffer, rest)) :
    (buffer = .blank ∨ buffer ∈ pool.spare) ∧ (∀ b ∈ rest.spare, b ∈ pool.spare) ∧
      rest.capacity = pool.capacity ∧ rest.outstanding = pool.outstanding + 1 := by
  rw [alloc] at h
  split at h
  · cases h
  · split at h
    · rename_i none_spare
      cases h
      exact ⟨.inl rfl, fun b hb => hb, rfl, rfl⟩
    · rename_i head spare eq
      cases h
      rw [eq]
      exact ⟨.inr List.mem_cons_self, fun b hb => List.mem_cons_of_mem _ hb, rfl, rfl⟩

end PacketPool

end NearField.Llcp
