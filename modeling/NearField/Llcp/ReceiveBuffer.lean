import NearField.Octets.Block

/-!
The receive buffer of a connection: octets go in at the end as far as there is room and come out at
the front. What is not in use is zero.
-/

namespace NearField.Llcp

def receiveRoom : Nat := 256

structure ReceiveBuffer where
  memory : Block receiveRoom
  used : Nat
deriving DecidableEq, Repr

namespace ReceiveBuffer

def empty : ReceiveBuffer := ⟨.zero receiveRoom, 0⟩

def contents (buffer : ReceiveBuffer) : Octets := buffer.memory.octets.take buffer.used

/-- Appends as much of `bytes` as there is room for; gives the number of octets stored. -/
def write (buffer : ReceiveBuffer) (bytes : Octets) : Nat × ReceiveBuffer :=
  let count := min bytes.length (receiveRoom - buffer.used)
  (count, ⟨buffer.memory.overlay buffer.used (bytes.take count), buffer.used + count⟩)

/-- Copies the front into `out`, which keeps what the copy does not reach; nothing is taken out. -/
def read (buffer : ReceiveBuffer) (out : Octets) : Nat × Octets :=
  let count := min out.length buffer.used
  (count, out.overlay 0 (buffer.memory.octets.take count))

/-- Takes up to `count` octets from the front, moves the rest up and blanks what it leaves. -/
def consume (buffer : ReceiveBuffer) (count : Nat) : Nat × ReceiveBuffer :=
  let taken := min count buffer.used
  let rest := buffer.memory.extract taken (buffer.used - taken)
  (taken, ⟨(Block.zero receiveRoom).overlay 0 rest, buffer.used - taken⟩)

end ReceiveBuffer

end NearField.Llcp
