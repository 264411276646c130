import NearField.Hci.Pipes
import NearField.Proofs.Checked.Reader
import NearField.Proofs.Table

/-!
Messages and pipes of the host controller interface with every access, sum and shift checked. Main
statements: reading a message never faults, writing one places its octets, and no pipe number is
too great for the set of open pipes.
-/

namespace NearField.Hci

namespace Message

def checkedDecode (bytes : Octets) : Attempt Message := do
  let counted ← bytes.checkedByteAt 0
  if counted < 2 then throw (.frameFormat (.messageTooShort counted.toNat))
  else
    let content ← bytes.checkedSliceAt 1 counted.toNat
    let first ← content.checkedGet 0
    let second ← content.checkedGet 1
    let data ← content.checkedSlice 2 content.length
    return {
      last := first &&& 0x80 != 0
      pipe := first &&& 0x7f
      type := second >>> 6
      instruction := second &&& 0x3f
      data }

def checkedEncodedLength (message : Message) : Checked Nat := do
  let header ← Size.add 1 2
  Size.add header message.data.length

def checkedEncodeInto (message : Message) (buffer : Octets) :
    Checked (Except Error Nat × Octets) := do
  let counted ← Size.add 2 message.data.length
  if 255 < counted then return (.error (.invalidLength 255 counted), buffer)
  else
    let total ← message.checkedEncodedLength
    buffer.withRoom total do
      let buffer ← buffer.checkedSet 0 counted.toUInt8
      let buffer ← buffer.checkedSet 1 message.pipeOctet
      let buffer ← buffer.checkedSet 2 message.instructionOctet
      let buffer ← buffer.checkedCopy 3 total message.data
      return (.ok total, buffer)

def checkedEncode (message : Message) : Attempt Octets := do
  let room ← message.checkedEncodedLength
  Octets.checkedOwned room message.checkedEncodeInto

theorem checkedDecode_eq (bytes : Octets) : checkedDecode bytes = settled (decode bytes) := by
  rw [checkedDecode, decode, Octets.checkedByteAt_eq _ (by decide), settled_bind]
  congr 1
  funext counted
  have bound : counted.toNat < 256 := counted.toNat_lt
  by_cases few : counted < 2
  · rw [if_pos few, if_pos few]
    rfl
  · rw [if_neg few, if_neg few, Octets.checkedSliceAt_eq _ (by omega)]
    have enough : 2 ≤ counted.toNat := by
      rw [UInt8.lt_iff_toNat_lt] at few
      exact Nat.not_lt.mp few
    cases read : bytes.sliceAt 1 counted.toNat with
    | error e => rfl
    | ok content =>
      have size := (Octets.sliceAt_length read).1
      match content, size with
      | [], size => simp at size; omega
      | [_], size => simp at size; omega
      | first :: second :: data, size =>
        rw [settled_ok, pure_bind, Octets.checkedGet_lt (by simp), Octets.checkedGet_lt (by simp),
          Octets.checkedSlice_le (by simp) (by simp)]
        simp only [lift_pure, pure_bind, List.length_cons, Nat.reduceSubDiff, List.drop_succ_cons,
          List.drop_zero, List.take_length]
        rfl

theorem decode_data_length {bytes : Octets} {message : Message}
    (read : decode bytes = .ok message) : message.data.length < 256 := by
  obtain ⟨counted, _, read⟩ := bind_eq_ok read
  have bound : counted.toNat < 256 := counted.toNat_lt
  simp only at read
  split at read
  · cases read
  · obtain ⟨content, taken, read⟩ := bind_eq_ok read
    obtain ⟨first, _, read⟩ := bind_eq_ok read
    obtain ⟨second, _, read⟩ := bind_eq_ok read
    have size := (Octets.sliceAt_length taken).1
    cases read
    simp only [List.length_drop]
    omega

theorem checkedEncodedLength_eq {message : Message} (short : message.data.length < 2 ^ 63) :
    message.checkedEncodedLength = pure (3 + message.data.length) := by
  rw [checkedEncodedLength, Size.add_small (by decide), pure_bind, Size.add_small (by omega)]

theorem checkedEncodeInto_eq {message : Message} (short : message.data.length < 2 ^ 63)
    (buffer : Octets) :
    message.checkedEncodeInto buffer = pure (buffer.place message.encode) := by
  rw [checkedEncodeInto, Size.add_small (by omega), pure_bind, encode]
  by_cases long : 255 < 2 + message.data.length
  · rw [if_pos long, if_pos long]
    rfl
  · rw [if_neg long, if_neg long, checkedEncodedLength_eq short, pure_bind]
    refine Octets.withRoom_eq (Nat.add_comm _ _) fun inside => ?_
    simp only [List.length_cons] at inside
    rw [Octets.checkedSet_lt (by omega), pure_bind,
      Octets.checkedSet_lt (by rw [List.length_set]; omega), pure_bind,
      Octets.checkedSet_lt (by simp only [List.length_set]; omega), pure_bind,
      Octets.checkedCopy_eq rfl (by simp only [List.length_set]; omega), pure_bind,
      Octets.overlay_cons _ _ (by simp only [List.length_set]; omega),
      Octets.overlay_cons _ _ (by rw [List.length_set]; omega),
      Octets.overlay_cons _ _ (by omega)]

theorem checkedEncode_eq {message : Message} (short : message.data.length < 2 ^ 63) :
    message.checkedEncode = settled message.encode := by
  rw [checkedEncode, checkedEncodedLength_eq short, lift_pure, pure_bind]
  refine Octets.checkedOwned_eq (checkedEncodeInto_eq short _) fun bytes encoded => ?_
  simp only [encode] at encoded
  split at encoded
  · cases encoded
  · cases encoded
    simp only [List.length_cons]
    omega

end Message

namespace Pipes

def checkedBit (pipe : UInt8) : Checked (BitVec 128) :=
  if (pipe &&& 0x7f).toNat < 128 then pure (bit pipe) else throw .number

def checkedIsOpen (pipes : Pipes) (pipe : UInt8) : Checked Bool :=
  if pipe ≤ 1 then pure true
  else do
    let place ← checkedBit pipe
    return pipes.opened &&& place != 0

def checkedOpenPipe (pipes : Pipes) (pipe : UInt8) : Checked Pipes := do
  let place ← checkedBit pipe
  return { pipes with opened := pipes.opened ||| place }

def checkedClosePipe (pipes : Pipes) (pipe : UInt8) : Checked Pipes := do
  let place ← checkedBit pipe
  return {
    opened := pipes.opened &&& ~~~place
    params := pipes.params.filterKeys fun key => key.pipe ≠ pipe }

def checkedExecute (pipes : Pipes) (command : Message) :
    Checked (ResponseCode × Octets × Pipes) := do
  let pipe := command.pipe
  match Instruction.ofCode command.instruction with
  | .openPipe => return (.ok, [], ← pipes.checkedOpenPipe pipe)
  | .closePipe =>
    if ← pipes.checkedIsOpen pipe then return (.ok, [], ← pipes.checkedClosePipe pipe)
    else return (.pipeNotOpened, [], pipes)
  | .setParameter =>
    if !(← pipes.checkedIsOpen pipe) then return (.pipeNotOpened, [], pipes)
    else
      match command.data with
      | index :: value =>
        return (.ok, [], { pipes with params := pipes.params.insert ⟨pipe, index⟩ value })
      | [] => return (.parameterUnknown, [], pipes)
  | .getParameter =>
    if !(← pipes.checkedIsOpen pipe) then return (.pipeNotOpened, [], pipes)
    else
      match command.data.head?.bind (pipes.param pipe) with
      | some value => return (.ok, value, pipes)
      | none => return (.registerUnknown, [], pipes)
  | .other => return (.notSupported, [], pipes)

theorem checkedBit_eq (pipe : UInt8) : checkedBit pipe = pure (bit pipe) := by
  refine if_pos ?_
  rw [UInt8.toNat_and]
  exact Nat.lt_succ_of_le Nat.and_le_right

theorem checkedIsOpen_eq (pipes : Pipes) (pipe : UInt8) :
    pipes.checkedIsOpen pipe = pure (pipes.isOpen pipe) := by
  rw [checkedIsOpen, isOpen, checkedBit_eq, pure_bind]
  by_cases static : pipe ≤ 1
  · rw [if_pos static, decide_eq_true static, Bool.true_or]
  · rw [if_neg static, decide_eq_false static, Bool.false_or]

theorem checkedExecute_eq (pipes : Pipes) (command : Message) :
    pipes.checkedExecute command = pure (pipes.execute command) := by
  unfold checkedExecute execute
  simp only [checkedIsOpen_eq, checkedOpenPipe, checkedClosePipe, checkedBit_eq, pure_bind]
  cases Instruction.ofCode command.instruction with
  | openPipe | other => rfl
  | closePipe => simp only; split <;> rfl
  | setParameter =>
    simp only
    split
    · rfl
    · cases command.data <;> rfl
  | getParameter =>
    simp only
    split
    · rfl
    · cases command.data.head?.bind (pipes.param command.pipe) <;> rfl

/-- Every stored value is shorter than a message can be. -/
def Short (pipes : Pipes) : Prop := ∀ entry ∈ pipes.params.entries, entry.2.length < 256

theorem initial_short : initial.Short := fun _ inside => by cases inside

theorem execute_short {pipes : Pipes} (short : pipes.Short) {command : Message}
    (data : command.data.length < 256) :
    (pipes.execute command).2.1.length < 256 ∧ (pipes.execute command).2.2.Short := by
  have nothing : ([] : Octets).length < 256 := by decide
  unfold execute
  cases Instruction.ofCode command.instruction with
  | openPipe => exact ⟨nothing, short⟩
  | other => exact ⟨nothing, short⟩
  | closePipe =>
    simp only
    split
    · exact ⟨nothing, fun entry inside => short entry (List.mem_filter.mp inside).1⟩
    · exact ⟨nothing, short⟩
  | setParameter =>
    simp only
    split
    · exact ⟨nothing, short⟩
    · split
      · rename_i index value eq
        refine ⟨nothing, fun entry inside => ?_⟩
        rcases Table.mem_insertEntry inside with rfl | before
        · rw [eq, List.length_cons] at data
          simp only
          omega
        · exact short entry before
      · exact ⟨nothing, short⟩
  | getParameter =>
    simp only
    split
    · exact ⟨nothing, short⟩
    · split
      · rename_i value found
        obtain ⟨index, _, stored⟩ := Option.bind_eq_some_iff.mp found
        exact ⟨short _ (Table.lookup_mem stored), short⟩
      · exact ⟨nothing, short⟩

end Pipes

end NearField.Hci
