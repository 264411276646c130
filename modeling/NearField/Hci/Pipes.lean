import NearField.Hci.Message
import NearField.Table

/-!
Pipes of the host controller interface and the parameters stored on them. The two static pipes, for
link management and administration, are always open; closing them still drops their parameters.
-/

namespace NearField.Hci

structure ParamKey where
  pipe : UInt8
  index : UInt8
deriving DecidableEq, Repr

instance : TableKey ParamKey where
  rank key := key.pipe.toNat * 256 + key.index.toNat
  rank_inj := by
    intro a b h
    have ha := a.index.toNat_lt
    have hb := b.index.toNat_lt
    have first : a.pipe.toNat = b.pipe.toNat := by omega
    have second : a.index.toNat = b.index.toNat := by omega
    cases a
    cases b
    simp only [ParamKey.mk.injEq]
    exact ⟨UInt8.toNat_inj.mp first, UInt8.toNat_inj.mp second⟩

inductive ResponseCode where
  | ok | parameterUnknown | registerUnknown | pipeNotOpened | notSupported | inhibited
deriving DecidableEq, Repr

def ResponseCode.code : ResponseCode → UInt8
  | ok => 0x00
  | parameterUnknown => 0x02
  | registerUnknown => 0x05
  | pipeNotOpened => 0x06
  | notSupported => 0x07
  | inhibited => 0x08

inductive Instruction where
  | setParameter | getParameter | openPipe | closePipe | other
deriving DecidableEq, Repr

def Instruction.ofCode : UInt8 → Instruction
  | 0x01 => setParameter
  | 0x02 => getParameter
  | 0x03 => openPipe
  | 0x04 => closePipe
  | _ => other

structure Pipes where
  opened : BitVec 128
  params : Table ParamKey Octets

namespace Pipes

def initial : Pipes := ⟨0, ∅⟩

def bit (pipe : UInt8) : BitVec 128 := BitVec.twoPow 128 (pipe &&& 0x7f).toNat

def isOpen (pipes : Pipes) (pipe : UInt8) : Bool :=
  pipe ≤ 1 || pipes.opened &&& bit pipe != 0

def param (pipes : Pipes) (pipe index : UInt8) : Option Octets := pipes.params.get? ⟨pipe, index⟩

def openPipe (pipes : Pipes) (pipe : UInt8) : Pipes :=
  { pipes with opened := pipes.opened ||| bit pipe }

def closePipe (pipes : Pipes) (pipe : UInt8) : Pipes where
  opened := pipes.opened &&& ~~~bit pipe
  params := pipes.params.filterKeys fun key => key.pipe ≠ pipe

def execute (pipes : Pipes) (command : Message) : ResponseCode × Octets × Pipes :=
  let pipe := command.pipe
  match Instruction.ofCode command.instruction with
  | .openPipe => (.ok, [], pipes.openPipe pipe)
  | .closePipe =>
    if pipes.isOpen pipe then (.ok, [], pipes.closePipe pipe) else (.pipeNotOpened, [], pipes)
  | .setParameter =>
    if !pipes.isOpen pipe then (.pipeNotOpened, [], pipes)
    else
      match command.data with
      | index :: value => (.ok, [], { pipes with params := pipes.params.insert ⟨pipe, index⟩ value })
      | [] => (.parameterUnknown, [], pipes)
  | .getParameter =>
    if !pipes.isOpen pipe then (.pipeNotOpened, [], pipes)
    else
      match command.data.head?.bind (pipes.param pipe) with
      | some value => (.ok, value, pipes)
      | none => (.registerUnknown, [], pipes)
  | .other => (.notSupported, [], pipes)

end Pipes

end NearField.Hci
