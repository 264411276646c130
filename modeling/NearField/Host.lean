import NearField.Controller.Basic

/-!
The host's side of the register window: moving octets, submitting commands and taking packets out
of the buffers, the way a driver does. A step that fails half-way leaves the controller as far as
it came.
-/

namespace NearField.Host

open Nci (Packet Opcode)

/-- A step of the host: it acts on a controller and may fail. -/
abbrev Step := ExceptT Error (StateM Controller)

def Step.on {α : Type} (step : Step α) (controller : Controller) : Except Error α × Controller :=
  (ExceptT.run step).run controller

def write (offset : Nat) (value : UInt8) : Step Unit := do
  let controller ← get
  set (← controller.write offset value)

def read (offset : Nat) : Step UInt8 := do
  let controller ← get
  controller.read offset

def writeOctets (offset : Nat) : Octets → Step Unit
  | [] => pure ()
  | octet :: rest => do
    write offset octet
    writeOctets (offset + 1) rest

def readOctets (offset : Nat) : Nat → Step Octets
  | 0 => pure []
  | count + 1 => do
    let octet ← read offset
    let rest ← readOctets (offset + 1) count
    return octet :: rest

def tell (code : UInt8) : Step Unit := write Register.ctrlOffset code

def submit (bytes : Octets) (code : UInt8) : Step Unit := do
  writeOctets Register.cmndOffset bytes
  tell code

def submitNci (packet : Packet) : Step Unit := do
  submit (← packet.encode) 0x01

def submitHci (message : Hci.Message) : Step Unit := do
  submit (← message.encode) 0x05

def requireLoaded (mailbox : Mailbox) (bit : UInt8) : Step Unit := do
  let controller ← get
  if controller.regs.status &&& bit = 0 then throw (.frameFormat (.nothingLoaded mailbox))

def confirm (received : UInt8) : Step Unit := do
  tell 0x00
  tell received

/-- Takes the response out of its buffer; a delivery that waits fires then. -/
def takeResponse : Step Packet := do
  requireLoaded .response StatusBit.nciResponse
  let packet ← Packet.decode (← readOctets Register.respOffset packetBufferSize)
  confirm 0x02
  return packet

def takeNotification : Step Packet := do
  requireLoaded .notification StatusBit.nciNotification
  let controller ← get
  let packet ← Packet.decode controller.regs.ntfn.octets
  confirm 0x03
  return packet

def takeData : Step Packet := do
  requireLoaded .data StatusBit.nciData
  let controller ← get
  let packet ← Packet.decode controller.regs.data.octets
  confirm 0x04
  return packet

def call (opcode : Opcode) (payload : Octets) : Step Packet := do
  submitNci (.command opcode payload)
  takeResponse

def bringUp : Step Unit := do
  discard (call .coreReset [0x01])
  discard (call .coreInit [])
  let controller ← get
  if controller.device.state ≠ .initialized then throw (.unsupportedOperation .initialization)

def discoverPeer : Step Packet := do
  discard (call .rfDiscover [0x01, Rf.TechMode.passivePollA.code, 0x01])
  takeNotification

def initialized (endpoints : List Endpoint) : Except Error Controller :=
  match bringUp.on (.new (.ofEndpoints endpoints)) with
  | (.ok _, controller) => .ok controller
  | (.error e, _) => .error e

def activated (identifier : Block 10) : Except Error Controller := do
  let controller ← initialized [.peer identifier]
  match discoverPeer.on controller with
  | (.ok _, controller) => .ok controller
  | (.error e, _) => .error e

end NearField.Host
