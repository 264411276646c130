import NearField.Error

/-!
Numbers of the controller interface: message types, groups and opcodes, and status values.
-/

namespace NearField.Nci

inductive MessageType where
  | data | command | response | notification
deriving DecidableEq, Repr

def MessageType.code : MessageType → UInt8
  | data => 0
  | command => 1
  | response => 2
  | notification => 3

def MessageType.name : MessageType → String
  | data => "Data"
  | command => "Command"
  | response => "Response"
  | notification => "Notification"

def MessageType.ofCode (octet : UInt8) : Except Error MessageType :=
  match octet with
  | 0 => .ok .data
  | 1 => .ok .command
  | 2 => .ok .response
  | 3 => .ok .notification
  | _ => .error (.frameFormat (.reservedMessageType octet))

structure Opcode where
  group : UInt8
  code : UInt8
deriving DecidableEq, Repr

namespace Opcode

def coreReset : Opcode := ⟨0x00, 0x00⟩
def coreInit : Opcode := ⟨0x00, 0x01⟩
def coreSetConfig : Opcode := ⟨0x00, 0x02⟩
def coreGetConfig : Opcode := ⟨0x00, 0x03⟩
def coreConnCredits : Opcode := ⟨0x00, 0x06⟩
def coreGenericError : Opcode := ⟨0x00, 0x07⟩
def coreInterfaceError : Opcode := ⟨0x00, 0x08⟩
def rfDiscoverMap : Opcode := ⟨0x01, 0x00⟩
def rfDiscover : Opcode := ⟨0x01, 0x03⟩
def rfInterfaceActivated : Opcode := ⟨0x01, 0x05⟩
def rfDeactivate : Opcode := ⟨0x01, 0x06⟩

end Opcode

inductive Status where
  | ok | rejected | notInitialized | syntaxError | semanticError | invalidParam
deriving DecidableEq, Repr

def Status.code : Status → UInt8
  | ok => 0x00
  | rejected => 0x01
  | notInitialized => 0x04
  | syntaxError => 0x05
  | semanticError => 0x06
  | invalidParam => 0x09

def staticConnection : UInt8 := 0x00

def maxPayload : Nat := 255

def packetHeaderLength : Nat := 3

end NearField.Nci
