import NearField.Nci.Packet
import NearField.Rf.Code

/-!
Commands of the controller interface, read from the payload of a command packet. A payload that is
cut short, or names a radio code that does not exist, is refused; octets after it are ignored.
-/

namespace NearField.Nci

structure DiscoverMapping where
  protocol : Rf.Protocol
  mode : UInt8
  interface : Rf.Interface
deriving DecidableEq, Repr

structure DiscoverConfig where
  techMode : Rf.TechMode
  frequency : UInt8
deriving DecidableEq, Repr

inductive Command where
  | coreReset (resetType : UInt8)
  | coreInit
  | coreSetConfig (params : List (UInt8 × Octets))
  | coreGetConfig (ids : List UInt8)
  | rfDiscoverMap (mappings : List DiscoverMapping)
  | rfDiscover (configs : List DiscoverConfig)
  | rfDeactivate (deactivation : UInt8)
  | unsupported (opcode : Opcode)
deriving DecidableEq, Repr

def DiscoverMapping.ofOctets (entry : Octets) : Except Error DiscoverMapping := do
  let protocol ← Rf.Protocol.ofCode (← entry.byteAt 0)
  let mode ← entry.byteAt 1
  let interface ← Rf.Interface.ofCode (← entry.byteAt 2)
  return { protocol, mode, interface }

def DiscoverConfig.ofOctets (entry : Octets) : Except Error DiscoverConfig := do
  let techMode ← Rf.TechMode.ofCode (← entry.byteAt 0)
  let frequency ← entry.byteAt 1
  return { techMode, frequency }

namespace Command

def decode (opcode : Opcode) (payload : Octets) : Except Error Command := do
  if opcode = .coreReset then return .coreReset (← payload.byteAt 0)
  else if opcode = .coreInit then return .coreInit
  else if opcode = .coreSetConfig then
    let count ← payload.byteAt 0
    return .coreSetConfig (← payload.taggedEntries 1 count.toNat)
  else if opcode = .coreGetConfig then
    let entries ← payload.countedEntries 1
    return .coreGetConfig (← entries.mapM fun entry => entry.byteAt 0)
  else if opcode = .rfDiscoverMap then
    let entries ← payload.countedEntries 3
    return .rfDiscoverMap (← entries.mapM DiscoverMapping.ofOctets)
  else if opcode = .rfDiscover then
    let entries ← payload.countedEntries 2
    return .rfDiscover (← entries.mapM DiscoverConfig.ofOctets)
  else if opcode = .rfDeactivate then return .rfDeactivate (← payload.byteAt 0)
  else return .unsupported opcode

def opcode : Command → Opcode
  | coreReset _ => .coreReset
  | coreInit => .coreInit
  | coreSetConfig _ => .coreSetConfig
  | coreGetConfig _ => .coreGetConfig
  | rfDiscoverMap _ => .rfDiscoverMap
  | rfDiscover _ => .rfDiscover
  | rfDeactivate _ => .rfDeactivate
  | unsupported opcode => opcode

end Command

end NearField.Nci
