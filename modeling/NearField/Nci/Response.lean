import NearField.Nci.Packet
import NearField.Rf.Code

/-!
Responses of the device to commands, each as the packet it sends.
-/

namespace NearField.Nci.Response

def status (opcode : Opcode) (status : UInt8) : Packet := .response opcode [status]

def version : UInt8 := 0x10

def coreReset (status : UInt8) (configReset : Bool) : Packet :=
  .response .coreReset [status, version, if configReset then 1 else 0]

/-- The answer to an initialisation: four octets of optional features, none of them offered, the
interfaces and connections that are, no routing table, the payload limit, and no manufacturer. -/
def coreInit (status : UInt8) (interfaces : List Rf.Interface) (maxConnections : UInt8) : Packet :=
  .response .coreInit <|
    [status, 0x00, 0x00, 0x00, 0x00, interfaces.length.toUInt8] ++ interfaces.map Rf.Interface.code
      ++ [maxConnections, 0x00, 0x00, 0xff, 0x00, 0x00, 0x00, 0x00, 0x00, 0x00, 0x00]

def coreSetConfig (status : UInt8) (invalid : List UInt8) : Packet :=
  .response .coreSetConfig (status :: invalid.length.toUInt8 :: invalid)

def entries (params : List (UInt8 × Octets)) : Octets :=
  params.flatMap fun param => param.1 :: param.2.length.toUInt8 :: param.2

def coreGetConfig (status : UInt8) (params : List (UInt8 × Octets)) : Packet :=
  .response .coreGetConfig (status :: params.length.toUInt8 :: entries params)

end NearField.Nci.Response
