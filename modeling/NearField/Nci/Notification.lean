import NearField.Nci.Packet
import NearField.Rf.Code

/-!
Notifications of the device, each as the packet it sends.
-/

namespace NearField.Nci.Notification

def credits (connection count : UInt8) : Packet :=
  .notification .coreConnCredits [1, connection, count]

def genericError (status : UInt8) : Packet := .notification .coreGenericError [status]

def interfaceError (status connection : UInt8) : Packet :=
  .notification .coreInterfaceError [status, connection]

def deactivated (deactivation reason : UInt8) : Packet :=
  .notification .rfDeactivate [deactivation, reason]

structure Activation where
  discoveryId : UInt8
  interface : Rf.Interface
  protocol : Rf.Protocol
  techMode : Rf.TechMode
  maxPayload : UInt8
  credits : UInt8
  techParams : Octets
  exchangeMode : Rf.TechMode
  txRate : UInt8
  rxRate : UInt8
  activationParams : Octets
deriving DecidableEq, Repr

def activated (a : Activation) : Packet :=
  .notification .rfInterfaceActivated <|
    [a.discoveryId, a.interface.code, a.protocol.code, a.techMode.code, a.maxPayload, a.credits,
      a.techParams.length.toUInt8] ++ a.techParams ++
    [a.exchangeMode.code, a.txRate, a.rxRate, a.activationParams.length.toUInt8] ++
    a.activationParams

/-- The activation parameters of a peer-to-peer endpoint: the length of an attribute response, then
the response from its identifier on, with fixed rates, a timeout of 14 and general octets. -/
def peerParams (identifier general : Octets) : Octets :=
  let response := identifier ++ [0x00, 0x00, 0x00, 0x0e, 0x32] ++ general
  response.length.toUInt8 :: response

end NearField.Nci.Notification
