import NearField.Device.Basic
import NearField.Nci.Notification

/-!
Deliveries: packets for the notification or data buffer that a command leaves behind, produced once
the host has taken the response. Main rule: a delivery that fails takes nothing from the queues of
the active endpoint.
-/

namespace NearField

inductive ExchangeBuffer where
  | notification | data
deriving DecidableEq, Repr

inductive DeliveryContent where
  | activated (activation : Activation) (discoveryId : UInt8)
  | deactivated (deactivation reason : UInt8)
  | linkData
deriving DecidableEq, Repr

structure Delivery where
  buffer : ExchangeBuffer
  content : DeliveryContent
deriving DecidableEq, Repr

namespace Device

def connectionCredits : UInt8 := 1

def activatedNotification (device : Device) (activation : Activation) (discoveryId : UInt8) :
    Except Error Nci.Packet :=
  match device.endpoints[activation.endpoint]? with
  | none => .error .noActiveEndpoint
  | some endpoint =>
    let interface := (device.rf.get activation.slot).interface
    .ok <| Nci.Notification.activated {
      discoveryId
      interface
      protocol := endpoint.protocol
      techMode := endpoint.techMode
      maxPayload := Nci.maxPayload.toUInt8
      credits := connectionCredits
      techParams := []
      exchangeMode := endpoint.techMode
      txRate := 0
      rxRate := 0
      activationParams :=
        if interface = .nfcDep then
          Nci.Notification.peerParams endpoint.identifier.octets Llcp.Param.activationTail
        else [] }

/-- Produces a delivery in at most `room` octets; no octets when there is nothing to deliver. -/
def deliver (device : Device) (content : DeliveryContent) (room : Nat) :
    Except Error Octets × Device :=
  match content with
  | .activated activation discoveryId =>
    (Octets.within room do (← device.activatedNotification activation discoveryId).encode, device)
  | .deactivated deactivation reason =>
    (Octets.within room (Nci.Notification.deactivated deactivation reason).encode, device)
  | .linkData =>
    match device.peerLink with
    | none => (.ok [], device)
    | some link =>
      let (result, link) := link.transmit fun pdu =>
        Octets.within room (Nci.Packet.ofData Nci.staticConnection pdu).encode
      (result, device.storeActiveLink link)

end Device

end NearField
