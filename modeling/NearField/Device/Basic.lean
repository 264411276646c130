import NearField.Device.Configuration
import NearField.Hci.Pipes
import NearField.Llcp.LogicalLink
import NearField.Rf.Table

/-!
The device behind the registers: where its session stands, the radio interfaces, the endpoints in
the field, the configuration and the open pipes.
-/

namespace NearField

open Llcp (LogicalLink)

inductive DeviceState where
  | idle | reset | initialized
deriving DecidableEq, Repr

def DeviceState.name : DeviceState → String
  | idle => "Idle"
  | reset => "Reset"
  | initialized => "Initialized"

inductive RfState where
  | idle | discovery | pollActive | listenActive
deriving DecidableEq, Repr

def RfState.name : RfState → String
  | idle => "Idle"
  | discovery => "Discovery"
  | pollActive => "PollActive"
  | listenActive => "ListenActive"

structure Endpoint where
  protocol : Rf.Protocol
  techMode : Rf.TechMode
  identifier : Block 10
  link : LogicalLink

namespace Endpoint

def new (protocol : Rf.Protocol) (techMode : Rf.TechMode) (identifier : Block 10) : Endpoint :=
  ⟨protocol, techMode, identifier, .new⟩

def peer (identifier : Block 10) : Endpoint := new .nfcDep .passivePollA identifier

def reset (endpoint : Endpoint) : Endpoint := { endpoint with link := endpoint.link.reset }

end Endpoint

/-- The endpoint that is active and the slot of the interface that serves it. -/
structure Activation where
  endpoint : Nat
  slot : Fin Rf.slotCount
deriving DecidableEq, Repr

structure Device where
  state : DeviceState := .idle
  rfState : RfState := .idle
  rf : Rf.Table := .default
  endpoints : List Endpoint := []
  /-- Endpoint and slot are one value and not an option each: `activate` sets both, `deactivate`
  clears both, and nothing else writes either. -/
  active : Option Activation := none
  lastId : UInt8 := 0
  configuration : Device.Configuration := .blank
  pipes : Hci.Pipes := .initial

namespace Device

def addEndpoint (device : Device) (endpoint : Endpoint) : Device :=
  { device with endpoints := device.endpoints ++ [endpoint] }

def ofEndpoints (endpoints : List Endpoint) : Device := { endpoints }

/-- The device with another number for the last activation; after 255 comes zero. -/
def countActivation (device : Device) : Device := { device with lastId := device.lastId + 1 }

def activeEndpoint (device : Device) : Option Endpoint :=
  device.active.bind fun activation => device.endpoints[activation.endpoint]?

def activeLink (device : Device) : Except Error LogicalLink :=
  match device.activeEndpoint with
  | some endpoint => .ok endpoint.link
  | none => .error .noActiveEndpoint

def storeLink (device : Device) (index : Nat) (link : LogicalLink) : Device :=
  { device with endpoints := device.endpoints.modify index fun endpoint => { endpoint with link } }

def storeActiveLink (device : Device) (link : LogicalLink) : Device :=
  match device.active with
  | some activation => device.storeLink activation.endpoint link
  | none => device

/-- The logical link of the active endpoint, if the peer-to-peer interface serves it. -/
def peerLink (device : Device) : Option LogicalLink :=
  match device.active with
  | none => none
  | some activation =>
    if (device.rf.get activation.slot).interface = .nfcDep then device.activeLink.toOption
    else none

def activate (device : Device) (activation : Activation) : Device :=
  match device.endpoints[activation.endpoint]? with
  | none => { device with active := some activation }
  | some endpoint =>
    { device with
      endpoints := device.endpoints.modify activation.endpoint Endpoint.reset
      rfState := if endpoint.techMode.isListen then .listenActive else .pollActive
      active := some activation }

def deactivate (device : Device) : Device :=
  match device.active with
  | none => device
  | some activation =>
    { device with
      endpoints := device.endpoints.modify activation.endpoint Endpoint.reset
      active := none }

/-- The device after a reset, with its configuration cleared or not. Endpoints stay in the field,
and so does the number of the last activation. -/
def reset (device : Device) (clearConfiguration : Bool) : Device :=
  { device.deactivate with
    endpoints := device.deactivate.endpoints.map Endpoint.reset
    state := .reset
    rfState := .idle
    rf := .default
    pipes := .initial
    configuration := if clearConfiguration then .blank else device.configuration }

end Device

end NearField
