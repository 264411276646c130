import NearField.Device.Delivery
import NearField.Nci.Command
import NearField.Nci.Response

/-!
How the device carries out packets of the controller interface. A command is answered by one
response, data by one notification; some leave a delivery behind.
-/

namespace NearField.Device

open Nci

structure NciAnswer where
  response : Octets
  delivery : Option Delivery
deriving DecidableEq, Repr

/-- Answers with a packet and leaves a delivery behind; there is no answer if the packet cannot be
encoded. -/
def replyLeaving (packet : Packet) (delivery : Option Delivery) : Option NciAnswer :=
  packet.encode.toOption.map fun response => { response, delivery }

def reply (packet : Packet) : Option NciAnswer := replyLeaving packet none

def replyStatus (opcode : Opcode) (status : Status) : Option NciAnswer :=
  reply (Response.status opcode status.code)

def supportedInterfaces : List Rf.Interface := [.frame, .nfcDep]

def maxConnections : UInt8 := 1

def coreReset (device : Device) (resetType : UInt8) : Option NciAnswer × Device :=
  let clear := resetType = 0x01
  (reply (Response.coreReset Status.ok.code clear), device.reset clear)

def coreInit (device : Device) : Option NciAnswer × Device :=
  (reply (Response.coreInit Status.ok.code supportedInterfaces maxConnections),
    { device with state := .initialized })

/-- Stores parameters in order: the configuration afterwards and the identifiers not taken. -/
def storeParams (configuration : Configuration) :
    List (UInt8 × Octets) → List UInt8 × Configuration
  | [] => ([], configuration)
  | (id, value) :: rest =>
    match configuration.setParam id value with
    | .ok stored => storeParams stored rest
    | .error _ =>
      let (invalid, final) := storeParams configuration rest
      (id :: invalid, final)

def coreSetConfig (device : Device) (params : List (UInt8 × Octets)) :
    Option NciAnswer × Device :=
  let (invalid, configuration) := storeParams device.configuration params
  let status : Status := if invalid.isEmpty then .ok else .invalidParam
  (reply (Response.coreSetConfig status.code invalid), { device with configuration })

/-- Answers with parameters, or with the identifiers that are not known if there are any. An answer
too long for a packet is rejected as a whole. -/
def coreGetConfig (device : Device) (ids : List UInt8) : Option NciAnswer :=
  let known := ids.filterMap fun id => (device.configuration.param id).map (id, ·)
  let unknown := ids.filter fun id => (device.configuration.param id).isNone
  let (status, entries) : Status × List (UInt8 × Octets) :=
    if unknown.isEmpty then (.ok, known) else (.invalidParam, unknown.map (·, []))
  if maxPayload < 2 + (Response.entries entries).length then
    replyStatus .coreGetConfig .rejected
  else reply (Response.coreGetConfig status.code entries)

/-- Applies mappings in order, unless one names an interface that is not offered. -/
def rfDiscoverMap (device : Device) (mappings : List DiscoverMapping) :
    Option NciAnswer × Device :=
  if mappings.all fun mapping => supportedInterfaces.contains mapping.interface then
    (replyStatus .rfDiscoverMap .ok, { device with rf := mappings.foldl Rf.Table.remap device.rf })
  else (replyStatus .rfDiscoverMap .rejected, device)

/-- The first endpoint that answers one of the technologies asked for, earlier technologies first,
and has a slot for its protocol. -/
def discovered (device : Device) (configs : List DiscoverConfig) : Option Activation :=
  configs.findSome? fun config =>
    device.endpoints.zipIdx.findSome? fun (endpoint, index) =>
      if endpoint.techMode = config.techMode then
        (device.rf.find endpoint.protocol endpoint.techMode).map fun slot => ⟨index, slot⟩
      else none

def rfDiscover (device : Device) (configs : List DiscoverConfig) :
    Option NciAnswer × Device :=
  if device.rfState ≠ .idle then (replyStatus .rfDiscover .semanticError, device)
  else
    match device.discovered configs with
    | none => (replyStatus .rfDiscover .ok, { device with rfState := .discovery })
    | some activation =>
      let device := ({ device with rfState := .discovery }.activate activation).countActivation
      (replyLeaving (Response.status .rfDiscover Status.ok.code)
          (some ⟨.notification, .activated activation device.lastId⟩),
        device)

def rfDeactivate (device : Device) (deactivation : UInt8) : Option NciAnswer × Device :=
  if device.rfState = .idle then (replyStatus .rfDeactivate .semanticError, device)
  else
    let delivery :=
      if device.active.isSome then some ⟨.notification, .deactivated deactivation 0x00⟩ else none
    (replyLeaving (Response.status .rfDeactivate Status.ok.code) delivery,
      { device.deactivate with rfState := if deactivation = 0x03 then .discovery else .idle })

/-- Carries out a command in the present state. Before initialisation only resetting and
initialising are allowed. -/
def execute (device : Device) (command : Command) : Option NciAnswer × Device :=
  match command with
  | .coreReset resetType => device.coreReset resetType
  | .coreInit =>
    if device.state = .reset then device.coreInit
    else (replyStatus .coreInit .semanticError, device)
  | command =>
    if device.state ≠ .initialized then (replyStatus command.opcode .notInitialized, device)
    else
      match command with
      | .coreSetConfig params => device.coreSetConfig params
      | .coreGetConfig ids => (device.coreGetConfig ids, device)
      | .rfDiscoverMap mappings => device.rfDiscoverMap mappings
      | .rfDiscover configs => device.rfDiscover configs
      | .rfDeactivate deactivation => device.rfDeactivate deactivation
      | command => (replyStatus command.opcode .rejected, device)

/-- Data from the host: a PDU for the active endpoint's logical link, whose answer is delivered
later. Without such a link, or on another connection, the data is refused. -/
def processData (device : Device) (connection : UInt8) (payload : Octets) :
    Option NciAnswer × Device :=
  match device.peerLink with
  | none =>
    (reply (Notification.interfaceError Status.semanticError.code connection), device)
  | some link =>
    if connection ≠ staticConnection then
      (reply (Notification.interfaceError Status.semanticError.code connection), device)
    else
      (replyLeaving (Notification.credits staticConnection connectionCredits)
          (some ⟨.data, .linkData⟩),
        device.storeActiveLink (link.receive payload).2)

/-- Carries out the packet at the start of some octets. What is neither a command nor data, or
cannot be read, has no answer and no effect. -/
def processNci (device : Device) (bytes : Octets) : Option NciAnswer × Device :=
  match Packet.decode bytes with
  | .error _ => (none, device)
  | .ok (.data _ connection payload) => device.processData connection payload
  | .ok (.control .command _ group code payload) =>
    match Command.decode ⟨group, code⟩ payload with
    | .error _ => (replyStatus ⟨group, code⟩ .syntaxError, device)
    | .ok command => device.execute command
  | .ok (.control ..) => (none, device)

end NearField.Device
