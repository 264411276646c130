import NearField.Llcp.DataLink

/-!
The logical link to one remote endpoint: its data link connections by address, the services bound
on this side by access point, and PDUs that belong to no connection. PDUs without a connection go
out first, then the frames of each connection in the order of addresses.
-/

namespace NearField.Llcp

structure LogicalLink where
  links : Table LinkAddress DataLink
  services : Table Sap Octets
  /-- PDUs that belong to no connection, oldest first. -/
  control : List Octets
  window : UInt8

namespace LogicalLink

/-- The name of the default server at access point 4, `urn:nfc:sn:snep`. -/
def snepName : Octets :=
  ['u', 'r', 'n', ':', 'n', 'f', 'c', ':', 's', 'n', ':', 's', 'n', 'e', 'p'].map
    fun c => c.toNat.toUInt8

def symmetry : Octets := [0x00, 0x00]

def new : LogicalLink where
  links := ∅
  services := Table.insert ∅ Sap.snep snepName
  control := []
  window := defaultWindow

def offering (link : LogicalLink) (window : UInt8) : LogicalLink :=
  { link with window := window &&& 0x0f }

/-- Binds a service name to an access point. Link management and discovery are reserved. -/
def bind (link : LogicalLink) (sap : Sap) (name : Octets) : Except Error LogicalLink :=
  if sap = .linkManagement ∨ sap = .discovery then .error (.invalidSap sap.value)
  else .ok { link with services := link.services.insert sap name }

def unbind (link : LogicalLink) (sap : Sap) : Bool × LogicalLink :=
  (link.services.contains sap, { link with services := link.services.erase sap })

def lookup (link : LogicalLink) (name : Octets) : Option Sap :=
  (link.services.first? (· == name)).map (·.1)

def isBound (link : LogicalLink) (sap : Sap) : Bool := link.services.contains sap

def linkAt (link : LogicalLink) (address : LinkAddress) : DataLink :=
  (link.links.get? address).getD (.offering address link.window)

def store (link : LogicalLink) (address : LinkAddress) (dataLink : DataLink) : LogicalLink :=
  { link with links := link.links.insert address dataLink }

/-- Asks the peer for a connection. The connection is kept even when it cannot be asked for now. -/
def connect (link : LogicalLink) (address : LinkAddress) : Except Error Unit × LogicalLink :=
  let (result, dataLink) := (link.linkAt address).connect
  (result, link.store address dataLink)

def send (link : LogicalLink) (address : LinkAddress) (data : Octets) :
    Except Error Bool × LogicalLink :=
  match link.links.get? address with
  | none => (.error (.linkNotConnected address.localSap.value address.remoteSap.value), link)
  | some dataLink =>
    let (result, dataLink) := dataLink.send data
    (result, link.store address dataLink)

/-- Drops every connection and every waiting PDU; bound services stay. -/
def reset (link : LogicalLink) : LogicalLink := { link with links := ∅, control := [] }

def queueControl (link : LogicalLink) (pdu : Pdu) : Except Error Unit × LogicalLink :=
  match pdu.encode with
  | .error e => (.error e, link)
  | .ok bytes => (.ok (), { link with control := link.control ++ [bytes] })

def queueDisconnected (link : LogicalLink) (pdu : Pdu) (reason : DisconnectReason) :
    Except Error Unit × LogicalLink :=
  link.queueControl { dsap := pdu.ssap, type := .dm, ssap := pdu.dsap, info := [reason.code] }

/-- The answer to one question for a service name, zero when the name is not bound. -/
def answer? (link : LogicalLink) : Param → Option Param
  | .sdreq tid uri => some (.sdres tid (((link.lookup uri).map Sap.value).getD 0))
  | _ => none

/-- Answers the questions in a service name lookup, in their order and in one PDU. -/
def receiveLookup (link : LogicalLink) (pdu : Pdu) : Except Error Unit × LogicalLink :=
  match Param.parseAll pdu.info with
  | .error e => (.error e, link)
  | .ok params =>
    match params.filterMap link.answer? with
    | [] => (.ok (), link)
    | answers =>
      match Param.encodeAll answers with
      | .error e => (.error e, link)
      | .ok info =>
        link.queueControl { dsap := pdu.ssap, type := .snl, ssap := .discovery, info }

/-- The service name in a list of parameters; the first one counts. -/
def serviceName? (params : List Param) : Option Octets :=
  params.findSome? fun
    | .sn name => some name
    | _ => none

/-- The access point a connection is asked for at: by name when it is addressed to discovery, else
the one addressed, if a service is bound there. -/
def connectTarget (link : LogicalLink) (pdu : Pdu) : Except Error (Option Sap) :=
  if pdu.dsap = .discovery then
    (Param.parseAll pdu.info).map fun params => (serviceName? params).bind link.lookup
  else if link.isBound pdu.dsap then .ok (some pdu.dsap)
  else .ok none

/-- A request for a connection: granted when a service answers there. -/
def receiveConnect (link : LogicalLink) (pdu : Pdu) : Except Error Unit × LogicalLink :=
  match link.connectTarget pdu with
  | .error e => (.error e, link)
  | .ok none => link.queueDisconnected pdu .noService
  | .ok (some sap) =>
    let address : LinkAddress := ⟨sap, pdu.ssap⟩
    match (link.linkAt address).receive pdu with
    | (.error e, dataLink) => (.error e, link.store address dataLink)
    | (.ok (), dataLink) =>
      if dataLink.session.status = .connecting ∧ !dataLink.session.initiator then
        let (result, dataLink) := dataLink.accept
        (result, link.store address dataLink)
      else (.ok (), link.store address dataLink)

/-- A PDU for a connection. A numbered frame that was taken in is acknowledged at once. -/
def receiveOnLink (link : LogicalLink) (pdu : Pdu) : Except Error Unit × LogicalLink :=
  let address : LinkAddress := ⟨pdu.dsap, pdu.ssap⟩
  match link.links.get? address with
  | none =>
    if pdu.type = .dm then (.ok (), link) else link.queueDisconnected pdu .notConnected
  | some before =>
    match before.receive pdu with
    | (.error e, dataLink) => (.error e, link.store address dataLink)
    | (.ok (), dataLink) =>
      if pdu.type = .i ∧ dataLink.session.vr ≠ before.session.vr then
        let (result, dataLink) := dataLink.acknowledge
        (result, link.store address dataLink)
      else (.ok (), link.store address dataLink)

def receivePdu (link : LogicalLink) (pdu : Pdu) : Except Error Unit × LogicalLink :=
  match pdu.type with
  | .symm | .ui | .pax | .agf => (.ok (), link)
  | .snl => link.receiveLookup pdu
  | .connect => link.receiveConnect pdu
  | _ => link.receiveOnLink pdu

def receive (link : LogicalLink) (bytes : Octets) : Except Error Unit × LogicalLink :=
  match Pdu.decode bytes with
  | .error e => (.error e, link)
  | .ok pdu => link.receivePdu pdu

def firstPending (link : LogicalLink) : Option (LinkAddress × DataLink) :=
  link.links.first? fun dataLink => dataLink.pending ≠ 0

def hasOutbound (link : LogicalLink) : Bool :=
  !link.control.isEmpty || link.firstPending.isSome

def peek (link : LogicalLink) : Option Octets :=
  match link.control with
  | bytes :: _ => some bytes
  | [] => link.firstPending.bind fun entry => entry.2.peek

def next (link : LogicalLink) : Option Octets × LogicalLink :=
  match link.control with
  | bytes :: rest => (some bytes, { link with control := rest })
  | [] =>
    match link.firstPending with
    | none => (none, link)
    | some (address, dataLink) =>
      let (bytes, dataLink) := dataLink.next
      (bytes, link.store address dataLink)

def outboundCount (link : LogicalLink) : Nat :=
  link.links.values.foldl (fun count dataLink => count + dataLink.pending) link.control.length

def nextPdus (link : LogicalLink) : Nat → List Octets × LogicalLink
  | 0 => ([], link)
  | count + 1 =>
    match link.next with
    | (none, link) => ([], link)
    | (some bytes, link) =>
      let (rest, link) := link.nextPdus count
      (bytes :: rest, link)

def drain (link : LogicalLink) : List Octets × LogicalLink := link.nextPdus link.outboundCount

/-- Takes out the next PDU to send; there is always one. -/
def poll (link : LogicalLink) : Octets × LogicalLink :=
  let (bytes, link) := link.next
  (bytes.getD symmetry, link)

/-- Hands the next PDU to `send` and takes it out only once that worked. -/
def transmit {β : Type} (link : LogicalLink) (send : Octets → Except Error β) :
    Except Error β × LogicalLink :=
  match send (link.peek.getD symmetry) with
  | .error e => (.error e, link)
  | .ok sent => (.ok sent, link.next.2)

end LogicalLink

end NearField.Llcp
