import NearField.Llcp.Session
import NearField.Llcp.TransmitQueue

/-!
A data link connection with its transmit queue. Each operation gives its result and the link
afterwards, also when it fails; a failure leaves the session and the waiting frames as they were.
-/

namespace NearField.Llcp

structure DataLink where
  address : LinkAddress
  session : Session
  queue : TransmitQueue
deriving DecidableEq

/-- Carries out a transition on a session and a queue, given how frames are queued. -/
def Transition.commit {Q : Type} (push : Q → Except Error Octets → Except Error Q)
    (session : Session) (queue : Q) : Transition → Except Error Unit × Session × Q
  | quiet next => (.ok (), next, queue)
  | sending frame next =>
    match push queue frame with
    | .error e => (.error e, session, queue)
    | .ok pushed => (.ok (), next, pushed)
  | parting frame next =>
    match push queue frame with
    | .error _ => (.ok (), next, queue)
    | .ok pushed => (.ok (), next, pushed)

namespace DataLink

def new (address : LinkAddress) : DataLink := ⟨address, {}, .empty⟩

def offering (address : LinkAddress) (window : UInt8) : DataLink :=
  ⟨address, .offering window, .empty⟩

def pending (link : DataLink) : Nat := link.queue.size

def commit (link : DataLink) (transition : Transition) : Except Error Unit × DataLink :=
  let (result, session, queue) := transition.commit TransmitQueue.push link.session link.queue
  (result, { link with session, queue })

def perform (link : DataLink) (transition : Except Error Transition) :
    Except Error Unit × DataLink :=
  match transition with
  | .error e => (.error e, link)
  | .ok transition => link.commit transition

def connect (link : DataLink) : Except Error Unit × DataLink :=
  link.perform (link.session.connect link.address)

def accept (link : DataLink) : Except Error Unit × DataLink :=
  link.perform (link.session.accept link.address)

def reject (link : DataLink) : Except Error Unit × DataLink :=
  link.perform (link.session.reject link.address)

def disconnect (link : DataLink) : Except Error Unit × DataLink :=
  link.perform (link.session.disconnect link.address)

/-- Queues data as a numbered frame; false while the peer takes none. -/
def send (link : DataLink) (data : Octets) : Except Error Bool × DataLink :=
  match link.session.send link.address data with
  | .error e => (.error e, link)
  | .ok none => (.ok false, link)
  | .ok (some transition) =>
    let (result, link) := link.commit transition
    (result.map fun _ => true, link)

def acknowledge (link : DataLink) : Except Error Unit × DataLink :=
  link.commit (link.session.acknowledge link.address)

def receive (link : DataLink) (pdu : Pdu) : Except Error Unit × DataLink :=
  link.commit (link.session.receive link.address pdu)

def clear (link : DataLink) : DataLink :=
  { link with session := link.session.renew, queue := link.queue.clear }

def peek (link : DataLink) : Option Octets := link.queue.peek

def next (link : DataLink) : Option Octets × DataLink :=
  match link.queue.pop with
  | none => (none, link)
  | some (frame, queue) => (some frame, { link with queue })

def nextFrames (link : DataLink) : Nat → List Octets × DataLink
  | 0 => ([], link)
  | count + 1 =>
    match link.next with
    | (none, link) => ([], link)
    | (some frame, link) =>
      let (rest, link) := link.nextFrames count
      (frame :: rest, link)

def drain (link : DataLink) : List Octets × DataLink := link.nextFrames link.pending

def acknowledgeUpTo (link : DataLink) : Nat → Nat × DataLink
  | 0 => (0, link)
  | count + 1 =>
    match link.acknowledge with
    | (.error _, link) => (0, link)
    | (.ok _, link) =>
      let (more, link) := link.acknowledgeUpTo count
      (more + 1, link)

def writeReceived (link : DataLink) (bytes : Octets) : Nat × DataLink :=
  let (count, received) := link.session.received.write bytes
  (count, { link with session := { link.session with received } })

def consumeReceived (link : DataLink) (count : Nat) : Nat × DataLink :=
  let (taken, received) := link.session.received.consume count
  (taken, { link with session := { link.session with received } })

end DataLink

end NearField.Llcp
