import NearField.Hex
import NearField.Llcp.PduType

/-!
Everything that can go wrong, as causes with the values a message needs. The wording of each cause
is in one function, `Error.message`.
-/

namespace NearField

open Llcp (PduType LinkStatus)

inductive CodeTable where
  | protocol | techMode | interface
deriving DecidableEq, Repr

def CodeTable.name : CodeTable → String
  | protocol => "RfProtocol"
  | techMode => "RfTechMode"
  | interface => "RfInterfaceType"

inductive Mailbox where
  | response | notification | data
deriving DecidableEq, Repr

def Mailbox.name : Mailbox → String
  | response => "nci response"
  | notification => "notification"
  | data => "data"

inductive FrameFault where
  | sequenceOutOfRange (ns nr : UInt8)
  | notReceiveReady (type : PduType)
  | sequenceMissing (type : PduType)
  | sequenceSuperfluous (type : PduType)
  | unknownCode (table : CodeTable) (code : UInt8)
  | reservedMessageType (code : UInt8)
  | messageTooShort (length : Nat)
  | nothingLoaded (mailbox : Mailbox)
  | reported (text : String)
deriving DecidableEq, Repr

def FrameFault.message : FrameFault → String
  | sequenceOutOfRange ns nr =>
    "sequence out of range: ns=" ++ toString ns.toNat ++ ", nr=" ++ toString nr.toNat
  | notReceiveReady type => type.name ++ " is not RR/RNR"
  | sequenceMissing type => type.name ++ " pdu without sequence"
  | sequenceSuperfluous type => type.name ++ " pdu cannot carry a sequence"
  | unknownCode table code => "unknown " ++ table.name ++ " " ++ Hex.number 2 code.toNat
  | reservedMessageType code => "reserved message type " ++ toString code.toNat
  | messageTooShort length => "hcp message too short: " ++ toString length
  | nothingLoaded mailbox => "no " ++ mailbox.name ++ " loaded"
  | reported text => text

inductive Refusal where
  | connect (status : LinkStatus)
  | accept (status : LinkStatus) (initiator : Bool)
  | reject (status : LinkStatus)
  | initialization
deriving DecidableEq, Repr

def Refusal.message : Refusal → String
  | connect status => "connect while " ++ status.name
  | accept status initiator =>
    "accept while " ++ status.name ++ " (initiator=" ++ toString initiator ++ ")"
  | reject status => "reject while " ++ status.name
  | initialization => "device did not initialize"

inductive Error where
  | badOffset (offset : Nat)
  | invalidLength (expected actual : Nat)
  | frameFormat (fault : FrameFault)
  | invalidSap (value : UInt8)
  | unknownPduType (code : UInt8)
  | invalidParameter (kind : UInt8) (length : Nat)
  | configOutOfRange (offset length : Nat)
  | poolExhausted (capacity : Nat)
  | linkNotConnected (localSap remoteSap : UInt8)
  | noActiveEndpoint
  | unknownInstance (id : UInt32)
  | duplicateInstance (id : UInt32)
  | snapshotVersion (expected actual : UInt32)
  | unsupportedOperation (refusal : Refusal)
deriving DecidableEq, Repr

def Error.name : Error → String
  | badOffset .. => "BadOffset"
  | invalidLength .. => "InvalidLength"
  | frameFormat .. => "FrameFormat"
  | invalidSap .. => "InvalidSap"
  | unknownPduType .. => "UnknownPduType"
  | invalidParameter .. => "InvalidParameter"
  | configOutOfRange .. => "ConfigOutOfRange"
  | poolExhausted .. => "PoolExhausted"
  | linkNotConnected .. => "LinkNotConnected"
  | noActiveEndpoint => "NoActiveEndpoint"
  | unknownInstance .. => "UnknownInstance"
  | duplicateInstance .. => "DuplicateInstance"
  | snapshotVersion .. => "SnapshotVersion"
  | unsupportedOperation .. => "UnsupportedOperation"

def Error.message : Error → String
  | badOffset offset => "bad register offset " ++ Hex.number 3 offset
  | invalidLength expected actual =>
    "invalid packet length: expected " ++ toString expected ++ ", got " ++ toString actual
  | frameFormat fault => "frame format error: " ++ fault.message
  | invalidSap value => "invalid service access point " ++ Hex.number 2 value.toNat
  | unknownPduType code => "unknown llcp pdu type " ++ Hex.number 1 code.toNat
  | invalidParameter kind length =>
    "malformed llcp parameter: type=" ++ Hex.number 2 kind.toNat ++ ", len=" ++ toString length
  | configOutOfRange offset length =>
    "configuration access out of range: offset=" ++ toString offset ++ ", len=" ++ toString length
  | poolExhausted capacity => "pdu buffer pool exhausted (capacity " ++ toString capacity ++ ")"
  | linkNotConnected localSap remoteSap =>
    "data link " ++ toString localSap.toNat ++ ":" ++ toString remoteSap.toNat
      ++ " is not connected"
  | noActiveEndpoint => "no active remote endpoint"
  | unknownInstance id => "unknown controller instance " ++ toString id.toNat
  | duplicateInstance id => "controller instance " ++ toString id.toNat ++ " already registered"
  | snapshotVersion expected actual =>
    "snapshot version mismatch: expected " ++ toString expected.toNat ++ ", got "
      ++ toString actual.toNat
  | unsupportedOperation refusal => "unsupported operation: " ++ refusal.message

end NearField
