/-!
The types of link layer PDUs and the states of a data link connection.
-/

namespace NearField.Llcp

inductive PduType where
  | symm
  | pax
  | agf
  | ui
  | connect
  | disc
  | cc
  | dm
  | frmr
  | snl
  | i
  | rr
  | rnr
deriving DecidableEq, Repr

namespace PduType

def all : List PduType :=
  [symm, pax, agf, ui, connect, disc, cc, dm, frmr, snl, i, rr, rnr]

def code : PduType → UInt8
  | symm => 0x0
  | pax => 0x1
  | agf => 0x2
  | ui => 0x3
  | connect => 0x4
  | disc => 0x5
  | cc => 0x6
  | dm => 0x7
  | frmr => 0x8
  | snl => 0x9
  | i => 0xc
  | rr => 0xd
  | rnr => 0xe

/-- The type with a code; 0xa, 0xb and 0xf are not assigned. -/
def ofCode? (octet : UInt8) : Option PduType := all.find? (·.code == octet)

def isSequenced : PduType → Bool
  | i | rr | rnr => true
  | _ => false

def name : PduType → String
  | symm => "Symm"
  | pax => "Pax"
  | agf => "Agf"
  | ui => "Ui"
  | connect => "Connect"
  | disc => "Disc"
  | cc => "Cc"
  | dm => "Dm"
  | frmr => "Frmr"
  | snl => "Snl"
  | i => "I"
  | rr => "Rr"
  | rnr => "Rnr"

def ofName? (text : String) : Option PduType := all.find? (·.name == text)

theorem ofCode?_code (t : PduType) : ofCode? t.code = some t := by cases t <;> rfl

theorem code_ofCode? {octet : UInt8} {t : PduType} (h : ofCode? octet = some t) :
    t.code = octet := by
  simpa using List.find?_some h

theorem code_lt (t : PduType) : t.code < 16 := by cases t <;> decide

end PduType

inductive LinkStatus where
  | disconnected | connecting | connected | disconnecting
deriving DecidableEq, Repr

def LinkStatus.name : LinkStatus → String
  | disconnected => "Disconnected"
  | connecting => "Connecting"
  | connected => "Connected"
  | disconnecting => "Disconnecting"

end NearField.Llcp
