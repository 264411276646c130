import NearField.Error

/-!
Radio codes of the controller interface: protocols, technologies with their mode, and interfaces.
Each has a one-octet code; a code that names nothing has no reading.
-/

namespace NearField.Rf

inductive Protocol where
  | undetermined | t1t | t2t | t3t | isoDep | nfcDep
deriving DecidableEq, Repr

inductive TechMode where
  | passivePollA | passivePollB | passivePollF | activePollA | activePollF
  | passiveListenA | passiveListenB | passiveListenF | activeListenA | activeListenF
deriving DecidableEq, Repr

inductive Interface where
  | nfceeDirect | frame | isoDep | nfcDep
deriving DecidableEq, Repr

namespace Protocol

def all : List Protocol := [undetermined, t1t, t2t, t3t, isoDep, nfcDep]

def code : Protocol → UInt8
  | undetermined => 0x00
  | t1t => 0x01
  | t2t => 0x02
  | t3t => 0x03
  | isoDep => 0x04
  | nfcDep => 0x05

def ofCode? (octet : UInt8) : Option Protocol := all.find? (·.code == octet)

def ofCode (octet : UInt8) : Except Error Protocol :=
  match ofCode? octet with
  | some protocol => .ok protocol
  | none => .error (.frameFormat (.unknownCode .protocol octet))

def name : Protocol → String
  | undetermined => "Undetermined"
  | t1t => "T1t"
  | t2t => "T2t"
  | t3t => "T3t"
  | isoDep => "IsoDep"
  | nfcDep => "NfcDep"

theorem ofCode?_code (p : Protocol) : ofCode? p.code = some p := by cases p <;> rfl

end Protocol

namespace TechMode

def all : List TechMode :=
  [passivePollA, passivePollB, passivePollF, activePollA, activePollF,
    passiveListenA, passiveListenB, passiveListenF, activeListenA, activeListenF]

def code : TechMode → UInt8
  | passivePollA => 0x00
  | passivePollB => 0x01
  | passivePollF => 0x02
  | activePollA => 0x03
  | activePollF => 0x05
  | passiveListenA => 0x80
  | passiveListenB => 0x81
  | passiveListenF => 0x82
  | activeListenA => 0x83
  | activeListenF => 0x85

def ofCode? (octet : UInt8) : Option TechMode := all.find? (·.code == octet)

def ofCode (octet : UInt8) : Except Error TechMode :=
  match ofCode? octet with
  | some mode => .ok mode
  | none => .error (.frameFormat (.unknownCode .techMode octet))

/-- Whether the controller listens; the top bit of the code says so. -/
def isListen (mode : TechMode) : Bool := mode.code &&& 0x80 != 0

def name : TechMode → String
  | passivePollA => "PassivePollA"
  | passivePollB => "PassivePollB"
  | passivePollF => "PassivePollF"
  | activePollA => "ActivePollA"
  | activePollF => "ActivePollF"
  | passiveListenA => "PassiveListenA"
  | passiveListenB => "PassiveListenB"
  | passiveListenF => "PassiveListenF"
  | activeListenA => "ActiveListenA"
  | activeListenF => "ActiveListenF"

theorem ofCode?_code (mode : TechMode) : ofCode? mode.code = some mode := by cases mode <;> rfl

end TechMode

namespace Interface

def all : List Interface := [nfceeDirect, frame, isoDep, nfcDep]

def code : Interface → UInt8
  | nfceeDirect => 0x00
  | frame => 0x01
  | isoDep => 0x02
  | nfcDep => 0x03

def ofCode? (octet : UInt8) : Option Interface := all.find? (·.code == octet)

def ofCode (octet : UInt8) : Except Error Interface :=
  match ofCode? octet with
  | some interface => .ok interface
  | none => .error (.frameFormat (.unknownCode .interface octet))

def name : Interface → String
  | nfceeDirect => "NfceeDirect"
  | frame => "Frame"
  | isoDep => "IsoDep"
  | nfcDep => "NfcDep"

theorem ofCode?_code (i : Interface) : ofCode? i.code = some i := by cases i <;> rfl

end Interface

end NearField.Rf
