import NearField.Octets.Reader

/-!
Messages of the host controller interface. In a buffer a message follows one octet that counts the
rest: `length`, `last(1) pipe(7)`, `type(2) instruction(6)`, data. Reading ignores what comes after
the counted octets.
-/

namespace NearField.Hci

/-- A message; `last` is false for a fragment that is continued. -/
structure Message where
  last : Bool
  pipe : UInt8
  type : UInt8
  instruction : UInt8
  data : Octets
deriving DecidableEq, Repr

def commandType : UInt8 := 0x00

def responseType : UInt8 := 0x02

namespace Message

def command (pipe instruction : UInt8) (data : Octets) : Message :=
  ⟨true, pipe &&& 0x7f, commandType, instruction &&& 0x3f, data⟩

def response (pipe code : UInt8) (data : Octets) : Message :=
  ⟨true, pipe &&& 0x7f, responseType, code &&& 0x3f, data⟩

def pipeOctet (message : Message) : UInt8 :=
  (if message.last then 0x80 else 0x00) ||| (message.pipe &&& 0x7f)

def instructionOctet (message : Message) : UInt8 :=
  (message.type <<< 6) ||| (message.instruction &&& 0x3f)

def encode (message : Message) : Except Error Octets :=
  let counted := 2 + message.data.length
  if 255 < counted then .error (.invalidLength 255 counted)
  else .ok (counted.toUInt8 :: message.pipeOctet :: message.instructionOctet :: message.data)

def decode (bytes : Octets) : Except Error Message := do
  let counted ← bytes.byteAt 0
  if counted < 2 then throw (.frameFormat (.messageTooShort counted.toNat))
  let content ← bytes.sliceAt 1 counted.toNat
  let first ← content.byteAt 0
  let second ← content.byteAt 1
  return {
    last := first &&& 0x80 != 0
    pipe := first &&& 0x7f
    type := second >>> 6
    instruction := second &&& 0x3f
    data := content.drop 2 }

end Message

end NearField.Hci
