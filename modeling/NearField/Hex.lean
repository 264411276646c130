import NearField.Octets

/-!
Hexadecimal text: octet strings with and without blanks between the octets, read back from the form
without blanks, and numbers as error messages show them. Digits are lower case throughout.
-/

namespace NearField.Hex

def digit (value : Nat) : Char := Nat.digitChar value

def ofOctet (octet : UInt8) : List Char := [digit (octet.toNat / 16), digit (octet.toNat % 16)]

def ofOctets (bytes : Octets) : String := String.ofList (bytes.flatMap ofOctet)

def spaced (bytes : Octets) : String :=
  String.ofList (List.intercalate [' '] (bytes.map ofOctet))

def digitValue? (c : Char) : Option Nat :=
  if '0' ≤ c ∧ c ≤ '9' then some (c.toNat - '0'.toNat)
  else if 'a' ≤ c ∧ c ≤ 'f' then some (c.toNat - 'a'.toNat + 10)
  else none

def toOctets? : List Char → Option Octets
  | [] => some []
  | high :: low :: rest => do
    let octet := (← digitValue? high) * 16 + (← digitValue? low)
    return octet.toUInt8 :: (← toOctets? rest)
  | [_] => none

def number (digits value : Nat) : String :=
  let text := Nat.toDigits 16 value
  "0x" ++ String.ofList (List.replicate (digits - text.length) '0' ++ text)

end NearField.Hex
