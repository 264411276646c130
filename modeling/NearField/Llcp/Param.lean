import NearField.Octets.Reader

/-!
Link layer parameters: entries of a kind, a length octet and a value, one after the other. Fields
narrower than their octets are cut to their width both ways, and kinds that nobody knows are
skipped.
-/

namespace NearField.Llcp

inductive Param where
  | version (major minor : UInt8)
  | miux (extension : UInt16)
  | wks (services : UInt16)
  | lto (timeout : UInt8)
  | rw (window : UInt8)
  | sn (name : Octets)
  | opt (serviceClass : UInt8)
  | sdreq (tid : UInt8) (uri : Octets)
  | sdres (tid sap : UInt8)
deriving DecidableEq, Repr

namespace Param

def kind : Param → UInt8
  | version _ _ => 0x01
  | miux _ => 0x02
  | wks _ => 0x03
  | lto _ => 0x04
  | rw _ => 0x05
  | sn _ => 0x06
  | opt _ => 0x07
  | sdreq _ _ => 0x08
  | sdres _ _ => 0x09

def value : Param → Octets
  | version major minor => [packNibbles major minor]
  | miux extension => Octets.ofWord16 (extension &&& 0x07ff)
  | wks services => Octets.ofWord16 services
  | lto timeout => [timeout]
  | rw window => [window &&& 0x0f]
  | sn name => name
  | opt serviceClass => [serviceClass &&& 0x03]
  | sdreq tid uri => tid :: uri
  | sdres tid sap => [tid, sap &&& 0x3f]

def encode (param : Param) : Except Error Octets :=
  if 255 < param.value.length then .error (.invalidParameter param.kind param.value.length)
  else .ok (param.kind :: param.value.length.toUInt8 :: param.value)

/-- Reads the value of a parameter; `none` for a kind that is not known. -/
def decode (kind : UInt8) (value : Octets) : Except Error (Option Param) :=
  let malformed := .error (.invalidParameter kind value.length)
  match kind with
  | 0x01 => match value with
    | [b] => .ok (some (.version (highNibble b) (lowNibble b)))
    | _ => malformed
  | 0x02 => match value with
    | [b0, b1] => .ok (some (.miux (Octets.word16 b0 b1 &&& 0x07ff)))
    | _ => malformed
  | 0x03 => match value with
    | [b0, b1] => .ok (some (.wks (Octets.word16 b0 b1)))
    | _ => malformed
  | 0x04 => match value with
    | [b] => .ok (some (.lto b))
    | _ => malformed
  | 0x05 => match value with
    | [b] => .ok (some (.rw (b &&& 0x0f)))
    | _ => malformed
  | 0x06 => .ok (some (.sn value))
  | 0x07 => match value with
    | [b] => .ok (some (.opt (b &&& 0x03)))
    | _ => malformed
  | 0x08 => match value with
    | tid :: uri => .ok (some (.sdreq tid uri))
    | [] => malformed
  | 0x09 => match value with
    | [tid, sap] => .ok (some (.sdres tid (sap &&& 0x3f)))
    | _ => malformed
  | _ => .ok none

def parseAll (bytes : Octets) : Except Error (List Param) :=
  match bytes with
  | [] => .ok []
  | [_] => .error (.invalidLength 2 1)
  | kind :: length :: rest =>
    if rest.length < length.toNat then
      .error (.invalidLength (2 + length.toNat) (2 + rest.length))
    else
      match decode kind (rest.take length.toNat) with
      | .error e => .error e
      | .ok param => (parseAll (rest.drop length.toNat)).map (param.toList ++ ·)
termination_by bytes.length
decreasing_by simp only [List.length_drop, List.length_cons]; omega

def encodeAll : List Param → Except Error Octets
  | [] => .ok []
  | param :: rest => do
    let head ← param.encode
    let tail ← encodeAll rest
    return head ++ tail

/-- The general octets of an activation: the link layer's magic number and the version, well-known
services and timeout of this side. -/
def activationTail : Octets :=
  [0x46, 0x66, 0x6d] ++
    [Param.version 1 1, .wks 0x0013, .lto 100].flatMap fun param =>
      param.kind :: param.value.length.toUInt8 :: param.value

end Param

end NearField.Llcp
