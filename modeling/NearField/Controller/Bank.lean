import NearField.Controller.Basic
import NearField.Table

/-!
The controllers of one machine by number. An access names the controller it is for.
-/

namespace NearField

structure Bank where
  controllers : Table UInt32 Controller

namespace Bank

def empty : Bank := ⟨∅⟩

def ids (bank : Bank) : List UInt32 := bank.controllers.keys

def size (bank : Bank) : Nat := bank.controllers.size

def get (bank : Bank) (id : UInt32) : Except Error Controller :=
  match bank.controllers.get? id with
  | some controller => .ok controller
  | none => .error (.unknownInstance id)

def set (bank : Bank) (id : UInt32) (controller : Controller) : Bank :=
  ⟨bank.controllers.insert id controller⟩

def register (bank : Bank) (id : UInt32) (controller : Controller) : Except Error Bank :=
  if bank.controllers.contains id then .error (.duplicateInstance id)
  else .ok (bank.set id controller)

def unregister (bank : Bank) (id : UInt32) : Except Error (Controller × Bank) := do
  let controller ← bank.get id
  return (controller, ⟨bank.controllers.erase id⟩)

def read (bank : Bank) (id : UInt32) (offset : Nat) : Except Error UInt8 := do
  let controller ← bank.get id
  controller.read offset

def write (bank : Bank) (id : UInt32) (offset : Nat) (value : UInt8) : Except Error Bank := do
  let controller ← bank.get id
  let written ← controller.write offset value
  return bank.set id written

def writeOctets (bank : Bank) (id : UInt32) (offset : Nat) : Octets → Except Error Unit × Bank
  | [] => (.ok (), bank)
  | value :: rest =>
    match bank.write id offset value with
    | .ok bank => bank.writeOctets id (offset + 1) rest
    | .error e => (.error e, bank)

end Bank

end NearField
