import NearField.Device.Basic

/-!
How the device carries out messages of the host controller interface.
-/

namespace NearField.Device

open Hci (Message ResponseCode)

/-- Carries out the message at the start of some octets and gives the octets of the response. What
is not a command, or cannot be read, has no answer. Fragments are not supported, and an
uninitialised device is inhibited. -/
def processHci (device : Device) (bytes : Octets) : Option Octets × Device :=
  match Message.decode bytes with
  | .error _ => (none, device)
  | .ok command =>
    if command.type ≠ Hci.commandType then (none, device)
    else
      let (code, data, pipes) : ResponseCode × Octets × Hci.Pipes :=
        if !command.last then (.notSupported, [], device.pipes)
        else if device.state ≠ .initialized then (.inhibited, [], device.pipes)
        else device.pipes.execute command
      ((Message.response command.pipe code.code data).encode.toOption, { device with pipes })

end NearField.Device
