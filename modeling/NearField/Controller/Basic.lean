import NearField.Controller.IrqLine
import NearField.Controller.Snapshot
import NearField.Device.Hci
import NearField.Device.Nci

/-!
The controller: a device behind the register window. The host puts a command into its buffer and
signals it through the control register; the answer comes back in the response buffer and raises
the interrupt. Once the host says that it took the response, a delivery that the command left
behind fills the notification or data buffer.
-/

namespace NearField

namespace StatusBit

def irq : UInt8 := 0x01

def nciCommand : UInt8 := 0x02

def nciResponse : UInt8 := 0x04

def nciNotification : UInt8 := 0x08

def nciData : UInt8 := 0x10

def hciCommand : UInt8 := 0x20

def hciResponse : UInt8 := 0x40

def responses : UInt8 := nciResponse ||| hciResponse

def ready : UInt8 := nciResponse ||| nciNotification ||| nciData ||| hciResponse

def ofBuffer : ExchangeBuffer → UInt8
  | .notification => nciNotification
  | .data => nciData

end StatusBit

inductive HostSignal where
  | interruptAcknowledged
  | nciCommandSent
  | responseReceived
  | notificationReceived
  | dataReceived
  | hciCommandSent
  | unknown
deriving DecidableEq, Repr

def HostSignal.ofCode : UInt8 → HostSignal
  | 0x00 => interruptAcknowledged
  | 0x01 => nciCommandSent
  | 0x02 => responseReceived
  | 0x03 => notificationReceived
  | 0x04 => dataReceived
  | 0x05 => hciCommandSent
  | _ => unknown

namespace RegisterFile

def buffer (regs : RegisterFile) : ExchangeBuffer → Block packetBufferSize
  | .notification => regs.ntfn
  | .data => regs.data

def setBuffer (regs : RegisterFile) (target : ExchangeBuffer) (block : Block packetBufferSize) :
    RegisterFile :=
  match target with
  | .notification => { regs with ntfn := block }
  | .data => { regs with data := block }

/-- Stores an octet in a buffer or in the memory after the buffers. The control registers are not
memory and stay as they are. -/
def store (regs : RegisterFile) (register : Register) (value : UInt8) : RegisterFile :=
  match register with
  | .cmnd i => { regs with cmnd := regs.cmnd.set i value }
  | .resp i => { regs with resp := regs.resp.set i value }
  | .ntfn i => { regs with ntfn := regs.ntfn.set i value }
  | .data i => { regs with data := regs.data.set i value }
  | .reserved i => { regs with reserved := regs.reserved.set i value }
  | .status | .ctrl | .pu | .ws => regs

end RegisterFile

structure Controller where
  regs : RegisterFile := {}
  device : Device := {}
  pending : Option Delivery := none
  irq : IrqLine := .unwired

namespace Controller

def deliveryRoom : Nat := 255

/-- What fills a buffer from outside of command processing: it may change the device and the
buffer, and says how much of the buffer counts. -/
abbrev Producer := Device → Octets → Except Error Nat × Octets × Device

def new (device : Device) : Controller := { device }

def withRecorder (controller : Controller) : Controller := { controller with irq := .recorder }

def irqPending (controller : Controller) : Bool := controller.regs.status &&& StatusBit.irq != 0

def responseLoaded (controller : Controller) : Bool :=
  controller.regs.status &&& StatusBit.responses != 0

def setStatus (controller : Controller) (status : UInt8) : Controller :=
  { controller with regs := { controller.regs with status } }

def clearStatus (controller : Controller) (bits : UInt8) : Controller :=
  controller.setStatus (controller.regs.status &&& ~~~bits)

def flipStatus (controller : Controller) (bits : UInt8) : Controller :=
  controller.setStatus (controller.regs.status ^^^ bits)

def driveIrq (controller : Controller) (level : Bool) : Controller :=
  { controller with irq := controller.irq.drive level }

def lowerIrq (controller : Controller) : Controller :=
  (controller.clearStatus StatusBit.irq).driveIrq false

/-- Asks for an interrupt, and sets a ready bit as well when something is ready. -/
def signal (controller : Controller) (bit : UInt8) (ready : Bool) : Controller :=
  let status := if ready then controller.regs.status ||| bit else controller.regs.status
  (controller.setStatus (status ||| StatusBit.irq)).driveIrq true

/-- Lets a producer fill a buffer, of which the delivery room is blanked first. -/
def produce (controller : Controller) (target : ExchangeBuffer) (producer : Producer) :
    Except Error Nat × Controller :=
  let blanked := (controller.regs.buffer target).clearFirst deliveryRoom
  let (result, filled, device) :=
    producer controller.device (blanked.octets.take deliveryRoom)
  let block := blanked.overlay 0 (filled.take deliveryRoom)
  (result, { controller with regs := controller.regs.setBuffer target block, device })

/-- Publishes a packet from outside of command processing. When the producer fails, the status
register stays as it was. -/
def publish (controller : Controller) (target : ExchangeBuffer) (producer : Producer) :
    Except Error Unit × Controller :=
  match controller.produce target producer with
  | (.error e, controller) => (.error e, controller)
  | (.ok count, controller) =>
    (.ok (), controller.signal (StatusBit.ofBuffer target) (0 < count))

def deliveryProducer (content : DeliveryContent) : Producer := fun device buffer =>
  let (result, device) := device.deliver content buffer.length
  let (count, filled) := buffer.place result
  (count, filled, device)

/-- Produces the delivery that waits, if any. One that fails counts as empty. -/
def firePending (controller : Controller) : Controller :=
  match controller.pending with
  | none => controller
  | some delivery =>
    let (result, controller) :=
      { controller with pending := none }.produce delivery.buffer
        (deliveryProducer delivery.content)
    let count := result.toOption.getD 0
    controller.signal (StatusBit.ofBuffer delivery.buffer) (0 < count)

def loadResponse (controller : Controller) (response : Option Octets) : Bool × Controller :=
  let blank : Block packetBufferSize := .zero _
  match response with
  | none => (false, { controller with regs := { controller.regs with resp := blank } })
  | some bytes =>
    if packetBufferSize < bytes.length then
      (false, { controller with regs := { controller.regs with resp := blank } })
    else
      (true, { controller with regs := { controller.regs with resp := blank.overlay 0 bytes } })

/-- Carries out the packet in the command buffer, unless a response waits to be taken. A delivery
left over from before is dropped. -/
def nciCommand (controller : Controller) : Controller :=
  if controller.responseLoaded then controller
  else
    let (answer, device) := controller.device.processNci controller.regs.cmnd.octets
    let (loaded, controller) :=
      { controller with device }.loadResponse (answer.map Device.NciAnswer.response)
    let pending := if loaded then answer.bind Device.NciAnswer.delivery else none
    ({ controller with pending }.clearStatus StatusBit.nciCommand).signal
      StatusBit.nciResponse loaded

def hciCommand (controller : Controller) : Controller :=
  if controller.responseLoaded then controller
  else
    let (answer, device) := controller.device.processHci controller.regs.cmnd.octets
    let (loaded, controller) := { controller with device }.loadResponse answer
    (controller.clearStatus StatusBit.hciCommand).signal StatusBit.hciResponse loaded

/-- Takes note that the host took the response: the interrupt is withdrawn when no other buffer is
loaded, and a delivery that waits is produced. -/
def responseReceived (controller : Controller) : Controller :=
  let controller := controller.clearStatus StatusBit.responses
  let quiet := controller.regs.status &&& StatusBit.ready == 0 && controller.irqPending
  (if quiet then controller.lowerIrq else controller).firePending

/-- Acts on what the host says. A received notification or data packet flips its ready bit. -/
def handle (controller : Controller) : HostSignal → Controller
  | .interruptAcknowledged => controller.lowerIrq
  | .nciCommandSent => controller.nciCommand
  | .responseReceived => controller.responseReceived
  | .notificationReceived => controller.flipStatus StatusBit.nciNotification
  | .dataReceived => controller.flipStatus StatusBit.nciData
  | .hciCommandSent => controller.hciCommand
  | .unknown => controller

def read (controller : Controller) (offset : Nat) : Except Error UInt8 :=
  (Register.decode offset).map controller.regs.get

/-- Writes to a place in the window. The status register ignores it, the control register acts and
reads as zero afterwards, the power register takes 0 and 1, and the wake register takes 0, 1 and
2, which flips it. -/
def writeRegister (controller : Controller) (register : Register) (value : UInt8) : Controller :=
  match register with
  | .status => controller
  | .ctrl =>
    let acted := controller.handle (HostSignal.ofCode value)
    { acted with regs := { acted.regs with ctrl := 0 } }
  | .pu =>
    if value ≤ 1 then { controller with regs := { controller.regs with pu := value } }
    else controller
  | .ws =>
    if value ≤ 1 then { controller with regs := { controller.regs with ws := value } }
    else if value = 2 then
      { controller with
        regs := { controller.regs with ws := if controller.regs.ws = 0 then 1 else 0 } }
    else controller
  | register => { controller with regs := controller.regs.store register value }

def write (controller : Controller) (offset : Nat) (value : UInt8) : Except Error Controller :=
  (Register.decode offset).map fun register => controller.writeRegister register value

def save (controller : Controller) : Snapshot := .capture controller.regs

/-- Restores the registers from a snapshot. A delivery that waits is dropped, the device stays, and
the interrupt line follows the restored status register. -/
def load (controller : Controller) (snapshot : Snapshot) : Except Error Controller :=
  snapshot.registers.map fun regs =>
    let restored := { controller with regs, pending := none }
    restored.driveIrq restored.irqPending

end Controller

end NearField
