import NearField.Proofs.Device.Command
import NearField.Proofs.Hci.Pipes

/-!
The pipes of a device as maps that the host fills. Main statement: after any use of a new device its
pipes are what the commands that succeeded have made of them since the last reset, each pipe by
itself, and a message is answered accordingly.
-/

namespace NearField.Device

open Hci (Message Pipes PipeEvent ResponseCode OpenedIn StoredIn)

/-- What an operation is for the pipes, if it is anything: a reset, or a command on a pipe that is
answered with success. -/
def pipeEvent? (device : Device) : DeviceOperation → Option PipeEvent
  | .nci bytes =>
    match commandIn? bytes with
    | some (.coreReset _) => some .reset
    | _ => none
  | .hci bytes => do
    let command ← (Message.decode bytes).toOption
    let response ← (device.processHci bytes).1
    let reply ← (Message.decode response).toOption
    if reply.instruction = ResponseCode.ok.code then PipeEvent.ofCommand command else none
  | .deliver .. => none

def pipeEvents (device : Device) : List DeviceOperation → List PipeEvent
  | [] => []
  | operation :: operations =>
    (device.pipeEvent? operation).toList ++ (device.operate operation).pipeEvents operations

inductive Treated (device : Device) (events : List PipeEvent) (bytes : Octets) :
    Option Octets × Device → Prop where
  | ignored (foreign : ∀ command, Message.decode bytes = .ok command →
      command.type ≠ Hci.commandType) : Treated device events bytes (none, device)
  | barred {command : Message} {response : Octets} (read : Message.decode bytes = .ok command)
      (asked : command.type = Hci.commandType)
      (untimely : command.last = false ∨ device.state ≠ .initialized)
      (answered : Message.decode response = .ok (.response command.pipe
        (if command.last then ResponseCode.inhibited else .notSupported).code [])) :
      Treated device events bytes (some response, device)
  | carriedOut {command : Message} {response : Octets} {code : ResponseCode} {data : Octets}
      {pipes : Pipes} (read : Message.decode bytes = .ok command)
      (asked : command.type = Hci.commandType) (whole : command.last = true)
      (ready : device.state = .initialized)
      (answered : Message.decode response = .ok (.response command.pipe code.code data))
      (answers : device.pipes.Answers events command code data)
      (follows : pipes.Follows (events ++ Pipes.succeeded command code))
      (others : ∀ other < 128, other ≠ command.pipe →
        pipes.isOpen other = device.pipes.isOpen other ∧
          ∀ index, pipes.param other index = device.pipes.param other index) :
      Treated device events bytes (some response, { device with pipes })

section Messages

variable {device : Device} {events : List PipeEvent} {bytes : Octets} {command : Message}

theorem pipe_lt (read : Message.decode bytes = .ok command) : command.pipe < 128 :=
  (keeps_low_iff command.pipe 7 rfl rfl).mp (Message.bounds_of_decode read).1.pipe

theorem response_read (pipe code : UInt8) {data : Octets} (short : data.length ≤ 253) :
    ∃ response, (Message.response pipe code data).encode.toOption = some response ∧
      Message.decode response = .ok (.response pipe code data) := by
  obtain ⟨response, encoded, read⟩ :=
    Message.decode_encode (Message.response_narrow pipe code data) short []
  rw [List.append_nil] at read
  refine ⟨response, ?_, read⟩
  rw [encoded]
  rfl

theorem processHci_foreign (foreign : ∀ command, Message.decode bytes = .ok command →
    command.type ≠ Hci.commandType) : device.processHci bytes = (none, device) := by
  rw [processHci]
  cases read : Message.decode bytes with
  | error e => rfl
  | ok command => exact if_pos (foreign command read)

theorem processHci_barred (read : Message.decode bytes = .ok command)
    (asked : command.type = Hci.commandType)
    (untimely : command.last = false ∨ device.state ≠ .initialized) :
    device.processHci bytes = ((Message.response command.pipe
      (if command.last then ResponseCode.inhibited else .notSupported).code []).encode.toOption,
      device) := by
  rw [processHci, read]
  cases whole : command.last with
  | false => simp [asked, whole]
  | true =>
    have early := untimely.resolve_left (by simp [whole])
    simp [asked, whole, early]

theorem processHci_carriedOut (read : Message.decode bytes = .ok command)
    (asked : command.type = Hci.commandType) (whole : command.last = true)
    (ready : device.state = .initialized) :
    device.processHci bytes = ((Message.response command.pipe
      (device.pipes.execute command).1.code (device.pipes.execute command).2.1).encode.toOption,
      { device with pipes := (device.pipes.execute command).2.2 }) := by
  rw [processHci, read]
  simp [asked, whole, ready]

theorem processHci_treated (follows : device.pipes.Follows events) (bytes : Octets) :
    device.Treated events bytes (device.processHci bytes) := by
  by_cases asks : ∃ command, Message.decode bytes = .ok command ∧ command.type = Hci.commandType
  · obtain ⟨command, read, asked⟩ := asks
    have inside := pipe_lt read
    by_cases untimely : command.last = false ∨ device.state ≠ .initialized
    · have empty : ([] : Octets).length ≤ 253 := Nat.zero_le _
      obtain ⟨response, encoded, answered⟩ := response_read command.pipe
        (if command.last then ResponseCode.inhibited else .notSupported).code empty
      rw [processHci_barred read asked untimely, encoded]
      exact .barred read asked untimely answered
    · rw [not_or, Bool.not_eq_false, not_not] at untimely
      obtain ⟨whole, ready⟩ := untimely
      have executed := device.pipes.execute_executed command
      obtain ⟨response, encoded, answered⟩ := response_read command.pipe
        (device.pipes.execute command).1.code (executed.fits follows)
      rw [processHci_carriedOut read asked whole ready, encoded]
      exact .carriedOut read asked whole ready answered (executed.answers follows)
        (executed.follows follows inside (Message.bounds_of_decode read).2)
        fun other valid apart => executed.leaves_other inside valid apart
  · have foreign (command : Message) (read : Message.decode bytes = .ok command) :
        command.type ≠ Hci.commandType := fun asked => asks ⟨command, read, asked⟩
    rw [processHci_foreign foreign]
    exact .ignored foreign

theorem pipeEvent?_answered {response : Octets} {code : ResponseCode} {data : Octets}
    (read : Message.decode bytes = .ok command)
    (replied : (device.processHci bytes).1 = some response)
    (answered : Message.decode response = .ok (.response command.pipe code.code data)) :
    (device.pipeEvent? (.hci bytes)).toList = Pipes.succeeded command code := by
  have told : (Message.response command.pipe code.code data).instruction = ResponseCode.ok.code ↔
      code = .ok := by
    change code.code &&& 0x3f = ResponseCode.ok.code ↔ code = .ok
    cases code <;> decide
  simp only [pipeEvent?, read, replied, answered, Except.toOption, Option.bind_eq_bind,
    Option.bind_some, told, Pipes.succeeded]
  split <;> rfl

/-- A message keeps the pipes in step with the events. -/
theorem processHci_follows (follows : device.pipes.Follows events) (bytes : Octets) :
    (device.processHci bytes).2.pipes.Follows
      (events ++ (device.pipeEvent? (.hci bytes)).toList) := by
  have treated := processHci_treated follows bytes
  generalize done : device.processHci bytes = outcome at treated
  cases treated with
  | ignored foreign =>
    have silent : device.pipeEvent? (.hci bytes) = none := by
      rw [pipeEvent?, done]
      cases Message.decode bytes <;> rfl
    rw [silent, Option.toList_none, List.append_nil]
    exact follows
  | @barred command response read asked untimely answered =>
    rw [pipeEvent?_answered read (by rw [done]) answered]
    cases command.last <;> simpa [Pipes.succeeded] using follows
  | carriedOut read asked whole ready answered answers after others =>
    rw [pipeEvent?_answered read (by rw [done]) answered]
    exact after

end Messages

theorem operate_follows {device : Device} {events : List PipeEvent}
    (follows : device.pipes.Follows events) (operation : DeviceOperation) :
    (device.operate operation).pipes.Follows
      (events ++ (device.pipeEvent? operation).toList) := by
  cases operation with
  | hci bytes => exact processHci_follows follows bytes
  | deliver content room =>
    rw [operate, (device.deliver_retains content room).pipes, pipeEvent?, Option.toList_none,
      List.append_nil]
    exact follows
  | nci bytes =>
    rw [operate, pipeEvent?]
    cases held : commandIn? bytes with
    | none =>
      rw [(device.processNci_retains held).pipes]
      simpa using follows
    | some command =>
      rw [processNci_command held, execute_pipes]
      cases command with
      | coreReset resetType => exact Pipes.reset_follows events
      | _ => simpa using follows

theorem operateAll_follows {device : Device} {events : List PipeEvent}
    (follows : device.pipes.Follows events) (operations : List DeviceOperation) :
    (device.operateAll operations).pipes.Follows (events ++ device.pipeEvents operations) := by
  induction operations generalizing device events with
  | nil =>
    rw [pipeEvents, List.append_nil]
    exact follows
  | cons operation operations ih =>
    rw [pipeEvents, ← List.append_assoc]
    exact ih (operate_follows follows operation)

/-- The pipes of a device that was put to any use are what its history describes, each by itself,
and messages are answered by them. -/
theorem pipes_are_maps (endpoints : List Endpoint) (operations : List DeviceOperation) :
    let device := (ofEndpoints endpoints).operateAll operations
    let events := (ofEndpoints endpoints).pipeEvents operations
    (∀ pipe < 128, device.pipes.isOpen pipe ↔ pipe ≤ 1 ∨ OpenedIn events pipe) ∧
    (∀ pipe index value, device.pipes.param pipe index = some value ↔
      StoredIn events pipe index value) ∧
    (∀ pipe index value, device.pipes.param pipe index = some value →
      pipe < 128 ∧ device.pipes.isOpen pipe) ∧
    ∀ bytes, device.Treated events bytes (device.processHci bytes) := by
  intro device events
  have new : (ofEndpoints endpoints).pipes.Follows [] := Pipes.initial_follows
  have follows : device.pipes.Follows events := operateAll_follows new operations
  refine ⟨follows.opened, follows.params, fun pipe index value found => ?_,
    processHci_treated follows⟩
  obtain ⟨inside, opened, _⟩ := follows.stored pipe index value found
  exact ⟨inside, opened⟩

/-- A parameter that was stored stays when another pipe is closed. -/
theorem stored_kept_apart :
    let operations : List DeviceOperation :=
      [.nci [0x20, 0x00, 0x01, 0x01], .nci [0x20, 0x01, 0x00], .hci [0x02, 0x85, 0x03],
        .hci [0x05, 0x85, 0x01, 0x07, 0xaa, 0xbb], .hci [0x02, 0x86, 0x03], .hci [0x02, 0x86, 0x04]]
    let device := (ofEndpoints []).operateAll operations
    let events : List PipeEvent :=
      [.reset, .opened 5, .stored 5 7 [0xaa, 0xbb], .opened 6, .closed 6]
    device.pipes.param 5 7 = some [0xaa, 0xbb] ∧ ¬device.pipes.isOpen 6 ∧
      StoredIn events 5 7 [0xaa, 0xbb] ∧ ¬OpenedIn events 6 := by
  intro operations device events
  have happened : (ofEndpoints []).pipeEvents operations = events := by decide +kernel
  obtain ⟨opened, params, _, _⟩ := pipes_are_maps [] operations
  rw [happened] at opened params
  have found : device.pipes.param 5 7 = some [0xaa, 0xbb] := by decide +kernel
  have closed : ¬device.pipes.isOpen 6 := by decide +kernel
  refine ⟨found, closed, (params 5 7 _).mp found, fun stands => ?_⟩
  exact closed ((opened 6 (by decide)).mpr (.inr stands))

/-- A device that was not initialised answers that it is inhibited, though the pipe is not open. -/
theorem shut_pipe_inhibited :
    let device := ofEndpoints []
    let bytes : Octets := [0x04, 0x85, 0x01, 0x01, 0xaa]
    Message.decode bytes = .ok (.command 5 0x01 [0x01, 0xaa]) ∧ ¬device.pipes.isOpen 5 ∧
      (device.processHci bytes).1 = some [0x02, 0x85, 0x88] ∧
      Message.decode [0x02, 0x85, 0x88] = .ok (.response 5 ResponseCode.inhibited.code []) ∧
      ResponseCode.inhibited.code ≠ ResponseCode.pipeNotOpened.code := by
  intro device bytes
  exact ⟨rfl, by decide +kernel, by decide +kernel, rfl, by decide⟩

end NearField.Device
