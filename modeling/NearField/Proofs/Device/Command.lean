import NearField.Proofs.Device.Operation

/-!
The commands among the packets, and what becomes of what the host stored in a device. Main
statements: only a command that is carried out changes the session, the configuration or the pipes
in answer to a packet; a message changes the pipes alone and a delivery none of the three.
-/

namespace NearField.Device

open Nci (Command Packet)

variable {device : Device} {bytes : Octets}

/-- The command that the packet at the start of some octets asks for, if it is one and can be
read. -/
def commandIn? (bytes : Octets) : Option Command :=
  match Packet.decode bytes with
  | .ok (.control .command _ group code payload) => (Command.decode ⟨group, code⟩ payload).toOption
  | _ => none

theorem commandIn?_some {command : Command} (held : commandIn? bytes = some command) :
    ∃ more group code payload,
      Packet.decode bytes = .ok (.control .command more group code payload) ∧
      Command.decode ⟨group, code⟩ payload = .ok command := by
  unfold commandIn? at held
  split at held
  · rename_i more group code payload read
    cases understood : Command.decode ⟨group, code⟩ payload with
    | error e =>
      rw [understood] at held
      cases held
    | ok other =>
      rw [understood] at held
      cases held
      exact ⟨more, group, code, payload, read, understood⟩
  · cases held

theorem processNci_command {command : Command} (held : commandIn? bytes = some command) :
    device.processNci bytes = device.execute command := by
  obtain ⟨_, _, _, _, read, understood⟩ := commandIn?_some held
  rw [processNci, read]
  simp only [understood]

/-- What the host stored in a device, and the session that gives access to it, are as before. -/
structure Retains (before after : Device) : Prop where
  state : after.state = before.state
  configuration : after.configuration = before.configuration
  pipes : after.pipes = before.pipes

theorem Retains.refl (device : Device) : device.Retains device := ⟨rfl, rfl, rfl⟩

theorem storeActiveLink_retains (device : Device) (link : Llcp.LogicalLink) :
    device.Retains (device.storeActiveLink link) := by
  unfold storeActiveLink
  split <;> exact ⟨rfl, rfl, rfl⟩

theorem deactivate_retains (device : Device) : device.Retains device.deactivate := by
  unfold deactivate
  split <;> exact ⟨rfl, rfl, rfl⟩

theorem activate_retains (device : Device) (activation : Activation) :
    device.Retains (device.activate activation) := by
  unfold activate
  split <;> exact ⟨rfl, rfl, rfl⟩

theorem rfDiscoverMap_retains (device : Device) (mappings : List Nci.DiscoverMapping) :
    device.Retains (device.rfDiscoverMap mappings).2 := by
  unfold rfDiscoverMap
  split <;> exact ⟨rfl, rfl, rfl⟩

theorem rfDiscover_retains (device : Device) (configs : List Nci.DiscoverConfig) :
    device.Retains (device.rfDiscover configs).2 := by
  unfold rfDiscover
  split
  · exact .refl device
  · split
    · exact ⟨rfl, rfl, rfl⟩
    · rename_i activation found
      obtain ⟨state, configuration, pipes⟩ :=
        activate_retains { device with rfState := .discovery } activation
      exact ⟨state, configuration, pipes⟩

theorem rfDeactivate_retains (device : Device) (deactivation : UInt8) :
    device.Retains (device.rfDeactivate deactivation).2 := by
  unfold rfDeactivate
  split
  · exact .refl device
  · obtain ⟨state, configuration, pipes⟩ := device.deactivate_retains
    exact ⟨state, configuration, pipes⟩

theorem processNci_retains (device : Device) (other : commandIn? bytes = none) :
    device.Retains (device.processNci bytes).2 := by
  unfold processNci
  unfold commandIn? at other
  split
  · exact .refl device
  · unfold processData
    split
    · exact .refl device
    · split
      · exact .refl device
      · exact device.storeActiveLink_retains _
  · rename_i group code payload read
    rw [read] at other
    dsimp only at other
    cases understood : Command.decode ⟨group, code⟩ payload with
    | error e => exact .refl device
    | ok command =>
      rw [understood] at other
      cases other
  · exact .refl device

theorem deliver_retains (device : Device) (content : DeliveryContent) (room : Nat) :
    device.Retains (device.deliver content room).2 := by
  cases content with
  | activated | deactivated => exact .refl device
  | linkData =>
    simp only [deliver]
    split
    · exact .refl device
    · exact device.storeActiveLink_retains _

theorem processHci_pipes (device : Device) (bytes : Octets) :
    ∃ pipes, (device.processHci bytes).2 = { device with pipes } := by
  unfold processHci
  split
  · exact ⟨device.pipes, rfl⟩
  · split
    · exact ⟨device.pipes, rfl⟩
    · exact ⟨_, rfl⟩

theorem execute_reset (device : Device) (resetType : UInt8) :
    (device.execute (.coreReset resetType)).2 = device.reset (resetType = 0x01) := rfl

theorem execute_uninitialized (device : Device) (command : Command)
    (early : device.state ≠ .initialized) (other : ∀ resetType, command ≠ .coreReset resetType) :
    (device.execute command).2.configuration = device.configuration ∧
      (device.execute command).2.pipes = device.pipes := by
  unfold execute
  cases command with
  | coreReset resetType => exact absurd rfl (other resetType)
  | coreInit =>
    dsimp only
    split <;> exact ⟨rfl, rfl⟩
  | _ =>
    simp only [if_pos early]
    exact ⟨trivial, trivial⟩

theorem execute_coreSetConfig (ready : device.state = .initialized)
    (params : List (UInt8 × Octets)) :
    device.execute (.coreSetConfig params) = device.coreSetConfig params := by
  unfold execute
  simp only [ready, ne_eq, not_true_eq_false, if_false]

theorem execute_coreGetConfig (ready : device.state = .initialized) (ids : List UInt8) :
    device.execute (.coreGetConfig ids) = (device.coreGetConfig ids, device) := by
  unfold execute
  simp only [ready, ne_eq, not_true_eq_false, if_false]

/-- What a command makes of the configuration: a reset of type 0x01 clears it, and parameters are
set while the device is initialised. -/
theorem execute_configuration (device : Device) (command : Command) :
    (device.execute command).2.configuration =
      match command with
      | .coreReset resetType => if resetType = 0x01 then .blank else device.configuration
      | .coreSetConfig params =>
        if device.state = .initialized then (storeParams device.configuration params).2
        else device.configuration
      | _ => device.configuration := by
  by_cases ready : device.state = .initialized
  · unfold execute
    cases command with
    | coreReset resetType => simp [coreReset, reset]
    | coreSetConfig params => simp [ready, coreSetConfig]
    | coreInit | coreGetConfig | unsupported => simp [ready]
    | rfDiscoverMap mappings =>
      simpa [ready] using (device.rfDiscoverMap_retains mappings).configuration
    | rfDiscover configs => simpa [ready] using (device.rfDiscover_retains configs).configuration
    | rfDeactivate deactivation =>
      simpa [ready] using (device.rfDeactivate_retains deactivation).configuration
  · cases command with
    | coreReset resetType => simp [execute_reset, reset]
    | coreSetConfig params =>
      simp only [if_neg ready]
      exact (device.execute_uninitialized _ ready (by rintro _ ⟨⟩)).1
    | _ => exact (device.execute_uninitialized _ ready (by rintro _ ⟨⟩)).1

/-- What a command makes of the pipes: a reset puts them back, and no other command touches them. -/
theorem execute_pipes (device : Device) (command : Command) :
    (device.execute command).2.pipes =
      match command with
      | .coreReset _ => .initial
      | _ => device.pipes := by
  by_cases ready : device.state = .initialized
  · unfold execute
    cases command with
    | coreReset resetType => rfl
    | coreInit | coreSetConfig | coreGetConfig | unsupported => simp [ready, coreSetConfig]
    | rfDiscoverMap mappings => simpa [ready] using (device.rfDiscoverMap_retains mappings).pipes
    | rfDiscover configs => simpa [ready] using (device.rfDiscover_retains configs).pipes
    | rfDeactivate deactivation =>
      simpa [ready] using (device.rfDeactivate_retains deactivation).pipes
  · cases command with
    | coreReset resetType => rfl
    | _ => exact (device.execute_uninitialized _ ready (by rintro _ ⟨⟩)).2

end NearField.Device
