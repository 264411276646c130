import NearField.Proofs.Controller.Signal
import NearField.Proofs.Device.Delivery

/-!
Responses to packets. Main statement: every command and every data packet is answered by one packet
that matches it, and the controller loads that packet into the response buffer and says so.
-/

namespace NearField

open Nci (Packet Status)

namespace Controller

variable {controller : Controller} {answer : Device.NciAnswer}

/-- The answer to the command in its buffer is loaded: its bit is set, its octets stand at the start
of the response buffer, and its delivery waits. -/
structure Loaded (controller : Controller) (answer : Device.NciAnswer) : Prop where
  ready : controller.regs.has StatusBit.nciResponse = true
  content : controller.regs.resp.octets.take answer.response.length = answer.response
  pending : controller.pending = answer.delivery

theorem responseBlock_take {response : Octets} (fits : response.length ≤ packetBufferSize) :
    (responseBlock (some response)).octets.take response.length = response := by
  have stands := overlay_start (Block.zero packetBufferSize) response fits
  rw [responseBlock, Option.getD_some, stands, List.take_left]

theorem nciCommand_loads (free : controller.responseLoaded = false)
    (answered : controller.nciAnswer = some answer) : controller.nciCommand.Loaded answer := by
  have fits := (Device.processNci_response answered).2
  have content := responseBlock_take fits
  rw [nciCommand_free free, answered]
  constructor
  · exact has_signal_set rfl
  · rw [← Option.map_some, ← answered] at content
    exact content
  · change controller.nciAnswer.bind Device.NciAnswer.delivery = answer.delivery
    rw [answered, Option.bind_some]

end Controller

namespace Device

/-- Commands and data are answered and nothing else is. An answer is the octets of one packet, which
matches the packet that was sent, and a controller that is sent it loads the answer. -/
theorem processNci_matches (device : Device) (bytes : Octets) :
    ((device.processNci bytes).1.isSome = true ↔
      ∃ packet, Packet.decode bytes = .ok packet ∧
        (packet.type = .command ∨ packet.type = .data)) ∧
    ∀ (packet : Packet) (answer : NciAnswer), Packet.decode bytes = .ok packet →
      (device.processNci bytes).1 = some answer →
        (∃ reply, answer.Carries reply ∧ device.Matches packet reply answer.delivery) ∧
        ∀ controller : Controller, controller.device = device →
          controller.regs.cmnd.octets = bytes → controller.responseLoaded = false →
            (controller.handle .nciCommandSent).Loaded answer := by
  refine ⟨⟨?_, ?_⟩, ?_⟩
  · intro some
    obtain ⟨answer, answered⟩ := Option.isSome_iff_exists.mp some
    obtain ⟨packet, _, read, _, asked, _⟩ := processNci_answered answered
    exact ⟨packet, read, asked⟩
  · rintro ⟨packet, read, asked⟩
    have result : device.Outcome packet (device.processNci bytes) := processNci_outcome read
    obtain ⟨answer, _, answered, _⟩ := result.answer (Packet.bounds_of_decode read).1 asked
    rw [answered]
    rfl
  · intro packet answer read answered
    obtain ⟨other, reply, again, carries, _, suits⟩ := processNci_answered answered
    cases read.symm.trans again
    refine ⟨⟨reply, carries, suits⟩, ?_⟩
    rintro controller rfl rfl free
    exact Controller.nciCommand_loads free answered

/-- An empty PDU for the peer is answered by a credit, and a delivery follows. -/
theorem symmetry_credited :
    let device := (ofEndpoints [.peer (.zero 10)]).operateAll activating
    let answer : NciAnswer := ⟨[0x60, 0x06, 0x03, 0x01, 0x00, 0x01], some ⟨.data, .linkData⟩⟩
    (device.processNci [0x00, 0x00, 0x02, 0x00, 0x00]).1 = some answer ∧
      ∃ reply, answer.Carries reply ∧
        device.Matches (.data false 0x00 [0x00, 0x00]) reply (some ⟨.data, .linkData⟩) := by
  intro device answer
  have answered : (device.processNci [0x00, 0x00, 0x02, 0x00, 0x00]).1 = some answer := by
    decide +kernel
  exact ⟨answered, ((device.processNci_matches _).2 _ answer rfl answered).1⟩

/-- Data on another connection is refused, also while the peer is active. -/
theorem other_connection_refused :
    let device := (ofEndpoints [.peer (.zero 10)]).operateAll activating
    let bytes : Octets := [0x01, 0x00, 0x00]
    device.PeerActive ∧ Packet.decode bytes = .ok (.data false 0x01 []) ∧
      ∃ answer, (device.processNci bytes).1 = some answer ∧
        Packet.decode answer.response =
          .ok (Nci.Notification.interfaceError Status.semanticError.code 0x01) ∧
        Packet.decode answer.response ≠
          .ok (Nci.Notification.credits Nci.staticConnection 1) := by
  intro device bytes
  have served : device.peerLink.isSome = true := by decide +kernel
  have answered : (device.processNci bytes).1 =
      some ⟨[0x60, 0x08, 0x02, 0x06, 0x01], none⟩ := by
    decide +kernel
  exact ⟨peerLink_iff.mp (Option.isSome_iff_exists.mp served), rfl, _, answered, rfl, by decide⟩

end Device

end NearField
