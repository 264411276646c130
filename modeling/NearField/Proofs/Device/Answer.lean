import NearField.Controller.Register
import NearField.Proofs.Device.Operation
import NearField.Proofs.Nci.Command

/-!
What a device answers and what it leaves alone. Main statements: a command is answered by a response
of its own opcode that starts with a status, data by a notification; and a packet that is refused
changes nothing and leaves no delivery behind.
-/

namespace NearField.Device

open Nci (Opcode Packet Status maxPayload)

/-- The octets of an answer are those of a packet, all of them, and no more than a packet has. -/
structure NciAnswer.Carries (answer : NciAnswer) (reply : Packet) : Prop where
  read : Packet.decode answer.response = .ok reply
  filled : answer.response.length = Nci.packetHeaderLength + reply.payload.length
  fits : answer.response.length ≤ 258

def Sends (packet : Packet) (delivery : Option Delivery) : Prop :=
  ∃ answer, replyLeaving packet delivery = some answer ∧ answer.Carries packet ∧
    answer.delivery = delivery

theorem sends_whole {type : Nci.MessageType} (control : type ≠ .data) (opcode : Opcode)
    {payload : Octets} (fits : payload.length ≤ maxPayload) (delivery : Option Delivery) :
    Sends (.whole type opcode payload) delivery := by
  let packet : Packet := .whole type opcode payload
  have encoded : packet.encode = _ := Packet.encode_fits fits
  have read := Packet.decode_encode (Packet.whole_narrow control opcode payload) encoded []
  rw [List.append_nil] at read
  refine ⟨⟨_, delivery⟩, ?_, ⟨read, Nat.add_comm _ 3, ?_⟩, rfl⟩
  · rw [replyLeaving, encoded]
    rfl
  · exact Nat.add_le_add_right fits 3

theorem sends_response (opcode : Opcode) (status : Status) {rest : Octets}
    (fits : rest.length < maxPayload) (delivery : Option Delivery) :
    Sends (.response opcode (status.code :: rest)) delivery := by
  have short : (status.code :: rest).length ≤ maxPayload := fits
  have response : Nci.MessageType.response ≠ .data := by decide
  exact sends_whole response opcode short delivery

theorem sends_notification (opcode : Opcode) {payload : Octets}
    (fits : payload.length ≤ maxPayload) (delivery : Option Delivery) :
    Sends (.notification opcode payload) delivery := by
  have notification : Nci.MessageType.notification ≠ .data := by decide
  exact sends_whole notification opcode fits delivery

theorem sends_credits (delivery : Option Delivery) :
    Sends (Nci.Notification.credits Nci.staticConnection connectionCredits) delivery :=
  sends_notification .coreConnCredits (by decide) delivery

theorem sends_interfaceError (status : Status) (connection : UInt8) :
    Sends (Nci.Notification.interfaceError status.code connection) none := by
  have short : [status.code, connection].length ≤ maxPayload := show 2 ≤ 255 by decide
  exact sends_notification .coreInterfaceError short none

/-- What comes of a command: its response, a delivery that may follow, and the device afterwards. -/
inductive Performed (device : Device) (opcode : Opcode) : Option NciAnswer × Device → Prop where
  | carriedOut {rest : Octets} (delivery : Option Delivery) (after : Device)
      (fits : rest.length < maxPayload) (effective : opcode ≠ .coreGetConfig) :
      Performed device opcode
        (replyLeaving (.response opcode (Status.ok.code :: rest)) delivery, after)
  | stored {status : Status} {rest : Octets} (after : Device) (fits : rest.length < maxPayload)
      (setting : opcode = .coreSetConfig) :
      Performed device opcode (reply (.response opcode (status.code :: rest)), after)
  | answered {status : Status} {rest : Octets} (fits : rest.length < maxPayload) :
      Performed device opcode (reply (.response opcode (status.code :: rest)), device)

section Commands

variable (device : Device)

theorem replyStatus_performed (opcode : Opcode) (status : Status) :
    device.Performed opcode (replyStatus opcode status, device) := .answered (by decide)

theorem statusOk_performed (opcode : Opcode) (effective : opcode ≠ .coreGetConfig)
    (delivery : Option Delivery) (after : Device) :
    device.Performed opcode
      (replyLeaving (Nci.Response.status opcode Status.ok.code) delivery, after) :=
  .carriedOut delivery after (by decide) effective

theorem coreReset_performed (resetType : UInt8) :
    device.Performed .coreReset (device.coreReset resetType) := by
  have few : 2 < maxPayload := by decide
  exact .carriedOut none _ few (by decide)

theorem coreInit_performed : device.Performed .coreInit device.coreInit :=
  .carriedOut none _ (by decide) (by decide)

theorem storeParams_length (configuration : Configuration) (params : List (UInt8 × Octets)) :
    (storeParams configuration params).1.length ≤ params.length := by
  induction params generalizing configuration with
  | nil => exact Nat.le_refl 0
  | cons param rest ih =>
    obtain ⟨id, value⟩ := param
    rw [storeParams]
    cases configuration.setParam id value with
    | ok stored => exact Nat.le_trans (ih stored) (Nat.le_succ _)
    | error e => exact Nat.succ_le_succ (ih configuration)

theorem coreSetConfig_performed {params : List (UInt8 × Octets)}
    (few : 1 + 2 * params.length ≤ maxPayload) :
    device.Performed .coreSetConfig (device.coreSetConfig params) := by
  have fewer := storeParams_length device.configuration params
  rw [coreSetConfig]
  generalize storeParams device.configuration params = outcome at fewer
  obtain ⟨invalid, configuration⟩ := outcome
  refine .stored _ ?_ rfl
  rw [maxPayload] at few ⊢
  rw [List.length_cons]
  simp only at fewer
  omega

theorem coreGetConfig_performed (ids : List UInt8) :
    device.Performed .coreGetConfig (device.coreGetConfig ids, device) := by
  unfold coreGetConfig
  extract_lets known unknown
  generalize (if unknown.isEmpty = true then _ else _ : Status × List (UInt8 × Octets)) = found
  obtain ⟨status, entries⟩ := found
  dsimp only
  split
  · exact device.replyStatus_performed _ _
  · rename_i short
    refine .answered ?_
    rw [List.length_cons]
    omega

theorem rfDiscoverMap_performed (mappings : List Nci.DiscoverMapping) :
    device.Performed .rfDiscoverMap (device.rfDiscoverMap mappings) := by
  unfold rfDiscoverMap
  split
  · exact device.statusOk_performed .rfDiscoverMap (by decide) none _
  · exact device.replyStatus_performed _ _

theorem rfDiscover_performed (configs : List Nci.DiscoverConfig) :
    device.Performed .rfDiscover (device.rfDiscover configs) := by
  unfold rfDiscover
  split
  · exact device.replyStatus_performed _ _
  · split
    · exact device.statusOk_performed .rfDiscover (by decide) none _
    · exact device.statusOk_performed .rfDiscover (by decide) _ _

theorem rfDeactivate_performed (deactivation : UInt8) :
    device.Performed .rfDeactivate (device.rfDeactivate deactivation) := by
  unfold rfDeactivate
  split
  · exact device.replyStatus_performed _ _
  · exact device.statusOk_performed .rfDeactivate (by decide) _ _

theorem execute_performed {opcode : Opcode} {payload : Octets} {command : Nci.Command}
    (short : payload.length ≤ maxPayload) (read : command.ReadFrom opcode payload) :
    device.Performed opcode (device.execute command) := by
  obtain ⟨rfl, _, sized⟩ := read
  have executed := device.execute_executed command
  generalize device.execute command = outcome at executed
  cases executed with
  | refused status => exact device.replyStatus_performed _ status
  | reset resetType => exact device.coreReset_performed resetType
  | init fresh => exact device.coreInit_performed
  | set params => exact device.coreSetConfig_performed (Nat.le_trans (sized params rfl) short)
  | get ids => exact device.coreGetConfig_performed ids
  | map ready mappings => exact device.rfDiscoverMap_performed mappings
  | discover ready configs => exact device.rfDiscover_performed configs
  | deactivate ready deactivation => exact device.rfDeactivate_performed deactivation

end Commands

/-! ### Packets -/

/-- An endpoint in the field is active, and the peer-to-peer interface serves it. -/
def PeerActive (device : Device) : Prop :=
  ∃ activation endpoint, device.active = some activation ∧
    (device.rf.get activation.slot).interface = .nfcDep ∧
      device.endpoints[activation.endpoint]? = some endpoint

variable {device : Device} {bytes : Octets}

theorem peerLink_iff : (∃ link, device.peerLink = some link) ↔ device.PeerActive := by
  constructor
  · rintro ⟨link, peer⟩
    obtain ⟨activation, endpoint, active, served, found, _⟩ := peerLink_some peer
    exact ⟨activation, endpoint, active, served, found⟩
  · rintro ⟨activation, endpoint, active, served, found⟩
    refine ⟨endpoint.link, ?_⟩
    rw [peerLink, active]
    simp only [served, if_true, activeLink, activeEndpoint, active, Option.bind_some, found]
    rfl

/-- What comes of a packet: the answer and the device afterwards. -/
inductive Outcome (device : Device) : Packet → Option NciAnswer × Device → Prop where
  | command {more : Bool} {group code : UInt8} {payload : Octets}
      {outcome : Option NciAnswer × Device} (performed : device.Performed ⟨group, code⟩ outcome) :
      Outcome device (.control .command more group code payload) outcome
  | credited {more : Bool} {payload : Octets} (after : Device) (active : device.PeerActive) :
      Outcome device (.data more Nci.staticConnection payload)
        (replyLeaving (Nci.Notification.credits Nci.staticConnection connectionCredits)
          (some ⟨.data, .linkData⟩), after)
  | misdirected {more : Bool} {connection : UInt8} {payload : Octets}
      (apart : ¬(connection = Nci.staticConnection ∧ device.PeerActive)) :
      Outcome device (.data more connection payload)
        (reply (Nci.Notification.interfaceError Status.semanticError.code connection), device)
  | ignored {type : Nci.MessageType} {more : Bool} {group code : UInt8} {payload : Octets}
      (foreign : type ≠ .command) :
      Outcome device (.control type more group code payload) (none, device)

theorem processData_outcome (device : Device) (more : Bool) (connection : UInt8)
    (payload : Octets) :
    device.Outcome (.data more connection payload) (device.processData connection payload) := by
  unfold processData
  cases peer : device.peerLink with
  | none =>
    refine .misdirected ?_
    rintro ⟨_, active⟩
    obtain ⟨link, present⟩ := peerLink_iff.mpr active
    rw [peer] at present
    cases present
  | some link =>
    dsimp only
    split
    · rename_i elsewhere
      exact .misdirected fun both => elsewhere both.1
    · rename_i static
      rw [not_not.mp static]
      exact .credited _ (peerLink_iff.mp ⟨link, peer⟩)

theorem processNci_outcome {packet : Packet} (read : Packet.decode bytes = .ok packet) :
    device.Outcome packet (device.processNci bytes) := by
  rw [processNci, read]
  cases packet with
  | data more connection payload => exact device.processData_outcome more connection payload
  | control type more group code payload =>
    cases type with
    | command =>
      apply Outcome.command
      dsimp only
      cases understood : Nci.Command.decode ⟨group, code⟩ payload with
      | error e => exact device.replyStatus_performed _ _
      | ok command =>
        exact device.execute_performed (Packet.bounds_of_decode read).2
          (Nci.Command.readFrom_of_decode understood)
    | data | response | notification => exact .ignored (by decide)

theorem processNci_unread {e : Error} (unread : Packet.decode bytes = .error e) :
    device.processNci bytes = (none, device) := by
  rw [processNci, unread]

/-! ### Answers -/

/-- The packet that answers a packet, and the delivery that may follow it. -/
inductive Matches (device : Device) : Packet → Packet → Option Delivery → Prop where
  | response {more : Bool} {group code : UInt8} {payload rest : Octets} {delivery : Option Delivery}
      (status : Status) (settled : delivery.isSome → status = .ok) :
      Matches device (.control .command more group code payload)
        (.control .response false group code (status.code :: rest)) delivery
  | credit {more : Bool} {payload : Octets} {delivery : Option Delivery}
      (active : device.PeerActive) :
      Matches device (.data more Nci.staticConnection payload)
        (Nci.Notification.credits Nci.staticConnection 1) delivery
  | refusal {more : Bool} {connection : UInt8} {payload : Octets}
      (apart : ¬(connection = Nci.staticConnection ∧ device.PeerActive)) :
      Matches device (.data more connection payload)
        (Nci.Notification.interfaceError Status.semanticError.code connection) none

theorem Performed.answer {opcode : Opcode} {outcome : Option NciAnswer × Device}
    (performed : device.Performed opcode outcome) :
    ∃ answer status rest, outcome.1 = some answer ∧
      answer.Carries (.response opcode (Status.code status :: rest)) ∧
        (answer.delivery.isSome → status = .ok) := by
  have carried (status : Status) {rest : Octets} (fits : rest.length < maxPayload)
      (delivery : Option Delivery) (settled : delivery.isSome → status = .ok) :
      ∃ answer status' rest',
        replyLeaving (.response opcode (status.code :: rest)) delivery = some answer ∧
          answer.Carries (.response opcode (Status.code status' :: rest')) ∧
            (answer.delivery.isSome → status' = .ok) := by
    obtain ⟨answer, replied, carries, rfl⟩ := sends_response opcode status fits delivery
    exact ⟨answer, status, rest, replied, carries, settled⟩
  cases performed with
  | carriedOut delivery after fits effective => exact carried .ok fits delivery fun _ => rfl
  | @stored status rest after fits setting => exact carried status fits none (by rintro ⟨⟩)
  | @answered status rest fits => exact carried status fits none (by rintro ⟨⟩)

theorem Outcome.answer {packet : Packet} {outcome : Option NciAnswer × Device}
    (result : device.Outcome packet outcome) (narrow : packet.Narrow)
    (asked : packet.type = .command ∨ packet.type = .data) :
    ∃ answer reply, outcome.1 = some answer ∧ answer.Carries reply ∧
      device.Matches packet reply answer.delivery := by
  cases result with
  | @command more group code payload _ performed =>
    obtain ⟨answer, status, rest, replied, carries, settled⟩ := performed.answer
    obtain ⟨_, low, short⟩ := narrow
    have own : Packet.response ⟨group, code⟩ (status.code :: rest) =
        .control .response false group code (status.code :: rest) := by
      rw [Packet.response, Packet.whole, low, short]
    rw [own] at carries
    exact ⟨answer, _, replied, carries, .response status settled⟩
  | credited after active =>
    obtain ⟨answer, replied, carries, _⟩ := sends_credits (some ⟨.data, .linkData⟩)
    exact ⟨answer, _, replied, carries, .credit active⟩
  | @misdirected more connection payload apart =>
    obtain ⟨answer, replied, carries, none⟩ := sends_interfaceError .semanticError connection
    refine ⟨answer, _, replied, carries, ?_⟩
    rw [none]
    exact .refusal apart
  | ignored foreign =>
    obtain ⟨control, _, _⟩ := narrow
    rcases asked with command | data
    · exact absurd command foreign
    · exact absurd data control

theorem Outcome.asked {packet : Packet} {outcome : Option NciAnswer × Device}
    (result : device.Outcome packet outcome) {answer : NciAnswer}
    (answered : outcome.1 = some answer) : packet.type = .command ∨ packet.type = .data := by
  cases result with
  | command performed => exact .inl rfl
  | credited after active => exact .inr rfl
  | misdirected apart => exact .inr rfl
  | ignored foreign => cases answered

theorem processNci_answered {answer : NciAnswer}
    (answered : (device.processNci bytes).1 = some answer) :
    ∃ packet reply, Packet.decode bytes = .ok packet ∧ answer.Carries reply ∧
      (packet.type = .command ∨ packet.type = .data) ∧
        device.Matches packet reply answer.delivery := by
  cases read : Packet.decode bytes with
  | error e =>
    rw [processNci_unread read] at answered
    cases answered
  | ok packet =>
    have result : device.Outcome packet (device.processNci bytes) := processNci_outcome read
    have asked := result.asked answered
    obtain ⟨other, reply, again, carries, suits⟩ :=
      result.answer (Packet.bounds_of_decode read).1 asked
    have same : answer = other := Option.some.inj (answered.symm.trans again)
    rw [same]
    exact ⟨packet, reply, rfl, carries, asked, suits⟩

theorem processNci_response {answer : NciAnswer}
    (answered : (device.processNci bytes).1 = some answer) :
    0 < answer.response.length ∧ answer.response.length ≤ packetBufferSize := by
  obtain ⟨packet, reply, _, carries, _⟩ := processNci_answered answered
  constructor
  · rw [carries.filled]
    exact Nat.add_pos_left (by decide) _
  · exact Nat.le_trans carries.fits (by decide)

theorem processHci_response {response : Octets}
    (answered : (device.processHci bytes).1 = some response) :
    0 < response.length ∧ response.length ≤ packetBufferSize := by
  unfold processHci at answered
  split at answered
  · cases answered
  · split at answered
    · cases answered
    · dsimp only at answered
      generalize Hci.Message.response _ _ _ = message at answered
      unfold Hci.Message.encode at answered
      extract_lets counted at answered
      split at answered
      · cases answered
      · rename_i short
        cases answered
        simp only [List.length_cons, packetBufferSize]
        omega

/-! ### Refusals -/

def Unchanged (device : Device) (outcome : Option NciAnswer × Device) : Prop :=
  outcome.2 = device ∧ ∀ answer, outcome.1 = some answer → answer.delivery = none

inductive Effective : Packet → Packet → Prop where
  | carriedOut {more : Bool} {group code : UInt8} {payload rest : Octets}
      (effective : (⟨group, code⟩ : Opcode) ≠ .coreGetConfig) :
      Effective (.control .command more group code payload)
        (.response ⟨group, code⟩ (Status.ok.code :: rest))
  | stored {more : Bool} {group code : UInt8} {payload rest : Octets}
      (setting : (⟨group, code⟩ : Opcode) = .coreSetConfig) :
      Effective (.control .command more group code payload) (.response .coreSetConfig rest)
  | credited {more : Bool} {connection : UInt8} {payload : Octets} :
      Effective (.data more connection payload)
        (Nci.Notification.credits Nci.staticConnection connectionCredits)

theorem reply_unchanged (device : Device) (packet : Packet) :
    device.Unchanged (reply packet, device) := by
  refine ⟨rfl, ?_⟩
  intro answer replied
  obtain ⟨response, _, rfl⟩ := Option.map_eq_some_iff.mp replied
  rfl

theorem silent_unchanged (device : Device) : device.Unchanged (none, device) :=
  ⟨rfl, by rintro _ ⟨⟩⟩

theorem Outcome.unchanged_or_effective {packet : Packet} {outcome : Option NciAnswer × Device}
    (result : device.Outcome packet outcome) :
    device.Unchanged outcome ∨ ∃ answer reply, outcome.1 = some answer ∧ answer.Carries reply ∧
      Effective packet reply := by
  cases result with
  | @command more group code payload _ performed =>
    cases performed with
    | carriedOut delivery after fits effective =>
      obtain ⟨answer, replied, carries, _⟩ := sends_response ⟨group, code⟩ .ok fits delivery
      exact .inr ⟨answer, _, replied, carries, .carriedOut effective⟩
    | @stored status rest after fits setting =>
      obtain ⟨answer, replied, carries, _⟩ := sends_response ⟨group, code⟩ status fits none
      refine .inr ⟨answer, _, replied, carries, ?_⟩
      rw [setting]
      exact .stored setting
    | answered fits => exact .inl (device.reply_unchanged _)
  | credited after active =>
    obtain ⟨answer, replied, carries, _⟩ := sends_credits (some ⟨.data, .linkData⟩)
    exact .inr ⟨answer, _, replied, carries, .credited⟩
  | misdirected apart => exact .inl (device.reply_unchanged _)
  | ignored foreign => exact .inl device.silent_unchanged

inductive Refused (device : Device) (bytes : Octets) : Prop where
  | unanswered (silent : (device.processNci bytes).1 = none)
  /-- The answer is a response with a status that is not good; the one to setting parameters may
  come after some of them were stored. -/
  | rejected {answer : NciAnswer} {more : Bool} {group code : UInt8} {payload : Octets}
      (answered : (device.processNci bytes).1 = some answer)
      (read : Packet.decode answer.response = .ok (.control .response more group code payload))
      (other : (⟨group, code⟩ : Opcode) ≠ .coreSetConfig)
      (failed : payload.head? ≠ some Status.ok.code)
  | misdirected {answer : NciAnswer} {more : Bool} {payload : Octets}
      (answered : (device.processNci bytes).1 = some answer)
      (read : Packet.decode answer.response =
        .ok (.control .notification more Opcode.coreInterfaceError.group
          Opcode.coreInterfaceError.code payload))
  | asked {more : Bool} {payload : Octets}
      (read : Packet.decode bytes =
        .ok (.control .command more Opcode.coreGetConfig.group Opcode.coreGetConfig.code payload))

theorem not_refused_of_effective {packet reply : Packet} {answer : NciAnswer}
    (read : Packet.decode bytes = .ok packet)
    (answered : (device.processNci bytes).1 = some answer) (carries : answer.Carries reply)
    (effective : Effective packet reply) : ¬device.Refused bytes := by
  intro refused
  cases refused with
  | unanswered silent =>
    rw [answered] at silent
    cases silent
  | rejected again heard other failed =>
    rw [← Option.some.inj (answered.symm.trans again), carries.read] at heard
    cases effective with
    | carriedOut effective =>
      cases heard
      exact failed rfl
    | stored setting =>
      cases heard
      exact other rfl
    | credited => cases heard
  | misdirected again heard =>
    rw [← Option.some.inj (answered.symm.trans again), carries.read] at heard
    cases effective with
    | carriedOut effective => cases heard
    | stored setting => cases heard
    | credited =>
      have code := (Packet.control.inj (Except.ok.inj heard)).2.2.2.1
      exact absurd code (by decide)
  | asked again =>
    rw [read] at again
    cases effective with
    | carriedOut effective =>
      cases again
      exact effective rfl
    | stored setting =>
      cases again
      exact absurd setting (by decide)
    | credited => cases again

/-- A packet that is refused changes nothing, however much of it was good, and leaves no delivery
behind. -/
theorem refused_unchanged (device : Device) {bytes : Octets} (refused : device.Refused bytes) :
    (device.processNci bytes).2 = device ∧
      ∀ answer, (device.processNci bytes).1 = some answer → answer.delivery = none := by
  cases read : Packet.decode bytes with
  | error e =>
    rw [processNci_unread read]
    exact device.silent_unchanged
  | ok packet =>
    have result : device.Outcome packet (device.processNci bytes) := processNci_outcome read
    rcases result.unchanged_or_effective with unchanged | ⟨answer, reply, answered, carries, effect⟩
    · exact unchanged
    · exact absurd refused (not_refused_of_effective read answered carries effect)

/-- Of two mappings the first would be applied, but the second names an interface that is not
offered. -/
theorem mixed_mappings_unchanged :
    let device := (ofEndpoints []).operateAll
      [.nci [0x20, 0x00, 0x01, 0x01], .nci [0x20, 0x01, 0x00]]
    let bytes : Octets := [0x21, 0x00, 0x07, 0x02, 0x02, 0x01, 0x03, 0x04, 0x01, 0x02]
    device.Refused bytes ∧ (device.processNci bytes).2 = device ∧
      ∀ answer, (device.processNci bytes).1 = some answer → answer.delivery = none := by
  intro device bytes
  have answered : (device.processNci bytes).1 = some ⟨[0x41, 0x00, 0x01, 0x01], none⟩ := by
    decide +kernel
  have refused : device.Refused bytes := .rejected answered rfl (by decide) (by decide)
  exact ⟨refused, device.refused_unchanged refused⟩

end NearField.Device
