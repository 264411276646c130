import NearField.Proofs.Device.ParameterMap
import NearField.Proofs.Nci.CommandCodec

/-!
Parameters taken from one device and set on another. Main statement: what a device answers when it
is asked for parameters can be sent to another one as a command to set them; the other device takes
all of them, keeps its other parameters, and answers the same from then on.
-/

namespace NearField.Device

open Nci (Command Opcode Packet Response.entries Status maxPayload)

section Reports

variable {setting : UInt8 → Option Octets} {ids : List UInt8} {entries : List (UInt8 × Octets)}

theorem report_ok_iff : report setting ids = (.ok, entries) ↔
    entries.map Prod.fst = ids ∧ ∀ entry ∈ entries, setting entry.1 = some entry.2 := by
  have listed : (ids.mapM fun id => (setting id).map (id, ·)) = some entries ↔
      entries.map Prod.fst = ids ∧ ∀ entry ∈ entries, setting entry.1 = some entry.2 := by
    induction ids generalizing entries with
    | nil =>
      rw [List.mapM_nil, List.map_eq_nil_iff]
      constructor
      · intro none
        cases none
        exact ⟨rfl, List.forall_mem_nil _⟩
      · rintro ⟨rfl, -⟩
        rfl
    | cons id ids ih =>
      simp only [List.mapM_cons, Option.bind_eq_bind, Option.bind_eq_some_iff, ih]
      constructor
      · rintro ⟨entry, first, others, ⟨named, agree⟩, made⟩
        obtain ⟨value, set, rfl⟩ := Option.map_eq_some_iff.mp first
        cases made
        exact ⟨congrArg (id :: ·) named, List.forall_mem_cons.mpr ⟨set, agree⟩⟩
      · rintro ⟨named, agree⟩
        obtain ⟨entry, others, rfl, rfl, rest⟩ := List.map_eq_cons_iff.mp named
        obtain ⟨set, agree⟩ := List.forall_mem_cons.mp agree
        exact ⟨entry, Option.map_eq_some_iff.mpr ⟨entry.2, set, rfl⟩, others, ⟨rest, agree⟩, rfl⟩
  rw [← listed, report]
  cases (ids.mapM fun id => (setting id).map (id, ·)) with
  | none => simp
  | some found => simp

theorem report_agreeing {other : UInt8 → Option Octets}
    (reported : report setting ids = (.ok, entries))
    (agree : ∀ id ∈ ids, other id = setting id) : report other ids = (.ok, entries) := by
  obtain ⟨named, values⟩ := report_ok_iff.mp reported
  refine report_ok_iff.mpr ⟨named, fun entry inside => ?_⟩
  have listed : entry.1 ∈ ids := by
    rw [← named]
    exact List.mem_map_of_mem inside
  rw [agree entry.1 listed]
  exact values entry inside

theorem reportPacket_ok {rest : Octets}
    (same : reportPacket (report setting ids) =
      .response .coreGetConfig (Status.ok.code :: rest)) :
    ∃ entries, report setting ids = (.ok, entries) ∧
      2 + (Response.entries entries).length ≤ maxPayload ∧
      rest = entries.length.toUInt8 :: Response.entries entries := by
  have payload := congrArg Packet.payload same
  rw [reportPacket] at payload
  split at payload
  · cases payload
  · rename_i fits
    obtain ⟨good, listed⟩ := List.cons.inj payload
    have status : (report setting ids).1 = .ok := by
      rw [report] at good ⊢
      split at good
      · rfl
      · cases good
    exact ⟨(report setting ids).2, Prod.ext status rfl, Nat.not_lt.mp fits, listed.symm⟩

end Reports

theorem accepted_of_param {configuration : Configuration} {entry : UInt8 × Octets}
    (set : configuration.param entry.1 = some entry.2) : accepted entry :=
  accepted_iff.mpr (Configuration.param_fits set)

/-- Entries that are all taken and agree with each other are all that storing them changes. -/
theorem storeParams_agreeing {setting : UInt8 → Option Octets} {params : List (UInt8 × Octets)}
    (taken : ∀ entry ∈ params, accepted entry)
    (agree : ∀ entry ∈ params, setting entry.1 = some entry.2) (configuration : Configuration) :
    (storeParams configuration params).1 = [] ∧
      ∀ id, (storeParams configuration params).2.param id =
        if id ∈ params.map Prod.fst then setting id else configuration.param id := by
  induction params generalizing configuration with
  | nil => exact ⟨rfl, fun id => by simp [storeParams]⟩
  | cons entry params ih =>
    obtain ⟨first, taken⟩ := List.forall_mem_cons.mp taken
    obtain ⟨value, agree⟩ := List.forall_mem_cons.mp agree
    obtain ⟨stored, done, own, others⟩ := setParam_taken configuration first
    obtain ⟨none, after⟩ := ih taken agree stored
    rw [storeParams, done]
    refine ⟨none, fun id => ?_⟩
    rw [after id, List.map_cons]
    by_cases later : id ∈ params.map Prod.fst
    · rw [if_pos later, if_pos (List.mem_cons_of_mem _ later)]
    · rw [if_neg later]
      by_cases same : entry.1 = id
      · rw [← same, if_pos List.mem_cons_self, own, value]
      · have absent : id ∉ entry.1 :: params.map Prod.fst := by
          rw [List.mem_cons, not_or]
          exact ⟨Ne.symm same, later⟩
        rw [if_neg absent, others id same]

theorem commandIn?_sent {opcode : Opcode} (narrow : opcode.group &&& 0x0f = opcode.group)
    (small : opcode.code &&& 0x3f = opcode.code) {payload bytes : Octets} {command : Command}
    (encoded : (Packet.command opcode payload).encode = .ok bytes)
    (read : Command.decode opcode payload = .ok command) (padding : Octets) :
    commandIn? (bytes ++ padding) = some command := by
  have control : Nci.MessageType.command ≠ .data := by decide
  have whole := Packet.decode_encode (Packet.whole_narrow control opcode payload) encoded padding
  rw [commandIn?, whole]
  simp only [Packet.whole, narrow, small]
  rw [read]
  rfl

theorem entries_sent {entries : List (UInt8 × Octets)}
    (fits : 2 + (Response.entries entries).length ≤ maxPayload) :
    ∃ setting, (Packet.command .coreSetConfig
        (entries.length.toUInt8 :: Response.entries entries)).encode = .ok setting ∧
      ∀ padding : Octets, commandIn? (setting ++ padding) = some (.coreSetConfig entries) := by
  obtain ⟨few, little⟩ := entries_small fits
  have announced : Command.Announced (.coreSetConfig entries)
      (entries.length.toUInt8 :: Response.entries entries) :=
    .params (UInt8.toNat_ofNat_of_lt' few) little
  have read := Command.decode_params_iff.mpr
    ⟨rfl, _, [], announced, (List.append_nil _).symm⟩
  have short : (entries.length.toUInt8 :: Response.entries entries).length ≤ maxPayload := by
    rw [List.length_cons]
    omega
  have encoded : (Packet.command .coreSetConfig _).encode = _ := Packet.encode_fits short
  exact ⟨_, encoded, commandIn?_sent (by decide) (by decide) encoded read⟩

/-- What a device answers with a good status when it is asked for parameters can be sent to any
other device as a command to set them. All of them are taken, nothing else of the other device is
changed, and from then on it answers the same. -/
theorem answer_written_back {source target : Device} (ready : source.state = .initialized)
    (waits : target.state = .initialized) {asking : Octets} {ids : List UInt8}
    (asks : commandIn? asking = some (.coreGetConfig ids)) {answer : NciAnswer} {rest : Octets}
    (answered : (source.processNci asking).1 = some answer)
    (carries : answer.Carries (.response .coreGetConfig (Status.ok.code :: rest))) :
    ∃ setting, (Packet.command .coreSetConfig rest).encode = .ok setting ∧ ∀ padding : Octets,
      let after := (target.processNci (setting ++ padding)).2
      (∃ taken, (target.processNci (setting ++ padding)).1 = some taken ∧
        taken.Carries (.response .coreSetConfig [Status.ok.code, 0])) ∧
      after = { target with configuration := after.configuration } ∧
      (∀ id, after.configuration.param id =
        if id ∈ ids then source.configuration.param id else target.configuration.param id) ∧
      ∀ repeating, commandIn? repeating = some (.coreGetConfig ids) →
        ∃ again, (after.processNci repeating).1 = some again ∧
          again.Carries (.response .coreGetConfig (Status.ok.code :: rest)) := by
  obtain ⟨given, replied, held⟩ := get_replied ready asks
  rw [replied] at answered
  cases answered
  have same := Except.ok.inj (held.read.symm.trans carries.read)
  obtain ⟨entries, reported, fits, rfl⟩ := reportPacket_ok same
  obtain ⟨named, agree⟩ := report_ok_iff.mp reported
  obtain ⟨setting, encoded, sent⟩ := entries_sent fits
  refine ⟨setting, encoded, fun padding => ?_⟩
  -- it takes all of them, since each has a value on the first device
  have taken (entry : UInt8 × Octets) (inside : entry ∈ entries) : accepted entry :=
    accepted_of_param (agree entry inside)
  obtain ⟨none, set⟩ := storeParams_agreeing taken agree target.configuration
  obtain ⟨-, stored, done, confirms⟩ := set_replied waits (sent padding) (Prod.ext none rfl)
  intro after
  have now : after = { target with configuration := _ } := congrArg Prod.snd done
  have holds (id : UInt8) : after.configuration.param id =
      if id ∈ ids then source.configuration.param id else target.configuration.param id := by
    rw [now, ← named]
    exact set id
  refine ⟨⟨stored, congrArg Prod.fst done, confirms⟩, by rw [now], holds, ?_⟩
  intro repeating asksAgain
  have still : after.state = .initialized := by
    rw [now]
    exact waits
  obtain ⟨again, replied, repeats⟩ := get_replied still asksAgain
  have unchanged : report after.configuration.param ids = (.ok, entries) :=
    report_agreeing reported fun id listed => by rw [holds, if_pos listed]
  rw [unchanged, ← reported, same] at repeats
  exact ⟨again, congrArg Prod.fst replied, repeats⟩

/-- The general octets of one device are asked for twice, with a parameter between that has no
value, and put in place of those of another. -/
theorem answer_written_back_twice :
    let source := (ofEndpoints []).operateAll [.nci [0x20, 0x00, 0x01, 0x01],
      .nci [0x20, 0x01, 0x00], .nci [0x20, 0x02, 0x06, 0x01, 0x29, 0x03, 0x46, 0x66, 0x6d]]
    let target := (ofEndpoints []).operateAll [.nci [0x20, 0x00, 0x01, 0x01],
      .nci [0x20, 0x01, 0x00], .nci [0x20, 0x02, 0x07, 0x02, 0x29, 0x01, 0x01, 0x32, 0x01, 0x20]]
    let asking : Octets := [0x20, 0x03, 0x04, 0x03, 0x29, 0x01, 0x29]
    let rest : Octets := [0x03, 0x29, 0x03, 0x46, 0x66, 0x6d, 0x01, 0x00, 0x29, 0x03, 0x46, 0x66,
      0x6d]
    (∃ answer, (source.processNci asking).1 = some answer ∧
      answer.Carries (.response .coreGetConfig (Status.ok.code :: rest))) ∧
    ∃ setting, (Packet.command .coreSetConfig rest).encode = .ok setting ∧
      let after := (target.processNci (setting ++ [])).2
      after.configuration.param 0x29 = some [0x46, 0x66, 0x6d] ∧
      after.configuration.param 0x32 = some [0x20] ∧
      ∃ again, (after.processNci asking).1 = some again ∧
        again.Carries (.response .coreGetConfig (Status.ok.code :: rest)) := by
  intro source target asking rest
  have ready : source.state = .initialized := by decide +kernel
  have waits : target.state = .initialized := by decide +kernel
  have asks : commandIn? asking = some (.coreGetConfig [0x29, 0x01, 0x29]) := by decide +kernel
  have answered : (source.processNci asking).1 =
      some ⟨0x40 :: 0x03 :: 0x0e :: 0x00 :: rest, none⟩ := by decide +kernel
  have carries : NciAnswer.Carries ⟨0x40 :: 0x03 :: 0x0e :: 0x00 :: rest, none⟩
      (.response .coreGetConfig (Status.ok.code :: rest)) := ⟨by decide, by decide, by decide⟩
  obtain ⟨setting, encoded, done⟩ := answer_written_back ready waits asks answered carries
  obtain ⟨-, -, holds, repeats⟩ := done []
  have first : source.configuration.param 0x29 = some [0x46, 0x66, 0x6d] := by decide +kernel
  have second : target.configuration.param 0x32 = some [0x20] := by decide +kernel
  exact ⟨⟨_, answered, carries⟩, setting, encoded, (holds 0x29).trans first,
    (holds 0x32).trans second, repeats asking asks⟩

end NearField.Device
