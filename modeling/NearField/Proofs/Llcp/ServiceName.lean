import NearField.Proofs.Llcp.Isolation
import NearField.Proofs.Llcp.Vocabulary
import Mathlib.Data.List.Forall2

/-!
Services by their names. Main statements: questions for names are answered all together and in
their order, as long as they are no more than sixty-three, and otherwise not at all; and asking for
a connection by name comes to the same as asking for it at the access point that a question for the
name is answered with.
-/

namespace NearField.Llcp

def Param.question? : Param → Option (UInt8 × Octets)
  | sdreq tid name => some (tid, name)
  | _ => none

namespace LogicalLink

/-- The access point that a name stands for: the least that it is bound to, or zero if there is
none. -/
def Denotes (link : LogicalLink) (name : Octets) (value : UInt8) : Prop :=
  (∃ sap : Sap, sap.value = value ∧ link.services.get? sap = some name ∧
    ∀ other : Sap, link.services.get? other = some name → sap.value ≤ other.value) ∨
  value = 0 ∧ ∀ sap : Sap, link.services.get? sap ≠ some name

variable {link : LogicalLink} {name : Octets} {sap : Sap}

theorem lookup_least (found : link.lookup name = some sap) :
    link.services.get? sap = some name ∧
      ∀ other : Sap, link.services.get? other = some name → sap.value ≤ other.value := by
  obtain ⟨⟨key, value⟩, first, rfl⟩ := Option.map_eq_some_iff.mp found
  obtain ⟨stored, passed⟩ := Table.first?_get? first
  rw [eq_of_beq passed] at stored
  refine ⟨stored, fun other bound => ?_⟩
  by_contra below
  rw [UInt8.not_le, UInt8.lt_iff_toNat_lt] at below
  have failed := Table.first?_least first bound below
  rw [beq_self_eq_true] at failed
  cases failed

theorem lookup_bound (found : link.lookup name = some sap) : link.isBound sap = true := by
  rw [isBound, Table.contains, (lookup_least found).1]
  rfl

theorem lookup_none_iff :
    link.lookup name = none ↔ ∀ sap : Sap, link.services.get? sap ≠ some name := by
  rw [lookup, Option.map_eq_none_iff, Table.first?, List.find?_eq_none]
  constructor
  · intro others sap bound
    exact others (sap, name) (Table.mem_entries_iff.mpr bound) (beq_self_eq_true name)
  · intro unbound entry inside same
    have stored := Table.mem_entries_iff.mp (show (entry.1, entry.2) ∈ _ from inside)
    exact unbound entry.1 (eq_of_beq same ▸ stored)

def meaning (link : LogicalLink) (name : Octets) : UInt8 :=
  ((link.lookup name).map Sap.value).getD 0

theorem meaning_denotes (link : LogicalLink) (name : Octets) :
    link.Denotes name (link.meaning name) := by
  rw [meaning]
  cases found : link.lookup name with
  | none => exact .inr ⟨rfl, lookup_none_iff.mp found⟩
  | some sap =>
    obtain ⟨bound, least⟩ := lookup_least found
    exact .inl ⟨sap, rfl, bound, least⟩

theorem meaning_narrow (link : LogicalLink) (name : Octets) : link.meaning name < 64 := by
  rw [meaning]
  cases link.lookup name with
  | none => decide
  | some sap => exact sap.value_lt

variable {pdu : Pdu} {params : List Param}

/-- Whether a parameter answers a question: it repeats the identifier and gives what the name stands
for. -/
def AnswersQuestion (link : LogicalLink) (question : UInt8 × Octets) (answer : Param) : Prop :=
  ∃ value, answer = .sdres question.1 value ∧ link.Denotes question.2 value

/-- Whether octets answer questions for names in one PDU, from discovery to the one who asked. -/
def AnswersAll (link : LogicalLink) (peer : Sap) (questions : List (UInt8 × Octets))
    (bytes : Octets) : Prop :=
  ∃ info answers,
    Pdu.decode bytes = .ok { dsap := peer, type := .snl, ssap := .discovery, info } ∧
    Param.parseAll info = .ok answers ∧ List.Forall₂ link.AnswersQuestion questions answers

theorem answer_question (link : LogicalLink) (param : Param) :
    link.answer? param =
      param.question?.map fun question => .sdres question.1 (link.meaning question.2) := by
  cases param <;> rfl

/-- The answers that are written are read as the answers to the questions, one by one. -/
theorem answers_forall (link : LogicalLink) (questions : List (UInt8 × Octets)) :
    List.Forall₂ link.AnswersQuestion questions
      ((questions.map fun question => Param.sdres question.1 (link.meaning question.2)).map
        Param.normal) := by
  rw [List.map_map, List.forall₂_map_right_iff, List.forall₂_same]
  intro question _
  refine ⟨_, ?_, link.meaning_denotes question.2⟩
  change Param.sdres question.1 (_ % 64) = _
  rw [mod_of_lt (link.meaning_narrow question.2)]

theorem answers_eq (link : LogicalLink) (params : List Param) :
    params.filterMap link.answer? = (params.filterMap Param.question?).map fun question =>
      .sdres question.1 (link.meaning question.2) := by
  rw [List.map_filterMap]
  exact congrArg (List.filterMap · params) (funext link.answer_question)

theorem receivePdu_lookup (link : LogicalLink) (type : pdu.type = .snl)
    (read : Param.parseAll pdu.info = .ok params) (asked : params.filterMap Param.question? ≠ []) :
    ∃ info, Param.encodeAll (params.filterMap link.answer?) = .ok info ∧
      info.length = 4 * (params.filterMap Param.question?).length ∧
      link.receivePdu pdu =
        link.queueControl { dsap := pdu.ssap, type := .snl, ssap := .discovery, info } := by
  obtain ⟨info, encoded, size⟩ := Param.encodeAll_answers (link.answers_all params)
  refine ⟨info, encoded, ?_, ?_⟩
  · rw [size, answers_eq, List.length_map]
  · have several : params.filterMap link.answer? ≠ [] := by
      rw [answers_eq]
      simpa using asked
    cases answers : params.filterMap link.answer? with
    | nil => exact absurd answers several
    | cons first others =>
      rw [answers] at encoded
      rw [receivePdu, type]
      simp only [receiveLookup, read, answers, encoded]

theorem receive_few (link : LogicalLink) {bytes : Octets} (decoded : Pdu.decode bytes = .ok pdu)
    (type : pdu.type = .snl) (read : Param.parseAll pdu.info = .ok params)
    (asked : params.filterMap Param.question? ≠ [])
    (few : (params.filterMap Param.question?).length ≤ 63) :
    ∃ answer, link.AnswersAll pdu.ssap (params.filterMap Param.question?) answer ∧
      link.receive bytes = (.ok (), { link with control := link.control ++ [answer] }) := by
  obtain ⟨info, encoded, size, receives⟩ := link.receivePdu_lookup type read asked
  have fits : info.length ≤ 254 := by omega
  have written := decode_plain pdu.ssap .discovery .snl info rfl fits
  have again := Param.parseAll_encodeAll encoded
  rw [answers_eq] at again
  refine ⟨_, ⟨info, _, written, again, link.answers_forall _⟩, ?_⟩
  rw [link.receive_read decoded, receives, queueControl, Pdu.encode_plain rfl rfl,
    encodeWithInfo_ok _ _ _ _ fits]

theorem receive_many (link : LogicalLink) {bytes : Octets} (decoded : Pdu.decode bytes = .ok pdu)
    (type : pdu.type = .snl) (read : Param.parseAll pdu.info = .ok params)
    (many : 63 < (params.filterMap Param.question?).length) :
    link.receive bytes = (.error (.invalidLength 256
      (2 + 4 * (params.filterMap Param.question?).length)), link) := by
  have asked : params.filterMap Param.question? ≠ [] := by
    intro none
    rw [none] at many
    cases many
  obtain ⟨info, encoded, size, receives⟩ := link.receivePdu_lookup type read asked
  have whole : (header pdu.ssap .snl .discovery ++ info).length =
      2 + 4 * (params.filterMap Param.question?).length := by
    rw [List.length_append, length_header, size]
  have long : maxPduLength < 2 + 4 * (params.filterMap Param.question?).length := by
    rw [maxPduLength]
    omega
  rw [link.receive_read decoded, receives, queueControl, Pdu.encode_plain rfl rfl, encodeWithInfo,
    bounded, whole, if_pos long]
  rfl

/-- Questions for names are answered all in one PDU, in their order and with what each name stands
for, and nothing else changes, as long as they are no more than sixty-three. More of them, which a
PDU has room for, are not answered at all: the answer would be too long, and receiving fails. -/
theorem questions_answered (link : LogicalLink) (bytes : Octets) (pdu : Pdu) (params : List Param)
    (decoded : Pdu.decode bytes = .ok pdu) (type : pdu.type = .snl)
    (read : Param.parseAll pdu.info = .ok params)
    (asked : params.filterMap Param.question? ≠ []) :
    let questions := params.filterMap Param.question?
    (questions.length ≤ 63 → ∃ answer, link.AnswersAll pdu.ssap questions answer ∧
      link.receive bytes = (.ok (), { link with control := link.control ++ [answer] })) ∧
    (63 < questions.length →
      link.receive bytes = (.error (.invalidLength 256 (2 + 4 * questions.length)), link)) :=
  ⟨link.receive_few decoded type read asked, link.receive_many decoded type read⟩

/-- A question for the default server and one for a name that nothing is bound to, with a parameter
between them that asks for nothing. -/
theorem questions_answered_snep :
    let bytes := header .discovery .snl (.masked 32) ++
      ([0x08, 0x10, 0x07] ++ snepName ++ [0x04, 0x01, 0x64] ++ [0x08, 0x02, 0x08, 0x78])
    let params : List Param := [.sdreq 7 snepName, .lto 100, .sdreq 8 [0x78]]
    let pdu : Pdu := ⟨.discovery, .snl, .masked 32, none, bytes.drop 2⟩
    Pdu.decode bytes = .ok pdu ∧ Param.parseAll pdu.info = .ok params ∧
      ∃ answer, new.AnswersAll (.masked 32) [(7, snepName), (8, [0x78])] answer ∧
        new.receive bytes = (.ok (), { new with control := [answer] }) := by
  intro bytes params pdu
  have decoded : Pdu.decode bytes = .ok pdu := by decide +kernel
  have read : Param.parseAll pdu.info = .ok params := by decide +kernel
  have asked : params.filterMap Param.question? ≠ [] := by decide
  have answered := questions_answered new bytes pdu params decoded rfl read asked
  exact ⟨decoded, read, answered.1 (by decide)⟩

def questioning (count : Nat) : Octets :=
  header .discovery .snl (.masked 32) ++
    (List.range count).flatMap fun tid => [0x08, 0x01, tid.toUInt8]

/-- Sixty-four questions are fewer octets than a PDU may have, and none of them is answered. -/
theorem sixty_four_unanswered :
    (questioning 64).length = 194 ∧
      (∃ pdu params, Pdu.decode (questioning 64) = .ok pdu ∧ pdu.type = .snl ∧
        Param.parseAll pdu.info = .ok params ∧
        params = (List.range 64).map fun tid => Param.sdreq tid.toUInt8 []) ∧
      new.receive (questioning 64) = (.error (.invalidLength 256 258), new) := by
  let pdu : Pdu := ⟨.discovery, .snl, .masked 32, none, (questioning 64).drop 2⟩
  let params := (List.range 64).map fun tid => Param.sdreq tid.toUInt8 []
  have decoded : Pdu.decode (questioning 64) = .ok pdu := by decide +kernel
  have read : Param.parseAll pdu.info = .ok params := by decide +kernel
  have count : (params.filterMap Param.question?).length = 64 := by decide +kernel
  refine ⟨by decide +kernel, ⟨pdu, params, decoded, rfl, read, rfl⟩, ?_⟩
  have failed := new.receive_many decoded rfl read (by omega)
  rw [count] at failed
  exact failed

theorem Denotes.unique {value other : UInt8} (one : link.Denotes name value)
    (two : link.Denotes name other) : value = other := by
  rcases one with ⟨sap, rfl, bound, least⟩ | ⟨rfl, unbound⟩
  · rcases two with ⟨sap', rfl, bound', least'⟩ | ⟨rfl, unbound⟩
    · exact UInt8.le_antisymm (least sap' bound') (least' sap bound)
    · exact absurd bound (unbound sap)
  · rcases two with ⟨sap, rfl, bound, _⟩ | ⟨rfl, _⟩
    · exact absurd bound (unbound sap)
    · rfl

/-- Whether a lookup that asks for a name only is answered with an access point, whoever asks and
whatever the identifier. A name may be too long for any lookup. -/
def ReportsFor (link : LogicalLink) (name : Octets) (value : UInt8) : Prop :=
  ∀ (dsap ssap : Sap) (tid : UInt8) (info bytes : Octets),
    Param.encodeAll [.sdreq tid name] = .ok info →
    Pdu.encode { dsap, type := .snl, ssap, info } = .ok bytes →
    ∃ answer info,
      Pdu.decode answer = .ok { dsap := ssap, type := .snl, ssap := .discovery, info } ∧
      Param.parseAll info = .ok [.sdres tid value] ∧
      link.receive bytes = (.ok (), { link with control := link.control ++ [answer] })

theorem Denotes.reported {value : UInt8} (denotes : link.Denotes name value) :
    link.ReportsFor name value := by
  intro dsap ssap tid info bytes encoded written
  have read := Param.parseAll_encodeAll encoded
  have plain : (⟨dsap, .snl, ssap, none, info⟩ : Pdu).encode = .ok bytes := written
  have fits : info.length ≤ 254 := by
    by_contra long
    rw [Pdu.encode_plain rfl rfl, encodeWithInfo, bounded, if_pos] at plain
    · cases plain
    · rw [List.length_append, length_header, maxPduLength]
      change 256 < 2 + info.length
      omega
  rw [Pdu.encode_plain rfl rfl, encodeWithInfo_ok _ _ _ _ fits] at plain
  have decoded := decode_plain dsap ssap .snl info rfl fits
  rw [Except.ok.inj plain] at decoded
  obtain ⟨answer, ⟨answering, answers, carried, again, all⟩, received⟩ :=
    link.receive_few decoded rfl read (by simp [Param.normal, Param.question?])
      (by simp [Param.normal, Param.question?])
  refine ⟨answer, answering, carried, ?_, received⟩
  change List.Forall₂ _ [(tid, name)] answers at all
  obtain ⟨single, rest, ⟨found, rfl, here⟩, none, rfl⟩ := List.forall₂_cons_left_iff.mp all
  rw [List.forall₂_nil_left_iff.mp none, here.unique denotes] at again
  exact again

theorem handle_dsap (dataLink : DataLink) (pdu : Pdu) (dsap : Sap) :
    dataLink.handle { pdu with dsap } = dataLink.handle pdu := rfl

theorem receivePdu_target (type : pdu.type = .connect)
    (target : link.connectTarget pdu = .ok (some sap)) :
    link.receivePdu pdu = (((link.linkAt ⟨sap, pdu.ssap⟩).handle pdu).1,
      link.store ⟨sap, pdu.ssap⟩ ((link.linkAt ⟨sap, pdu.ssap⟩).handle pdu).2) := by
  rw [receivePdu, type]
  exact receiveConnect_handle link pdu type target

variable {info : Octets} {ssap : Sap}

theorem target_named (read : Param.parseAll info = .ok params)
    (first : serviceName? params = some name) (type : PduType) :
    link.connectTarget { dsap := .discovery, type, ssap, info } = .ok (link.lookup name) := by
  rw [connectTarget, if_pos rfl, read]
  change Except.ok ((serviceName? params).bind link.lookup) = _
  rw [first]
  rfl

theorem target_bound (bound : link.isBound sap = true) (other : sap ≠ .discovery)
    (type : PduType) :
    link.connectTarget { dsap := sap, type, ssap, info } = .ok (some sap) := by
  rw [connectTarget, if_neg other, if_pos bound]

theorem Unserved.two_le (unserved : link.Unserved) (bound : link.isBound sap = true) :
    2 ≤ sap.value := by
  have zero : sap ≠ .linkManagement := by
    rintro rfl
    rw [unserved.linkManagement] at bound
    cases bound
  have one : sap ≠ .discovery := by
    rintro rfl
    rw [unserved.discovery] at bound
    cases bound
  have first : sap.value.toNat ≠ 0 := fun same => zero (Sap.ext (UInt8.toNat_inj.mp same))
  have second : sap.value.toNat ≠ 1 := fun same => one (Sap.ext (UInt8.toNat_inj.mp same))
  rw [UInt8.le_iff_toNat_le]
  change 2 ≤ sap.value.toNat
  omega

/-- A name that is looked up as an access point leads to the same connection as the access point. -/
theorem receive_named (read : Param.parseAll info = .ok params)
    (first : serviceName? params = some name) (fits : info.length ≤ 254)
    (found : link.lookup name = some sap) (other : sap ≠ .discovery) :
    link.receive (header .discovery .connect ssap ++ info) =
      link.receive (header sap .connect ssap ++ info) := by
  have decoded (dsap : Sap) := decode_plain dsap ssap .connect info rfl fits
  have named : link.connectTarget ⟨.discovery, .connect, ssap, none, info⟩ = .ok (some sap) := by
    rw [target_named read first, found]
  have direct : link.connectTarget ⟨sap, .connect, ssap, none, info⟩ = .ok (some sap) :=
    target_bound (lookup_bound found) other .connect
  rw [link.receive_read (decoded _), link.receive_read (decoded _), receivePdu_target rfl named,
    receivePdu_target rfl direct]
  exact congrArg (fun outcome => (outcome.1, link.store ⟨sap, ssap⟩ outcome.2))
    (handle_dsap _ ⟨sap, .connect, ssap, none, info⟩ .discovery)

theorem receive_unnamed (read : Param.parseAll info = .ok params)
    (first : serviceName? params = some name) (fits : info.length ≤ 254)
    (unbound : link.lookup name = none) :
    ∃ refusal,
      Pdu.decode refusal = .ok { dsap := ssap, type := .dm, ssap := .discovery, info := [0x02] } ∧
      link.receive (header .discovery .connect ssap ++ info) =
        (.ok (), { link with control := link.control ++ [refusal] }) := by
  have decoded := decode_plain .discovery ssap .connect info rfl fits
  have named : link.connectTarget ⟨.discovery, .connect, ssap, none, info⟩ = .ok none := by
    rw [target_named read first, unbound]
  refine ⟨_, decode_plain ssap .discovery .dm [0x02] rfl (by simp), ?_⟩
  rw [link.receive_read decoded, receivePdu]
  simp only [receiveConnect, named, queueDisconnected_eq]
  rfl

/-- Asking for a connection by name comes to the same as asking for it at the access point that the
name stands for and that a question for it is answered with, which is neither link management nor
discovery. A name that nothing is bound to is refused, and zero is the answer to a question. -/
theorem connect_by_name (window : UInt8) (uses : List LogicalUse) (ssap : Sap) (info : Octets)
    (params : List Param) (name : Octets) (fits : info.length ≤ 254)
    (read : Param.parseAll info = .ok params) (first : serviceName? params = some name) :
    let link := (new.offering window).useAll uses
    ((∃ sap : Sap, link.services.get? sap = some name) →
      ∃ sap : Sap, 2 ≤ sap.value ∧ link.Denotes name sap.value ∧ link.ReportsFor name sap.value ∧
        link.receive (header .discovery .connect ssap ++ info) =
          link.receive (header sap .connect ssap ++ info)) ∧
    ((∀ sap : Sap, link.services.get? sap ≠ some name) →
      link.ReportsFor name 0 ∧ ∃ refusal,
        Pdu.decode refusal =
          .ok { dsap := ssap, type := .dm, ssap := .discovery, info := [0x02] } ∧
        link.receive (header .discovery .connect ssap ++ info) =
          (.ok (), { link with control := link.control ++ [refusal] })) := by
  intro link
  have unserved : link.Unserved := useAll_unserved ⟨rfl, rfl⟩ uses
  have denotes := link.meaning_denotes name
  constructor
  · rintro ⟨bound, stored⟩
    cases found : link.lookup name with
    | none => exact absurd stored (lookup_none_iff.mp found bound)
    | some sap =>
      have high := unserved.two_le (lookup_bound found)
      have apart : sap ≠ .discovery := by
        rintro rfl
        exact absurd high (by decide)
      rw [meaning, found] at denotes
      exact ⟨sap, high, denotes, denotes.reported, receive_named read first fits found apart⟩
  · intro none
    have unbound := lookup_none_iff.mpr none
    rw [meaning, unbound] at denotes
    exact ⟨denotes.reported, receive_unnamed read first fits unbound⟩

/-- A name that is bound to two access points, asked for behind another parameter: the lower one
answers. -/
theorem connect_by_name_twice_bound :
    let uses : List LogicalUse := [.operate (.bind (.masked 17) [0x61]),
      .operate (.bind (.masked 16) [0x61])]
    let link := (new.offering 4).useAll uses
    let info : Octets := [0x05, 0x01, 0x03, 0x06, 0x01, 0x61]
    let params : List Param := [.rw 3, .sn [0x61]]
    Param.parseAll info = .ok params ∧ serviceName? params = some [0x61] ∧
      link.services.get? (.masked 17) = some [0x61] ∧
      ∃ sap : Sap, 2 ≤ sap.value ∧ link.Denotes [0x61] sap.value ∧
        link.ReportsFor [0x61] sap.value ∧
        link.receive (header .discovery .connect (.masked 32) ++ info) =
          link.receive (header sap .connect (.masked 32) ++ info) := by
  intro uses link info params
  have read : Param.parseAll info = .ok params := by decide +kernel
  have bound : link.services.get? (.masked 17) = some [0x61] := by decide +kernel
  have reached := connect_by_name 4 uses (.masked 32) info params [0x61] (by decide) read rfl
  exact ⟨read, rfl, bound, reached.1 ⟨_, bound⟩⟩

end LogicalLink

end NearField.Llcp
