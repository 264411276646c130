import NearField.Hci.Pipes
import NearField.Proofs.Hci.Message
import NearField.Proofs.Octets
import NearField.Proofs.Table

/-!
Open pipes and their parameters as what the commands that succeeded have made of them. Main
statement: a command keeps the pipes in step with the events, is answered by them, and has no
effect on another pipe.
-/

namespace NearField.Hci

/-- What changes pipes: a reset of the controller, and the commands on a pipe that succeed. -/
inductive PipeEvent where
  | reset
  | opened (pipe : UInt8)
  | closed (pipe : UInt8)
  | stored (pipe index : UInt8) (value : Octets)
deriving DecidableEq, Repr

def PipeEvent.ofCommand (command : Message) : Option PipeEvent :=
  match Instruction.ofCode command.instruction, command.data with
  | .openPipe, _ => some (.opened command.pipe)
  | .closePipe, _ => some (.closed command.pipe)
  | .setParameter, index :: value => some (.stored command.pipe index value)
  | _, _ => none

/-- The event ends what a pipe was used for. -/
def PipeEvent.Ends (pipe : UInt8) : PipeEvent → Prop
  | .reset => True
  | .closed other => other = pipe
  | _ => False

/-- The event ends the time of a parameter's value. -/
def PipeEvent.Outdates (pipe index : UInt8) (event : PipeEvent) : Prop :=
  event.Ends pipe ∨ ∃ value, event = .stored pipe index value

/-- An event is among others, and no later one ends its effect. -/
def Stands (event : PipeEvent) (ends : PipeEvent → Prop) (events : List PipeEvent) : Prop :=
  ∃ before after, events = before ++ event :: after ∧ ∀ later ∈ after, ¬ends later

/-- The pipe was opened after it was last closed and after the last reset. -/
def OpenedIn (events : List PipeEvent) (pipe : UInt8) : Prop :=
  Stands (.opened pipe) (PipeEvent.Ends pipe) events

/-- The value is the last one that was stored since the pipe was last closed and the last reset. -/
def StoredIn (events : List PipeEvent) (pipe index : UInt8) (value : Octets) : Prop :=
  Stands (.stored pipe index value) (PipeEvent.Outdates pipe index) events

section Stands

variable {event other : PipeEvent} {ends : PipeEvent → Prop} {events : List PipeEvent}

theorem stands_nil : ¬Stands event ends [] := by
  rintro ⟨before, after, eq, _⟩
  cases before <;> cases eq

/-- A further event stands itself, or it does not end what stood before. -/
theorem stands_append :
    Stands event ends (events ++ [other]) ↔
      other = event ∨ (Stands event ends events ∧ ¬ends other) := by
  constructor
  · rintro ⟨before, after, eq, quiet⟩
    rcases List.eq_nil_or_concat after with rfl | ⟨after, last, rfl⟩
    · obtain ⟨_, final⟩ := List.append_inj' eq rfl
      cases final
      exact .inl rfl
    · rw [List.concat_eq_append, ← List.cons_append, ← List.append_assoc] at eq
      rw [List.concat_eq_append] at quiet
      obtain ⟨earlier, final⟩ := List.append_inj' eq rfl
      cases final
      refine .inr ⟨⟨before, after, earlier, fun later inside => ?_⟩, ?_⟩
      · exact quiet later (List.mem_append_left _ inside)
      · exact quiet other (List.mem_append_right _ List.mem_cons_self)
  · rintro (rfl | ⟨⟨before, after, rfl, quiet⟩, harmless⟩)
    · exact ⟨events, [], rfl, by rintro _ ⟨⟩⟩
    · refine ⟨before, after ++ [other], by rw [List.append_assoc, List.cons_append], ?_⟩
      intro later inside
      rcases List.mem_append.mp inside with earlier | last
      · exact quiet later earlier
      · rw [List.mem_singleton.mp last]
        exact harmless

end Stands

namespace Pipes

variable {pipes : Pipes} {pipe other : UInt8}

theorem toNat_low (inside : pipe < 128) : (pipe &&& 0x7f).toNat = pipe.toNat := by
  rw [(keeps_low_iff pipe 7 rfl rfl).mpr inside]

theorem isOpen_eq (pipes : Pipes) (inside : pipe < 128) :
    pipes.isOpen pipe = (pipe ≤ 1 || pipes.opened.getLsbD pipe.toNat) := by
  have place : pipe.toNat < 128 := UInt8.lt_iff_toNat_lt.mp inside
  have single : BitVec.twoPow 128 pipe.toNat ≠ 0#128 := by
    intro zero
    have bit := congrArg (fun bits => bits.getLsbD pipe.toNat) zero
    simp [place] at bit
  rw [isOpen, bit, toNat_low inside, BitVec.and_twoPow]
  cases pipes.opened.getLsbD pipe.toNat <;> simp [single]

theorem isOpen_openPipe (inside : pipe < 128) (valid : other < 128) :
    (pipes.openPipe pipe).isOpen other = (pipe = other || pipes.isOpen other) := by
  have place : other.toNat < 128 := UInt8.lt_iff_toNat_lt.mp valid
  rw [isOpen_eq _ valid, isOpen_eq _ valid, openPipe, bit, toNat_low inside, BitVec.getLsbD_or,
    BitVec.getLsbD_twoPow]
  by_cases same : pipe = other
  · simp [same, place]
  · have apart : pipe.toNat ≠ other.toNat := fun eq => same (UInt8.toNat_inj.mp eq)
    simp [same, apart]

theorem isOpen_closePipe (inside : pipe < 128) (valid : other < 128) :
    (pipes.closePipe pipe).isOpen other = (other ≤ 1 || (pipe ≠ other && pipes.isOpen other)) := by
  have place : other.toNat < 128 := UInt8.lt_iff_toNat_lt.mp valid
  rw [isOpen_eq _ valid, isOpen_eq _ valid, closePipe, bit, toNat_low inside, BitVec.getLsbD_and,
    BitVec.getLsbD_not, BitVec.getLsbD_twoPow]
  by_cases same : pipe = other
  · simp [same, place]
  · have apart : pipe.toNat ≠ other.toNat := fun eq => same (UInt8.toNat_inj.mp eq)
    by_cases static : other ≤ 1 <;> simp [same, apart, place, static]

theorem isOpen_initial (inside : pipe < 128) : initial.isOpen pipe = decide (pipe ≤ 1) := by
  rw [isOpen_eq _ inside]
  simp [initial]

theorem param_insert (pipe index : UInt8) (value : Octets) (other place : UInt8) :
    param { pipes with params := pipes.params.insert ⟨pipe, index⟩ value } other place =
      if pipe = other ∧ index = place then some value else pipes.param other place := by
  rw [param, param]
  by_cases same : pipe = other ∧ index = place
  · obtain ⟨rfl, rfl⟩ := same
    rw [if_pos ⟨rfl, rfl⟩]
    exact Table.get?_insert_self _ _ _
  · rw [if_neg same]
    apply Table.get?_insert_of_ne
    rintro ⟨⟩
    exact same ⟨rfl, rfl⟩

theorem param_closePipe (pipe other index : UInt8) :
    (pipes.closePipe pipe).param other index =
      if other = pipe then none else pipes.param other index := by
  rw [param, param, closePipe, Table.get?_filterKeys]
  by_cases same : other = pipe <;> simp [same]

theorem param_initial (pipe index : UInt8) : initial.param pipe index = none := rfl

/-! ### Following events -/

/-- The pipes are what events have made of them, and parameters are stored for open pipes only. -/
structure Follows (pipes : Pipes) (events : List PipeEvent) : Prop where
  opened : ∀ pipe < 128, pipes.isOpen pipe ↔ pipe ≤ 1 ∨ OpenedIn events pipe
  params : ∀ pipe index value, pipes.param pipe index = some value ↔
    StoredIn events pipe index value
  stored : ∀ pipe index value, pipes.param pipe index = some value →
    pipe < 128 ∧ pipes.isOpen pipe ∧ value.length ≤ 252

section Follows

variable {events : List PipeEvent}

theorem initial_follows : initial.Follows [] where
  opened pipe inside := by
    rw [isOpen_initial inside, decide_eq_true_iff]
    exact ⟨.inl, fun either => either.resolve_right stands_nil⟩
  params pipe index value := by
    rw [param_initial]
    exact ⟨by rintro ⟨⟩, fun stands => absurd stands stands_nil⟩
  stored pipe index value found := by
    rw [param_initial] at found
    cases found

theorem reset_follows (events : List PipeEvent) : initial.Follows (events ++ [.reset]) where
  opened pipe inside := by
    rw [initial_follows.opened pipe inside, OpenedIn, OpenedIn, stands_append]
    simp [stands_nil, PipeEvent.Ends]
  params pipe index value := by
    rw [initial_follows.params pipe index value, StoredIn, StoredIn, stands_append]
    simp [stands_nil, PipeEvent.Outdates, PipeEvent.Ends]
  stored := initial_follows.stored

theorem open_follows (follows : pipes.Follows events) (inside : pipe < 128) :
    (pipes.openPipe pipe).Follows (events ++ [.opened pipe]) where
  opened other valid := by
    rw [isOpen_openPipe inside valid, Bool.or_eq_true, follows.opened other valid, OpenedIn,
      OpenedIn, stands_append, decide_eq_true_iff, PipeEvent.opened.injEq]
    simp only [PipeEvent.Ends, not_false_eq_true, and_true]
    exact or_left_comm
  params other index value := by
    rw [StoredIn, stands_append]
    simp only [reduceCtorEq, PipeEvent.Outdates, PipeEvent.Ends, exists_false, or_self,
      not_false_eq_true, and_true, false_or]
    exact follows.params other index value
  stored other index value found := by
    obtain ⟨valid, opened, short⟩ := follows.stored other index value found
    refine ⟨valid, ?_, short⟩
    rw [isOpen_openPipe inside valid, opened, Bool.or_true]

theorem close_follows (follows : pipes.Follows events) (inside : pipe < 128) :
    (pipes.closePipe pipe).Follows (events ++ [.closed pipe]) where
  opened other valid := by
    have before := follows.opened other valid
    rw [isOpen_closePipe inside valid, OpenedIn, stands_append, PipeEvent.Ends]
    rw [OpenedIn] at before
    by_cases same : pipe = other <;> simp [same, before]
  params other index value := by
    have before := follows.params other index value
    rw [param_closePipe, StoredIn, stands_append]
    rw [StoredIn] at before
    simp only [reduceCtorEq, PipeEvent.Outdates, PipeEvent.Ends, exists_false, or_false, false_or]
    by_cases same : other = pipe
    · simp [same]
    · simp [same, before, Ne.symm same]
  stored other index value found := by
    rw [param_closePipe] at found
    split at found
    · cases found
    · rename_i apart
      obtain ⟨valid, opened, short⟩ := follows.stored other index value found
      refine ⟨valid, ?_, short⟩
      rw [isOpen_closePipe inside valid]
      simp [opened, Ne.symm apart]

theorem store_follows (follows : pipes.Follows events) (inside : pipe < 128)
    (opened : pipes.isOpen pipe) (index : UInt8) {value : Octets} (short : value.length ≤ 252) :
    Follows { pipes with params := pipes.params.insert ⟨pipe, index⟩ value }
      (events ++ [.stored pipe index value]) where
  opened other valid := by
    rw [OpenedIn, stands_append]
    simp only [reduceCtorEq, PipeEvent.Ends, not_false_eq_true, and_true, false_or]
    exact follows.opened other valid
  params other place found := by
    have before := follows.params other place found
    rw [param_insert, StoredIn, stands_append]
    rw [StoredIn] at before
    by_cases same : pipe = other ∧ index = place
    · obtain ⟨rfl, rfl⟩ := same
      simp [PipeEvent.Outdates]
    · simp [same, before, PipeEvent.Outdates, PipeEvent.Ends]
      tauto
  stored other place found stored := by
    rw [param_insert] at stored
    split at stored
    · rename_i same
      cases stored
      obtain ⟨rfl, rfl⟩ := same
      exact ⟨inside, opened, short⟩
    · exact follows.stored other place found stored

end Follows

/-! ### Commands -/

def NeedsOpen (instruction : Instruction) : Prop :=
  instruction = .setParameter ∨ instruction = .getParameter ∨ instruction = .closePipe

/-- The ways a command on a pipe can go: its response and the pipes afterwards. -/
inductive Executed (pipes : Pipes) (command : Message) : ResponseCode × Octets × Pipes → Prop where
  | opens (instructed : Instruction.ofCode command.instruction = .openPipe) :
      Executed pipes command (.ok, [], pipes.openPipe command.pipe)
  | closes (instructed : Instruction.ofCode command.instruction = .closePipe)
      (opened : pipes.isOpen command.pipe) :
      Executed pipes command (.ok, [], pipes.closePipe command.pipe)
  | stores {index : UInt8} {value : Octets}
      (instructed : Instruction.ofCode command.instruction = .setParameter)
      (opened : pipes.isOpen command.pipe) (data : command.data = index :: value) :
      Executed pipes command
        (.ok, [], { pipes with params := pipes.params.insert ⟨command.pipe, index⟩ value })
  | finds {index : UInt8} {rest value : Octets}
      (instructed : Instruction.ofCode command.instruction = .getParameter)
      (opened : pipes.isOpen command.pipe) (data : command.data = index :: rest)
      (found : pipes.param command.pipe index = some value) :
      Executed pipes command (.ok, value, pipes)
  | misses {index : UInt8} {rest : Octets}
      (instructed : Instruction.ofCode command.instruction = .getParameter)
      (opened : pipes.isOpen command.pipe) (data : command.data = index :: rest)
      (absent : pipes.param command.pipe index = none) :
      Executed pipes command (.registerUnknown, [], pipes)
  | unindexed {code : ResponseCode} (opened : pipes.isOpen command.pipe) (data : command.data = [])
      (failed : code ≠ .ok ∧ code ≠ .pipeNotOpened) : Executed pipes command (code, [], pipes)
  | shut (instructed : NeedsOpen (Instruction.ofCode command.instruction))
      (closed : ¬pipes.isOpen command.pipe) : Executed pipes command (.pipeNotOpened, [], pipes)
  | unsupported (instructed : Instruction.ofCode command.instruction = .other) :
      Executed pipes command (.notSupported, [], pipes)

theorem execute_executed (pipes : Pipes) (command : Message) :
    pipes.Executed command (pipes.execute command) := by
  unfold execute
  cases instructed : Instruction.ofCode command.instruction with
  | openPipe => exact .opens instructed
  | other => exact .unsupported instructed
  | closePipe =>
    dsimp only
    split
    · rename_i opened
      exact .closes instructed opened
    · rename_i closed
      exact .shut (.inr (.inr instructed)) closed
  | setParameter =>
    dsimp only
    split
    · rename_i closed
      exact .shut (.inl instructed) (by simpa using closed)
    · rename_i opened
      rw [Bool.not_eq_true', Bool.not_eq_false] at opened
      cases data : command.data with
      | nil => exact .unindexed opened data (by decide)
      | cons index value => exact .stores instructed opened data
  | getParameter =>
    dsimp only
    split
    · rename_i closed
      exact .shut (.inr (.inl instructed)) (by simpa using closed)
    · rename_i opened
      rw [Bool.not_eq_true', Bool.not_eq_false] at opened
      cases data : command.data with
      | nil => exact .unindexed opened data (by decide)
      | cons index rest =>
        simp only [List.head?_cons, Option.bind_some]
        cases found : pipes.param command.pipe index with
        | none => exact .misses instructed opened data found
        | some value => exact .finds instructed opened data found

section Commands

variable {events : List PipeEvent} {command : Message} {outcome : ResponseCode × Octets × Pipes}

/-- How a command that needs an open pipe, or asks for a parameter, is answered. -/
structure Answers (pipes : Pipes) (events : List PipeEvent) (command : Message)
    (code : ResponseCode) (data : Octets) : Prop where
  notOpened : NeedsOpen (Instruction.ofCode command.instruction) →
    (code = .pipeNotOpened ↔ ¬pipes.isOpen command.pipe)
  asked : ∀ index rest, Instruction.ofCode command.instruction = .getParameter →
    command.data = index :: rest → pipes.isOpen command.pipe →
      (code = .ok ∧ StoredIn events command.pipe index data) ∨
        (code = .registerUnknown ∧ data = [] ∧
          ∀ value, ¬StoredIn events command.pipe index value)

def succeeded (command : Message) (code : ResponseCode) : List PipeEvent :=
  if code = .ok then (PipeEvent.ofCommand command).toList else []

theorem Executed.follows (executed : pipes.Executed command outcome)
    (follows : pipes.Follows events) (inside : command.pipe < 128)
    (short : command.data.length ≤ 253) :
    outcome.2.2.Follows (events ++ succeeded command outcome.1) := by
  cases executed with
  | opens instructed =>
    simp only [succeeded, if_true, PipeEvent.ofCommand, instructed]
    exact open_follows follows inside
  | closes instructed opened =>
    simp only [succeeded, if_true, PipeEvent.ofCommand, instructed]
    exact close_follows follows inside
  | @stores index value instructed opened data =>
    have fits : value.length ≤ 252 := by
      rw [data, List.length_cons] at short
      omega
    simp only [succeeded, if_true, PipeEvent.ofCommand, instructed, data]
    exact store_follows follows inside opened index fits
  | finds instructed opened data found =>
    simp only [succeeded, if_true, PipeEvent.ofCommand, instructed]
    rw [Option.toList_none, List.append_nil]
    exact follows
  | unindexed opened data failed =>
    rw [succeeded, if_neg failed.1, List.append_nil]
    exact follows
  | misses | shut | unsupported =>
    simp only [succeeded, reduceCtorEq, if_false, List.append_nil]
    exact follows

theorem Executed.answers (executed : pipes.Executed command outcome)
    (follows : pipes.Follows events) :
    Answers pipes events command outcome.1 outcome.2.1 := by
  cases executed with
  | opens instructed =>
    constructor
    · simp [NeedsOpen, instructed]
    · simp [instructed]
  | closes instructed opened =>
    constructor
    · simp [opened]
    · simp [instructed]
  | stores instructed opened data =>
    constructor
    · simp [opened]
    · simp [instructed]
  | @finds index rest value instructed opened data found =>
    constructor
    · simp [opened]
    · intro place others _ same _
      rw [data] at same
      cases same
      exact .inl ⟨rfl, (follows.params _ _ _).mp found⟩
  | @misses index rest instructed opened data absent =>
    constructor
    · simp [opened]
    · intro place others _ same _
      rw [data] at same
      cases same
      refine .inr ⟨rfl, rfl, fun value stands => ?_⟩
      rw [(follows.params _ _ _).mpr stands] at absent
      cases absent
  | unindexed opened data failed =>
    constructor
    · simp [opened, failed.2]
    · intro place others _ same _
      rw [data] at same
      cases same
  | shut instructed closed =>
    constructor
    · simp [closed]
    · intro place others _ _ opened
      exact absurd opened closed
  | unsupported instructed =>
    constructor
    · simp [NeedsOpen, instructed]
    · simp [instructed]

theorem Executed.fits (executed : pipes.Executed command outcome)
    (follows : pipes.Follows events) : outcome.2.1.length ≤ 253 := by
  cases executed with
  | finds instructed opened data found =>
    exact Nat.le_succ_of_le (follows.stored _ _ _ found).2.2
  | _ => exact Nat.zero_le _

theorem Executed.leaves_other (executed : pipes.Executed command outcome)
    (inside : command.pipe < 128) (valid : other < 128) (apart : other ≠ command.pipe) :
    outcome.2.2.isOpen other = pipes.isOpen other ∧
      ∀ index, outcome.2.2.param other index = pipes.param other index := by
  cases executed with
  | opens instructed =>
    refine ⟨?_, fun _ => rfl⟩
    rw [isOpen_openPipe inside valid]
    simp [Ne.symm apart]
  | closes instructed opened =>
    refine ⟨?_, fun index => ?_⟩
    · rw [isOpen_closePipe inside valid, isOpen_eq _ valid]
      simp [Ne.symm apart]
    · rw [param_closePipe, if_neg apart]
  | @stores index value instructed opened data =>
    refine ⟨rfl, fun place => ?_⟩
    rw [param_insert, if_neg fun same => apart same.1.symm]
  | _ => exact ⟨rfl, fun _ => rfl⟩

end Commands

end Pipes

end NearField.Hci
