import HostnameSandbox.OuterStage
import Mathlib.Data.List.Induction
import Mathlib.Logic.Function.Basic

/-!
# Setting up outer stages

An outer stage is made with the standard settings and can be given others and be copied, as often as
one likes and in any order.  Each of its settings is the one that it was given last: no step on one
setting touches another, and none on one stage another stage.  Of the settings the verbosity alone
goes into the arguments by which the program is started again, and it can be told from them, as the
command can.
-/

namespace HostnameSandbox

namespace OuterStage

/-! ### Settings -/

/-- What can be set of an outer stage. -/
inductive Setting where
  | isolation
  | streams
  | verbose
deriving DecidableEq

namespace Setting

/-- What a setting may be. -/
def Value : Setting → Type
  | .isolation => Isolation
  | .streams => Streams
  | .verbose => Bool

/-- The setting that a stage has. -/
def read : (setting : Setting) → OuterStage → setting.Value
  | .isolation, stage => stage.isolation
  | .streams, stage => stage.streams
  | .verbose, stage => stage.verbose

/-- A new UTS namespace, the caller's own streams, no verbosity. -/
def standard : (setting : Setting) → setting.Value
  | .isolation => (⟨true⟩ : Isolation)
  | .streams => (⟨.inherit, .inherit, .inherit⟩ : Streams)
  | .verbose => false

/-- The stage with another setting. -/
def write : (setting : Setting) → setting.Value → OuterStage → OuterStage
  | .isolation, value, stage => stage.withIsolation value
  | .streams, value, stage => stage.withStreams value
  | .verbose, value, stage => stage.withVerbose value

variable {setting other : Setting}

@[simp]
theorem read_new (setting : Setting) (executable : Executable) :
    setting.read (new executable) = setting.standard := by
  cases setting <;> rfl

@[simp]
theorem read_write (setting : Setting) (value : setting.Value) (stage : OuterStage) :
    setting.read (setting.write value stage) = value := by
  cases setting <;> rfl

theorem read_write_of_ne (different : setting ≠ other) (value : other.Value) (stage : OuterStage) :
    setting.read (other.write value stage) = setting.read stage := by
  cases setting <;> cases other <;> first | exact absurd rfl different | rfl

theorem write_comm (different : setting ≠ other) (value : setting.Value)
    (another : other.Value) (stage : OuterStage) :
    setting.write value (other.write another stage) =
      other.write another (setting.write value stage) := by
  cases setting <;> cases other <;> first | exact absurd rfl different | rfl

end Setting

/-! ### Steps -/

/-- A step in setting up stages that go by names. -/
inductive Step (Name : Type) where
  /-- A new stage takes the name. -/
  | make (name : Name) (executable : Executable)
  /-- The stage of the name is given a setting. -/
  | set (name : Name) (setting : Setting) (value : setting.Value)
  /-- A copy of a stage takes the name. -/
  | copy (original name : Name)

variable {Name : Type}

namespace Step

/-- The name of the stage that a step is about. -/
def name : Step Name → Name
  | .make name _ => name
  | .set name _ _ => name
  | .copy _ name => name

/-- The stage of a name has a setting from this step, whatever came before. -/
def Decides (name : Name) (setting : Setting) : Step Name → Prop
  | .make made _ => made = name
  | .set changed other _ => changed = name ∧ other = setting
  | .copy _ copied => copied = name

variable [DecidableEq Name]

/-- The stages after a step. -/
def act (stages : Name → OuterStage) : Step Name → Name → OuterStage
  | .make name executable => Function.update stages name (new executable)
  | .set name setting value => Function.update stages name (setting.write value (stages name))
  | .copy original name => Function.update stages name (stages original)

variable {step : Step Name} {steps : List (Step Name)} {stages : Name → OuterStage} {name : Name}
  {setting : Setting}

theorem act_of_ne (other : step.name ≠ name) : step.act stages name = stages name := by
  cases step <;> exact Function.update_of_ne (Ne.symm other) _ _

theorem read_act (undecided : ¬ step.Decides name setting) :
    setting.read (step.act stages name) = setting.read (stages name) := by
  by_cases same : step.name = name
  · cases step with
    | make made executable => exact absurd same undecided
    | copy original copied => exact absurd same undecided
    | set changed other value =>
        obtain rfl : changed = name := same
        have different : setting ≠ other := fun same => undecided ⟨rfl, same.symm⟩
        rw [act, Function.update_self, Setting.read_write_of_ne different]
  · rw [act_of_ne same]

theorem foldl_act_of_ne (other : ∀ step ∈ steps, step.name ≠ name) :
    steps.foldl act stages name = stages name := by
  induction steps generalizing stages with
  | nil => rfl
  | cons step steps hypothesis =>
      obtain ⟨first, later⟩ := List.forall_mem_cons.1 other
      rw [List.foldl_cons, hypothesis later, act_of_ne first]

theorem read_foldl_act (undecided : ∀ step ∈ steps, ¬ step.Decides name setting) :
    setting.read (steps.foldl act stages name) = setting.read (stages name) := by
  induction steps generalizing stages with
  | nil => rfl
  | cons step steps hypothesis =>
      obtain ⟨first, later⟩ := List.forall_mem_cons.1 undecided
      rw [List.foldl_cons, hypothesis later, read_act first]

end Step

/-! ### Sequences of steps -/

/-- A setting that a stage was given last, or with which it was made, if none was given since.  What
a copy was given before is what its original was given. -/
inductive LastSet : List (Step Name) → Name → (setting : Setting) → setting.Value → Prop
  | untouched {steps : List (Step Name)} {name : Name} {setting : Setting}
      (undecided : ∀ step ∈ steps, ¬ step.Decides name setting) :
      LastSet steps name setting setting.standard
  | made {earlier later : List (Step Name)} {name : Name} {setting : Setting}
      {executable : Executable} (undecided : ∀ step ∈ later, ¬ step.Decides name setting) :
      LastSet (earlier ++ .make name executable :: later) name setting setting.standard
  | set {earlier later : List (Step Name)} {name : Name} {setting : Setting}
      {value : setting.Value} (undecided : ∀ step ∈ later, ¬ step.Decides name setting) :
      LastSet (earlier ++ .set name setting value :: later) name setting value
  | copied {earlier later : List (Step Name)} {original name : Name} {setting : Setting}
      {value : setting.Value} (before : LastSet earlier original setting value)
      (undecided : ∀ step ∈ later, ¬ step.Decides name setting) :
      LastSet (earlier ++ .copy original name :: later) name setting value

theorem LastSet.concat {steps : List (Step Name)} {name : Name} {setting : Setting}
    {value : setting.Value} (last : LastSet steps name setting value) {next : Step Name}
    (undecided : ¬ next.Decides name setting) : LastSet (steps ++ [next]) name setting value := by
  have also {later : List (Step Name)} (still : ∀ step ∈ later, ¬ step.Decides name setting) :
      ∀ step ∈ later ++ [next], ¬ step.Decides name setting :=
    List.forall_mem_append.2 ⟨still, List.forall_mem_singleton.2 undecided⟩
  cases last with
  | untouched still => exact .untouched (also still)
  | made still => simpa using LastSet.made (also still)
  | set still => simpa using LastSet.set (also still)
  | copied before still => simpa using LastSet.copied before (also still)

variable [DecidableEq Name] {executables : Name → Executable} {steps : List (Step Name)}
  {name : Name} {setting : Setting} {value : setting.Value}

/-- The stages after some steps, if all of them are new at first. -/
def setUp (executables : Name → Executable) (steps : List (Step Name)) : Name → OuterStage :=
  steps.foldl Step.act fun name => new (executables name)

theorem setUp_append_cons (executables : Name → Executable) (earlier later : List (Step Name))
    (step : Step Name) : setUp executables (earlier ++ step :: later) =
      later.foldl Step.act (step.act (setUp executables earlier)) := by
  rw [setUp, List.foldl_append, List.foldl_cons]
  rfl

theorem LastSet.read_setUp (last : LastSet steps name setting value)
    (executables : Name → Executable) : setting.read (setUp executables steps name) = value := by
  induction last with
  | untouched undecided => rw [setUp, Step.read_foldl_act undecided, Setting.read_new]
  | made undecided =>
      rw [setUp_append_cons, Step.read_foldl_act undecided, Step.act, Function.update_self,
        Setting.read_new]
  | set undecided =>
      rw [setUp_append_cons, Step.read_foldl_act undecided, Step.act, Function.update_self,
        Setting.read_write]
  | copied before undecided hypothesis =>
      rw [setUp_append_cons, Step.read_foldl_act undecided, Step.act, Function.update_self,
        hypothesis]

theorem lastSet_read_setUp (executables : Name → Executable) (steps : List (Step Name))
    (name : Name) (setting : Setting) :
    LastSet steps name setting (setting.read (setUp executables steps name)) := by
  induction steps using List.reverseRecOn generalizing name with
  | nil =>
      rw [setUp, List.foldl_nil, Setting.read_new]
      exact .untouched nofun
  | append_singleton steps step hypothesis =>
      rw [setUp_append_cons, List.foldl_nil]
      by_cases decides : step.Decides name setting
      · cases step with
        | make made executable =>
            obtain rfl : made = name := decides
            rw [Step.act, Function.update_self, Setting.read_new]
            exact .made nofun
        | set changed other value =>
            obtain ⟨rfl, rfl⟩ : changed = name ∧ other = setting := decides
            rw [Step.act, Function.update_self, Setting.read_write]
            exact .set nofun
        | copy original copied =>
            obtain rfl : copied = name := decides
            rw [Step.act, Function.update_self]
            exact .copied (hypothesis original) nofun
      · rw [Step.read_act decides]
        exact (hypothesis name).concat decides

/-- The setting of a stage is the one that it was given last. -/
theorem lastSet_iff : LastSet steps name setting value ↔
    setting.read (setUp executables steps name) = value := by
  constructor
  · intro last
    exact last.read_setUp executables
  · rintro rfl
    exact lastSet_read_setUp executables steps name setting

/-- Two settings are given independently of each other, be they of one stage or of two. -/
theorem setUp_exchange {first second : Name} {one other : Setting}
    (different : first = second → one ≠ other) (executables : Name → Executable)
    (earlier later : List (Step Name)) (value : one.Value) (another : other.Value) :
    setUp executables (earlier ++ .set first one value :: .set second other another :: later) =
      setUp executables
        (earlier ++ .set second other another :: .set first one value :: later) := by
  rw [setUp_append_cons, setUp_append_cons, List.foldl_cons, List.foldl_cons]
  congr 1
  simp only [Step.act]
  by_cases same : first = second
  · subst same
    simp only [Function.update_self, Function.update_idem, Setting.write_comm (different rfl)]
  · rw [Function.update_of_ne (Ne.symm same), Function.update_of_ne same,
      Function.update_comm same]

/-! ### Arguments -/

/-- The verbosity and the command are all that makes the arguments, and both can be told from
them. -/
theorem arguments_eq_iff {one other : OuterStage} {command another : Command} :
    one.arguments command = other.arguments another ↔
      one.verbose = other.verbose ∧ command = another := by
  constructor
  · intro same
    have told : one.verbose = other.verbose ∧ command.words = another.words := by
      have distinct : Bytes.ofString Stage.inner.word ≠ verboseWord := by decide
      unfold arguments at same
      cases first : one.verbose with
      | false =>
          cases second : other.verbose with
          | false => simpa [first, second] using same
          | true => simp [first, second, distinct] at same
      | true =>
          cases second : other.verbose with
          | false => simp [first, second, distinct.symm] at same
          | true => simpa [first, second] using same
    have made := Command.ofWords_words another
    rw [← told.2, Command.ofWords_words] at made
    exact ⟨told.1, Except.ok.inj made⟩
  · rintro ⟨sameVerbose, rfl⟩
    rw [arguments, arguments, sameVerbose]

/-- Stages are set up and copied independently of one another, and each setting independently of the
others. -/
structure SetUpIndependently (executables : Name → Executable) : Prop where
  /-- Every setting of every stage is the one that it was given last, the standard one if none was
  given since the stage was made. -/
  last : ∀ (steps : List (Step Name)) (name : Name) (setting : Setting) (value : setting.Value),
    LastSet steps name setting value ↔ setting.read (setUp executables steps name) = value
  /-- Of two steps that give different settings either may come first. -/
  exchange : ∀ (earlier later : List (Step Name)) (first second : Name) (one other : Setting)
    (value : one.Value) (another : other.Value), (first = second → one ≠ other) →
    setUp executables (earlier ++ .set first one value :: .set second other another :: later) =
      setUp executables (earlier ++ .set second other another :: .set first one value :: later)
  /-- A copy stays what its original was, whatever becomes of that. -/
  copied : ∀ (earlier later : List (Step Name)) (original copy : Name),
    (∀ step ∈ later, step.name ≠ copy) →
    setUp executables (earlier ++ .copy original copy :: later) copy =
      setUp executables earlier original
  /-- An original stays what it was, whatever becomes of its copy. -/
  original : ∀ (earlier later : List (Step Name)) (original copy : Name), original ≠ copy →
    (∀ step ∈ later, step.name ≠ original) →
    setUp executables (earlier ++ .copy original copy :: later) original =
      setUp executables earlier original
  /-- Arguments are the same exactly for the same verbosity and the same command. -/
  arguments : ∀ (one other : OuterStage) (command another : Command),
    one.arguments command = other.arguments another ↔
      one.verbose = other.verbose ∧ command = another

/-- Whatever is set of stages that are made and copied, in whatever order, none is touched by what
is done to another, and no setting by what is done to another. -/
theorem setUp_independently (executables : Name → Executable) :
    SetUpIndependently executables where
  last _ _ _ _ := lastSet_iff
  exchange earlier later _ _ _ _ value another different :=
    setUp_exchange different executables earlier later value another
  copied earlier later original copy others := by
    rw [setUp_append_cons, Step.foldl_act_of_ne others, Step.act, Function.update_self]
  original earlier later original copy different others := by
    have elsewhere : (Step.copy original copy).name ≠ original := different.symm
    rw [setUp_append_cons, Step.foldl_act_of_ne others, Step.act_of_ne elsewhere]
  arguments _ _ _ _ := arguments_eq_iff

/-- A stage that is muted and made verbose. -/
def beforeCopy : List (Step Bool) :=
  [.make false .running, .set false .streams .discarded, .set false .verbose true]

/-- The same stage with other settings, and then a new one in its place. -/
def afterCopy : List (Step Bool) :=
  [.set false .verbose false, .set false .isolation .none, .make false (.path [0x78]),
    .set false .streams .inherited]

/-- A copy that is made in between stays as it was. -/
theorem copied_afterCopy :
    (∀ step ∈ afterCopy, step.name ≠ true) ∧
      setUp (fun _ => .running) (beforeCopy ++ .copy false true :: afterCopy) true =
        ⟨.running, .standard, .discarded, true⟩ := by
  have others : ∀ step ∈ afterCopy, step.name ≠ true := by decide
  have stays :=
    (setUp_independently fun _ => .running).copied beforeCopy afterCopy false true others
  exact ⟨others, stays.trans rfl⟩

end OuterStage

end HostnameSandbox
