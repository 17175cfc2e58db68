import HostnameSandbox.Host.Machine
import HostnameSandbox.Proofs.Launching.Birth
import HostnameSandbox.Proofs.Launching.Execution

/-!
# What a request for namespaces changes

The outer stage does the same whether or not it asks for a new namespace, but for the request
itself.  A host that may create the namespace gives the child a copy of the names then, and the
child does not ignore the signals that the C library keeps for itself.  Nothing else changes where
the file at the path is a program or names its interpreter.  A text in no format of its own is
refused without the namespace, and handed to the shell with it.
-/

namespace HostnameSandbox

/-- The request for the same child with other namespaces. -/
def Spawning.within (spawning : Spawning) (isolation : Isolation) : Spawning :=
  { spawning with isolation, reactions := startingReactions isolation }

/-! ### Loading -/

namespace Loading

variable {attempt interpret : Bytes → Except Errno Loaded}

/-- A search finds the same by two ways of loading a file if they differ on texts in no format
only, unless it comes to such a text. -/
theorem search_eq_or
    (alike : ∀ path, attempt path = .error .badFormat ∨ interpret path = attempt path)
    (name : Bytes) (denied : Bool) (latest : Errno) (directories : List Bytes) :
    search attempt name denied latest directories = .error .badFormat ∨
      search interpret name denied latest directories =
        search attempt name denied latest directories := by
  induction directories generalizing denied latest with
  | nil => exact .inr rfl
  | cons directory rest hypothesis =>
      simp only [search]
      rcases alike (if directory.isEmpty then name else directory ++ FileTree.slash :: name) with
        refused | same
      · rw [refused]
        exact .inl rfl
      · rw [same]
        split
        · exact .inr rfl
        · split
          · exact hypothesis _ _
          · exact .inr rfl

theorem locate_eq_or
    (alike : ∀ path, attempt path = .error .badFormat ∨ interpret path = attempt path)
    (directories : List Bytes) (name : Bytes) :
    locate attempt directories name = .error .badFormat ∨
      locate interpret directories name = locate attempt directories name := by
  unfold locate
  split
  · exact .inr rfl
  · split
    · exact alike name
    · split
      · exact .inr rfl
      · exact search_eq_or alike name false .noEntry directories

theorem loadOrInterpret_eq_or (files : FileTree) (luggage : Luggage) (origin : Place)
    (words : List Bytes) (path : Bytes) :
    load files luggage origin path words = .error .badFormat ∨
      loadOrInterpret files luggage origin path words = load files luggage origin path words := by
  unfold loadOrInterpret
  cases load files luggage origin path words with
  | ok loaded => exact .inr rfl
  | error errno =>
      by_cases bad : errno = .badFormat
      · exact .inl (congrArg Except.error bad)
      · exact .inr (if_neg bad)

end Loading

namespace Kernel

variable {kernel : Kernel} {task : Task} {spawning : Spawning}

theorem loadChild_within (privileged : task.privileged = true) (spawning : Spawning) :
    kernel.loadChild task (spawning.within .none) = .error .badFormat ∨
      kernel.loadChild task (spawning.within .standard) =
        kernel.loadChild task (spawning.within .none) := by
  simp only [loadChild, privileged, Spawning.within, Isolation.hasAny, Isolation.standard,
    Isolation.none, if_true, Bool.false_eq_true, if_false]
  exact Loading.locate_eq_or (Loading.loadOrInterpret_eq_or _ _ _ _) _ _

/-- A text in no format that is found by its path is handed to the shell with a new namespace. -/
theorem loadChild_standard_of_badFormat (privileged : task.privileged = true)
    (slash : spawning.path.contains FileTree.slash = true)
    (refused : kernel.loadChild task (spawning.within .none) = .error .badFormat) :
    kernel.loadChild task (spawning.within .standard) =
      Loading.load (kernel.view task) (kernel.luggage task task.environment) task.directory
        Loading.shellPath (Loading.shellPath :: spawning.path :: spawning.args) := by
  simp only [loadChild, privileged, Spawning.within, Isolation.hasAny, Isolation.standard,
    Isolation.none, if_true, Bool.false_eq_true, if_false, Loading.locate, slash] at refused ⊢
  split at refused
  · cases refused
  · next named =>
      rw [if_neg named]
      simp only [Loading.loadOrInterpret, refused, if_true, List.tail_cons]

/-! ### The child -/

/-- What a child does about a signal that it was given a reaction to, and else what its parent
leaves it. -/
theorem find?_reactions (reactions survivors : List (Signal × Reaction)) (signal : Signal) :
    (reactions ++ survivors.filter fun entry =>
        !reactions.any fun other => other.1 = entry.1).find? (fun entry => entry.1 = signal) =
      (reactions.find? fun entry => entry.1 = signal).or
        (survivors.find? fun entry => entry.1 = signal) := by
  rw [List.find?_append, List.find?_filter]
  cases given : reactions.find? fun entry => entry.1 = signal with
  | some entry => rfl
  | none =>
      have others := List.find?_eq_none.1 given
      refine congrArg (Option.or none) (congrArg (fun wanted => survivors.find? wanted) ?_)
      funext entry
      by_cases same : entry.1 = signal
      · have free : (reactions.any fun other => other.1 = entry.1) = false := by
          rw [same]
          exact List.any_eq_false.2 others
        rw [free]
        simp [same]
      · simp [same]

/-- Only about the signals that the C library keeps for itself, a child does something else. -/
theorem reactionTo_within (loaded : Loaded) {signal : Signal} (own : signal ∉ Signal.reserved) :
    (kernel.childOf task (spawning.within .standard) loaded).reactionTo signal =
      (kernel.childOf task (spawning.within .none) loaded).reactionTo signal := by
  have given : (startingReactions .standard).find? (fun entry => entry.1 = signal) =
      (startingReactions .none).find? (fun entry => entry.1 = signal) := by
    simp only [Signal.reserved, List.mem_cons, List.not_mem_nil, or_false, not_or] at own
    simp [startingReactions, Isolation.hasAny, Isolation.standard, Isolation.none,
      Signal.reserved, List.find?_cons, Ne.symm own.1, Ne.symm own.2]
  have found (isolation : Isolation) :
      (kernel.childOf task (spawning.within isolation) loaded).reactions.find?
          (fun entry => entry.1 = signal) =
        ((startingReactions isolation).find? fun entry => entry.1 = signal).or
          (task.survivingReactions.find? fun entry => entry.1 = signal) :=
    find?_reactions _ _ _
  simp only [Task.reactionTo, found, given]

theorem starting_with (kernel : Kernel) (task : Task) (uts : Nat)
    (reactions : List (Signal × Reaction)) (environment : Environment) (loaded : Loaded) :
    kernel.starting { task with uts, reactions } environment loaded =
      { kernel.starting task environment loaded with uts, reactions } := by
  have same := free?_congr { task with uts, reactions } task rfl rfl 0
  simp only [starting, same]

/-- A child with a new namespace is the one without, but for the namespace and what it does about
signals. -/
theorem childOf_within (kernel : Kernel) (task : Task) (spawning : Spawning) (loaded : Loaded) :
    kernel.childOf task (spawning.within .standard) loaded =
      { kernel.childOf task (spawning.within .none) loaded with
        uts := kernel.names.length
        reactions := (kernel.childOf task (spawning.within .standard) loaded).reactions } := by
  have number : (kernel.childFiles task spawning.streams).2.names.length = kernel.names.length :=
    congrArg List.length (sameCompany_childFiles kernel task spawning.streams).names
  rw [← number]
  exact starting_with (kernel.childFiles task spawning.streams).2
    (kernel.newborn task (spawning.within .none)) _ _ _ _

end Kernel

/-! ### The request -/

/-- Two children are the same but for the namespace, and for what they do about the signals that
the C library keeps for itself. -/
structure Task.SameElsewhere (isolated plain : Task) : Prop where
  same : isolated = { plain with uts := isolated.uts, reactions := isolated.reactions }
  reactionTo : ∀ signal, signal ∉ Signal.reserved →
    isolated.reactionTo signal = plain.reactionTo signal

/-- What a host makes of a request with a new namespace is what it makes of the request without,
but for the namespace of the child. -/
structure Kernel.SameElsewhere (kernel : Kernel) (task : Task)
    (isolated plain : Except Cause Pid × Kernel) : Prop where
  reply : isolated.1 = plain.1
  refused : ∀ {cause}, plain.1 = .error cause → isolated.2 = plain.2
  created : ∀ {pid}, plain.1 = .ok pid → ∃ child other,
    plain.2.tasks = kernel.tasks ++ [child] ∧ child.pid = pid ∧ child.uts = task.uts ∧
    isolated.2 = { plain.2 with
      names := kernel.names ++ [kernel.namesFor task]
      tasks := kernel.tasks ++ [other] } ∧
    other.uts = kernel.names.length ∧ Task.SameElsewhere other child

namespace Kernel

variable {kernel : Kernel} {task : Task} {spawning : Spawning}

theorem born_within (loaded : Loaded) :
    kernel.born task (spawning.within .standard) loaded =
      { kernel.born task (spawning.within .none) loaded with
        names := kernel.names ++ [kernel.namesFor task]
        tasks := kernel.tasks ++ [kernel.childOf task (spawning.within .standard) loaded] } := by
  have company := sameCompany_childFiles kernel task spawning.streams
  have names : (kernel.childFiles task spawning.streams).2.names = kernel.names := company.names
  have copied : (kernel.childFiles task spawning.streams).2.namesFor task = kernel.namesFor task := by
    unfold namesFor
    rw [names]
  rw [← names, ← copied, ← company.tasks]
  rfl

theorem tasks_born (spawning : Spawning) (loaded : Loaded) :
    (kernel.born task spawning loaded).tasks =
      kernel.tasks ++ [kernel.childOf task spawning loaded] :=
  congrArg (· ++ _) (sameCompany_childFiles kernel task spawning.streams).tasks

/-- A host makes the same of a request with a new namespace as of the one without, unless it
refuses the latter for want of a format. -/
theorem spawn_within (privileged : task.privileged = true) (spawning : Spawning) :
    (kernel.spawn task (spawning.within .none)).1 = .error (.numbered .badFormat) ∨
      SameElsewhere kernel task (kernel.spawn task (spawning.within .standard))
        (kernel.spawn task (spawning.within .none)) := by
  rw [spawn_eq, spawn_eq]
  have words : (spawning.within .none).path :: (spawning.within .none).args =
      (spawning.within .standard).path :: (spawning.within .standard).args := rfl
  rw [words]
  split
  · exact .inr ⟨rfl, fun _ => rfl, nofun⟩
  · rcases loadChild_within privileged spawning with refused | same
    · rw [refused]
      exact .inl rfl
    · rw [same]
      cases kernel.loadChild task (spawning.within .none) with
      | error errno => exact .inr ⟨rfl, fun _ => rfl, nofun⟩
      | ok loaded =>
          refine .inr ⟨rfl, nofun, fun isPid => ?_⟩
          cases isPid
          have child := childOf_within kernel task spawning loaded
          refine ⟨_, _, tasks_born _ loaded, nextPid_childFiles kernel task spawning.streams, rfl,
            born_within loaded, ?_, ?_, fun signal own => reactionTo_within loaded own⟩
          · rw [child]
          · rw [child]

end Kernel

/-! ### The stage -/

namespace OuterStage

open Process (Mirrors)

/-- Whether two requests are those of a stage for its child, with a new namespace and without. -/
def IsolatedAs (stage : OuterStage) (command : Command) (isolated plain : Spawning) : Prop :=
  ∃ path, isolated = (stage.spawning path command).within .standard ∧
    plain = (stage.spawning path command).within .none

def runWith (stage : OuterStage) (isolation : Isolation) (command : Command) :
    Process (Except Failure UInt8) :=
  ((stage.withIsolation isolation).run command).run

theorem mirrors_resolve {Like : Spawning → Spawning → Prop} (executable : Executable) :
    Mirrors Like Eq (liftM executable.resolve : Action (Except Cause Bytes)).run
      (liftM executable.resolve : Action (Except Cause Bytes)).run := by
  cases executable with
  | running => exact .call _ fun _ => .done rfl
  | path place => exact .done rfl
  | unresolvable cause => exact .done rfl

/-- The outer stage does the same whether or not it asks for a new namespace, but for the request
itself. -/
theorem mirrors_runWith (stage : OuterStage) (command : Command) :
    Mirrors (stage.IsolatedAs command) Eq (stage.runWith .standard command)
      (stage.runWith .none command) := by
  refine .call _ fun _ => ?_
  refine Process.mirrors_action_bind (mirrors_resolve stage.executable) (fun _ => rfl) fun found => ?_
  cases found with
  | error cause => exact .done rfl
  | ok path =>
      -- Only the stage that asks for a namespace reports so.
      refine .call _ fun _ => .call _ fun _ => .report _ ?_
      refine .spawn ⟨path, rfl, rfl⟩ fun reply => ?_
      cases reply with
      | error cause => exact .done rfl
      | ok child => exact .call _ fun _ => mirrors_awaitChild child _ fun _ => rfl

/-- A request for a new namespace changes the namespace of the child, what the child does about the
signals that the C library keeps for itself, and how a text in no format is taken. -/
structure IsolationChanges (stage : OuterStage) (command : Command) : Prop where
  /-- The stage makes the same calls and comes to the same results, whether or not it asks for a
  namespace: only the requests for the child differ. -/
  comesTo : ∀ {talk result}, (stage.runWith .standard command).ComesTo talk result →
    ∃ other, (stage.runWith .none command).ComesTo other result ∧
      List.Forall₂ (Exchange.Alike (stage.IsolatedAs command)) talk other
  comesTo_back : ∀ {talk result}, (stage.runWith .none command).ComesTo talk result →
    ∃ other, (stage.runWith .standard command).ComesTo other result ∧
      List.Forall₂ (Exchange.Alike (stage.IsolatedAs command)) other talk
  /-- Every host where the namespace may be created makes the same of both requests, whatever file
  is at the path, unless it refuses the plain one for want of a format. -/
  spawn : ∀ {kernel : Kernel} {task : Task} (path : Bytes), task.privileged = true →
    let spawning := stage.spawning path command
    (kernel.spawn task (spawning.within .none)).1 = .error (.numbered .badFormat) ∨
      Kernel.SameElsewhere kernel task (kernel.spawn task (spawning.within .standard))
        (kernel.spawn task (spawning.within .none))
  /-- A text in no format, found by its path, is handed to the shell with the namespace only. -/
  text : ∀ {kernel : Kernel} {task : Task} {path : Bytes}, task.privileged = true →
    path.contains FileTree.slash = true →
    let spawning := stage.spawning path command
    kernel.loadChild task (spawning.within .none) = .error .badFormat →
      kernel.loadChild task (spawning.within .standard) =
        Loading.load (kernel.view task) (kernel.luggage task task.environment) task.directory
          Loading.shellPath (Loading.shellPath :: path :: stage.arguments command)

/-- What a request for a new namespace changes, for every stage and every command. -/
theorem isolationChanges (stage : OuterStage) (command : Command) :
    stage.IsolationChanges command where
  comesTo comes := by
    obtain ⟨other, result, comesToo, rfl, alike⟩ := (mirrors_runWith stage command).comesTo comes
    exact ⟨other, comesToo, alike⟩
  comesTo_back comes := by
    obtain ⟨other, result, comesToo, rfl, alike⟩ :=
      (mirrors_runWith stage command).symm.comesTo comes
    exact ⟨other, comesToo, (alike.imp fun _ _ => Exchange.Alike.symm).flip⟩
  spawn _ privileged := Kernel.spawn_within privileged _
  text privileged slash refused := Kernel.loadChild_standard_of_badFormat privileged slash refused

end OuterStage

/-! ### A text without an interpreter line -/

/-- A machine with a text that names no interpreter, and a shell. -/
def Machine.bootText : Kernel :=
  { Machine.boot true [] with
    files := ⟨[([], .directory directoryMode), (place "/bin", .directory directoryMode),
      (place "/bin/sh", .file programMode (.program Utility.succeed)),
      (place "/stage", .file programMode (.text (.ofBytes (Bytes.ofString "exit 3\n"))))]⟩ }

/-- The text is run with a new namespace, and fails to be launched without: a request for a new
namespace changes more than the namespace. -/
theorem OuterStage.not_sameReply : ¬ ∀ (stage : OuterStage) (command : Command) (path : Bytes)
    (kernel : Kernel) (task : Task), task.privileged = true →
      (kernel.spawn task ((stage.spawning path command).within .standard)).1 =
        (kernel.spawn task ((stage.spawning path command).within .none)).1 := by
  intro same
  let path := Bytes.ofString "/stage"
  let command : Command := ⟨[0x61], [], by decide, by decide⟩
  let spawning := (OuterStage.new (.path path)).spawning path command
  let worker := Machine.worker true
  have created : (Machine.bootText.spawn worker (spawning.within .standard)).1 = .ok 101 := by
    decide +kernel
  have refused : (Machine.bootText.spawn worker (spawning.within .none)).1 =
      .error (.numbered .badFormat) := by
    decide +kernel
  have equal := same (.new (.path path)) command path Machine.bootText worker rfl
  rw [created, refused] at equal
  cases equal

end HostnameSandbox
