import HostnameSandbox.Host.Machine
import HostnameSandbox.Proofs.Namespaces.Loaded
import HostnameSandbox.Proofs.Namespaces.Programs
import HostnameSandbox.Proofs.Namespaces.Shelter

/-!
# Nothing leaks between runs

On a host, the program is started for its outer stage any number of times, by anybody and for any
commands.  No such run changes a host name that was there before it, and every command that is
started begins in a namespace that nobody was in before, under the marker name.
-/

namespace HostnameSandbox

open Kernel (Moves)

namespace Move

/-- A process has just started the program. -/
structure Starts (move : Move) (parent : Pid) (child : Task) (start : Start) : Prop
    extends move.Bears parent child where
  process : child.process = Sandbox.program start

/-- A process is about to write to an open file that leads to the names in its namespace. -/
def WritesNames (move : Move) (pid : Pid) : Prop :=
  ∃ task ∈ move.before.tasks, task.pid = pid ∧ ∃ descriptor bytes next,
    task.process = .call (.write descriptor bytes) next ∧
      (Call.write descriptor bytes).Renames move.before task

/-- The processes of a run after a move: the child of such a process is one of them. -/
def kinAfter (kin : Pid → Prop) (move : Move) (pid : Pid) : Prop :=
  kin pid ∨ ∃ parent child, kin parent ∧ move.Bears parent child ∧ child.pid = pid

end Move

/-- The processes of a run: the first one and all that come from it. -/
def Kin (root : Pid) (trace : List Move) : Pid → Prop :=
  trace.foldl Move.kinAfter (· = root)

@[simp]
theorem kin_nil {root pid : Pid} : Kin root [] pid ↔ pid = root :=
  Iff.rfl

@[simp]
theorem kin_concat {root pid : Pid} {trace : List Move} {move : Move} :
    Kin root (trace ++ [move]) pid ↔ Kin root trace pid ∨
      ∃ parent child, Kin root trace parent ∧ move.Bears parent child ∧ child.pid = pid := by
  simp [Kin, Move.kinAfter]

/-- A move is not made by a run, unless by what its first process writes to an open file that leads
to names, as it may find one for its standard error. -/
def Move.Foreign (root : Pid) (sooner : List Move) (move : Move) : Prop :=
  ∀ mover, move.mover? = some mover → Kin root sooner mover →
    mover = root ∧ move.WritesNames mover

/-- Nobody else changes the host name of a namespace in the course of a run. -/
def Move.Undisturbed (root : Pid) (trace : List Move) (number : Nat) : Prop :=
  ∀ sooner move rest, trace = sooner ++ move :: rest → move.Foreign root sooner →
    move.after.nameOf? number = move.before.nameOf? number

/-- A run of the program for its outer stage among the moves of a host, from its start on. -/
structure Outing (trace : List Move) where
  earlier : List Move
  launch : Move
  later : List Move
  launcher : Pid
  root : Task
  start : Start
  command : Command
  verbose : Bool
  whole : trace = earlier ++ launch :: later
  starts : launch.Starts launcher root start
  asks : start.Asks ⟨.outer, command⟩ verbose

namespace Outing

variable {trace : List Move}

/-- A command that is started in a run: what the program creates as it plays its inner stage. -/
structure Target (outing : Outing trace) where
  sooner : List Move
  birth : Move
  between : List Move
  beginning : Move
  rest : List Move
  inner : Task
  start : Start
  command : Command
  verbose : Bool
  target : Task
  whole : outing.later = sooner ++ birth :: (between ++ beginning :: rest)
  starts : birth.Starts outing.root.pid inner start
  asks : start.Asks ⟨.inner, command⟩ verbose
  bears : beginning.Bears inner.pid target

/-- A command begins in a namespace in which nobody was before the inner stage, and only that one
since, and there it sees the marker name. -/
structure Target.BeginsApart {outing : Outing trace} (target : outing.Target) : Prop where
  empty : ∀ move ∈ outing.earlier ++ outing.launch :: (target.sooner ++ [target.birth]),
    ∀ member ∈ move.before.members, member.2 ≠ target.target.uts
  alone : ∀ move ∈ target.between ++ [target.beginning], ∀ member ∈ move.before.members,
    member.2 = target.target.uts → member.1 = target.inner.pid
  marked : target.beginning.after.hostname? target.target.pid =
    some (Bytes.ofString "inside-container")

/-- What a run leaves as it was, and how its command begins. -/
structure LeaksNothing (outing : Outing trace) (last : Kernel) : Prop where
  names : ∀ number < outing.launch.before.names.length,
    Move.Undisturbed outing.root.pid outing.later number →
      last.nameOf? number = outing.launch.before.nameOf? number
  /-- Whoever was there before, the launching process too, is in the namespace that it was in. -/
  stays : ∀ task ∈ outing.launch.before.tasks, ∀ found ∈ last.tasks, found.pid = task.pid →
    found.uts = task.uts
  /-- All processes of the run but the first are in namespaces that were not there before it. -/
  apart : ∀ found ∈ last.tasks, Kin outing.root.pid outing.later found.pid →
    found.pid ≠ outing.root.pid → outing.launch.before.names.length ≤ found.uts
  targets : ∀ target : outing.Target, target.BeginsApart

end Outing

/-! ### The processes of a run -/

section Running

variable {root pid : Pid} {bound number : Nat} {trace : List Move} {move : Move}
  {first before after last : Kernel}

theorem isolating_steadfast : isolating.Steadfast :=
  fun _ => ⟨fun _ _ _ => id, fun _ => id⟩

/-- What holds in a run of the program for its outer stage. -/
structure Running (root : Pid) (bound : Nat) (trace : List Move) (kernel : Kernel) : Prop where
  coherent : kernel.Coherent
  room : bound ≤ kernel.names.length
  keeps : kernel.Keeps isolating (fun _ _ => True) root ()
  known : ∀ pid, Kin root trace pid → pid < kernel.nextPid
  apart : ∀ task ∈ kernel.tasks, Kin root trace task.pid → task.pid ≠ root → bound ≤ task.uts

namespace Running

theorem known_root (running : Running root bound trace before) : root < before.nextPid := by
  refine running.known root ?_
  clear running
  induction trace using List.reverseRecOn with
  | nil => rfl
  | append_singleton trace move hypothesis => exact kin_concat.2 (.inl hypothesis)

/-- The first process of a run creates children in new namespaces only. -/
theorem fresh_of_mayBear (running : Running root bound trace before) {task : Task}
    (member : task ∈ before.tasks) (is : task.pid = root) {fresh : Bool}
    (may : task.MayBear fresh) : fresh = true := by
  have keeps := running.keeps task member is
  rcases may with ⟨spawning, next, spawns, rfl⟩ | ⟨-, next, forks⟩
  · rw [spawns] at keeps
    exact keeps.1
  · rw [forks] at keeps
    exact keeps.elim

/-- A child of a process of the run is in a namespace that was not there before the run. -/
theorem apart_newborn (running : Running root bound trace before) {task child : Task}
    (member : task ∈ before.tasks) (kin : Kin root trace task.pid) {fresh : Bool}
    (newborn : Kernel.Newborn fresh task before after child) : bound ≤ child.uts := by
  have uts := newborn.uts
  cases fresh with
  | true => exact uts ▸ running.room
  | false =>
      by_cases is : task.pid = root
      · cases running.fresh_of_mayBear member is newborn.may
      · exact uts ▸ running.apart task member kin is

theorem next (running : Running root bound trace before) (moves : Moves before move after) :
    Running root bound (trace ++ [move]) after where
  coherent := moves.coherent running.coherent
  room := Nat.le_trans running.room moves.grows.1
  keeps := by
    rcases moves.follows isolating_steadfast running.known_root running.keeps with
      ⟨-, keeps⟩ | ⟨-, follows⟩
    · exact keeps
    · cases follows <;> assumption
  known pid kin := by
    rcases kin_concat.1 kin with kin | ⟨parent, child, -, bears, rfl⟩
    · exact Int.lt_of_lt_of_le (running.known pid kin) moves.grows.2
    · exact (moves.coherent running.coherent).known child (moves.after_eq ▸ bears.member)
  apart task member kin other := by
    rcases moves.tasks task member with
      ⟨earlier, isEarlier, same, uts, -⟩ | ⟨mover, isMover, fresh, made, newborn⟩
    · rw [uts]
      refine running.apart earlier isEarlier ?_ (same ▸ other)
      rcases kin_concat.1 kin with kin | ⟨parent, child, -, bears, isChild⟩
      · exact same ▸ kin
      · -- a process that was there before is not the one that has just been created
        have isNew : earlier.pid = before.nextPid := by
          rw [← same, ← isChild, bears.pid, moves.before_eq]
        exact absurd isNew (running.coherent.ne_nextPid isEarlier)
    · refine running.apart_newborn isMover ?_ newborn
      rcases kin_concat.1 kin with kin | ⟨parent, child, kin, bears, -⟩
      · exact absurd rfl (newborn.pid_ne (running.known _ kin))
      · cases made.symm.trans bears.mover
        exact kin

theorem of_run (running : Running root bound [] first) (run : Run Moves first trace last) :
    Running root bound trace last := by
  induction run with
  | start => exact running
  | next run moves hypothesis => exact hypothesis.next moves

/-- A process that has just started the program for its outer stage begins a run. -/
theorem of_starts {launcher : Pid} {child : Task} {start : Start} {command : Command}
    {verbose : Bool} (coherent : before.Coherent) (moves : Moves before move after)
    (starts : move.Starts launcher child start) (asks : start.Asks ⟨.outer, command⟩ verbose) :
    Running child.pid before.names.length [] after where
  coherent := moves.coherent coherent
  room := moves.grows.1
  keeps task member is := by
    have isChild := moves.after_eq ▸ starts.member
    rw [(moves.coherent coherent).eq_of_pid member isChild is, starts.process]
    exact Sandbox.isolates asks
  known pid kin := by
    rw [kin_nil.1 kin]
    exact (moves.coherent coherent).known child (moves.after_eq ▸ starts.member)
  apart task member kin other := absurd (kin_nil.1 kin) other

/-- The run itself changes no name that was there before it. -/
theorem names (running : Running root bound trace before) (moves : Moves before move after)
    (own : ¬ move.Foreign root trace) {number : Nat} (earlier : number < bound) :
    after.nameOf? number = before.nameOf? number := by
  unfold Move.Foreign at own
  push Not at own
  obtain ⟨mover, made, kin, unwritten⟩ := own
  rw [Kernel.nameOf?, Kernel.nameOf?]
  rcases moves.names (Nat.lt_of_lt_of_le earlier running.room) with
    same | ⟨task, member, isMover, rfl, request, next, calls, may⟩
  · rw [same]
  · cases isMover.symm.trans made
    by_cases is : task.pid = root
    · have keeps := running.keeps task member is
      rw [calls] at keeps
      cases request with
      | write descriptor bytes =>
          have writes : move.WritesNames task.pid := by
            rw [Move.WritesNames, moves.before_eq]
            exact ⟨task, member, rfl, descriptor, bytes, next, calls, may⟩
          exact absurd writes (unwritten is)
      | setHostname name => exact keeps.1.elim
      | setDomain name => exact keeps.1.elim
      | _ => exact may.elim
    · exact absurd earlier (Nat.not_lt.2 (running.apart task member kin is))

theorem names_of_run (running : Running root bound [] first) (run : Run Moves first trace last)
    (earlier : number < bound) (undisturbed : Move.Undisturbed root trace number) :
    last.nameOf? number = first.nameOf? number := by
  induction run with
  | start => rfl
  | @next trace move between last run moves hypothesis =>
      rw [← hypothesis fun sooner other rest whole => undisturbed sooner other (rest ++ [move])
        (by simp [whole])]
      by_cases foreign : move.Foreign root trace
      · have same := undisturbed trace move [] rfl foreign
        rwa [moves.before_eq, moves.after_eq] at same
      · exact (running.of_run run).names moves foreign earlier

/-- The inner stage that the program starts is alone in a new namespace. -/
theorem shelters {child : Task} {start : Start} {command : Command} {verbose : Bool}
    (running : Running root bound trace before) (moves : Moves before move after)
    (starts : move.Starts root child start) (asks : start.Asks ⟨.inner, command⟩ verbose) :
    Kernel.Sheltered (InnerStage.standard.plan command) child.pid before.names.length .initial
      after := by
  obtain ⟨task, member, fresh, is, newborn, -⟩ := moves.born running.coherent starts.toBears
  cases running.fresh_of_mayBear member is newborn.may
  refine .of_newborn running.coherent moves (moves.after_eq ▸ starts.member) newborn ?_
  rw [starts.process]
  exact Sandbox.prepares asks

end Running

end Running

/-! ### Runs on a host -/

section Hosts

open Kernel

variable {first last : Kernel} {trace : List Move}

/-- Every command that is started begins in a namespace of its own, under the marker name. -/
theorem Outing.Target.beginsApart_of_run {outing : Outing trace} (coherent : first.Coherent)
    (run : Run Moves first trace last) (target : outing.Target) : target.BeginsApart := by
  obtain ⟨sofar, launches, later⟩ := split_of_run (outing.whole ▸ run)
  obtain ⟨sooner, births, rest⟩ := split_of_run (target.whole ▸ later)
  obtain ⟨between, begins, -⟩ := split_of_run rest
  have running := Running.of_starts (coherent_of_run coherent sofar) launches outing.starts
    outing.asks
  have sheltered := (running.of_run sooner).shelters births target.starts target.asks
  obtain ⟨state, ready, alone⟩ := sheltered.of_run between
  obtain ⟨early, uts, marked⟩ := ready.bears begins target.bears rfl
  refine ⟨fun move isMove member isMember => ?_, fun move isMove => ?_, marked⟩
  · have untilBirth : Run Moves first (outing.earlier ++ outing.launch :: target.sooner)
        target.birth.before := sofar.trans (.cons launches sooner)
    rw [← List.cons_append, ← List.append_assoc, List.mem_append] at isMove
    rw [uts]
    rcases isMove with isOld | isBirth
    · exact Nat.ne_of_lt (members_of_run coherent untilBirth move isOld member isMember)
    · rw [List.mem_singleton.1 isBirth] at isMember
      exact Nat.ne_of_lt ((coherent_of_run coherent untilBirth).housed member isMember)
  · rw [uts]
    rcases List.mem_append.1 isMove with isBetween | isBeginning
    · exact alone early move isBetween
    · rw [List.mem_singleton.1 isBeginning]
      exact ready.alone early

namespace Machine

/-- A program that gives its namespace another name. -/
def renames : Program := fun _ => do
  let _ : Except Errno Unit ← Process.ask (.setHostname (Bytes.ofString "renamed"))
  pure 0

/-- What the program is started from for its outer stage, with such a command. -/
def launches : Spawning :=
  ⟨Bytes.ofString "/utsbox", [Bytes.ofString "outer", Bytes.ofString "/renames"], .inherited,
    .none, []⟩

/-- A machine with two namespaces, whose worker is about to start the program in the second. -/
def bootElsewhere : Kernel :=
  { Machine.boot true [] with
    names := [⟨Machine.hostname, []⟩, ⟨Bytes.ofString "elsewhere", []⟩]
    files := ⟨[([], .directory 0o755),
      ([Bytes.ofString "utsbox"], .file programMode (.program Sandbox.program)),
      ([Bytes.ofString "renames"], .file programMode (.program renames))]⟩
    tasks := [{ Machine.worker true with
      uts := 1
      opened := []
      process := .call (.spawn launches) fun _ => .done 0 }] }

theorem installs_utsbox :
    bootElsewhere.files.Installs (Bytes.ofString "/utsbox") Sandbox.program where
  textless place mode data := by simp [bootElsewhere]
  sole place mode other member path := by
    simp only [bootElsewhere, List.mem_cons, Prod.mk.injEq, Node.file.injEq, Content.program.injEq,
      reduceCtorEq, and_false, false_or, List.not_mem_nil, or_false] at member
    rcases member with ⟨-, -, is⟩ | ⟨rfl, -⟩
    · exact is
    · exact absurd path (by decide +kernel)

/-- The outer stage up to its child, then the inner stage up to its child, and the command. -/
def outerMoves : List Pid := List.replicate 10 101

def innerMoves : List Pid := List.replicate 3 101 ++ List.replicate 16 102

def commandMoves : List Pid := List.replicate 2 103

def launched : Kernel := bootElsewhere.acted 100

def outerReady : Kernel := (play outerMoves launched).2

def innerBorn : Kernel := outerReady.acted 101

def innerReady : Kernel := (play innerMoves innerBorn).2

def commandBorn : Kernel := innerReady.acted 102

def elsewhereMoves : List Pid :=
  100 :: (outerMoves ++ 101 :: (innerMoves ++ 102 :: commandMoves))

def command : Command := ⟨Bytes.ofString "/renames", [], by decide, by decide⟩

end Machine

/-- A process that has just been created, with what it was started from. -/
structure Kernel.Arrived (kernel : Kernel) (pid : Pid) (path : Bytes) (words : List Bytes)
    (child : Task) : Prop where
  found : kernel.task? pid = some child
  path : child.path = path
  words : child.words = words
  free : child.free? 0 = .ok 0

theorem Kernel.exists_arrived {kernel : Kernel} {pid : Pid} {path : Bytes} {words : List Bytes}
    (seen : (kernel.task? pid).map (fun task => (task.path, task.words, task.free? 0)) =
      some (path, words, .ok 0)) : ∃ child, kernel.Arrived pid path words child := by
  obtain ⟨child, found, same⟩ := Option.map_eq_some_iff.1 seen
  simp only [Prod.mk.injEq] at same
  exact ⟨child, found, same.1, same.2.1, same.2.2⟩

namespace Machine

/-- Every machine begins coherent. -/
theorem coherent_boot (privileged : Bool) (files : List (Bytes × Node)) :
    (boot privileged files).Coherent where
  distinct := List.nodup_singleton _
  known task member := by
    rw [List.mem_singleton.1 member]
    exact Int.lt_succ _
  housed member isMember := by
    simp only [members, boot, worker, List.map_cons, List.map_nil, List.cons_append,
      List.nil_append, List.mem_cons, List.not_mem_nil, or_false] at isMember
    rcases isMember with rfl | rfl | rfl <;> exact Nat.one_pos

theorem coherent_bootElsewhere : bootElsewhere.Coherent :=
  ⟨by decide +kernel, by decide +kernel, by decide +kernel⟩

/-- A child that was started as the program, by a process that does not become two. -/
theorem starts_of_arrived {before after : Kernel} {parent pid : Pid} {words : List Bytes}
    {child : Task} (coherent : before.Coherent)
    (moves : Moves before ⟨some parent, before, after⟩ after)
    (single : ∀ task ∈ before.tasks, task.pid = parent → ∀ next, task.process ≠ .fork next)
    (files : before.files = bootElsewhere.files) (isNext : before.nextPid = pid)
    (arrived : after.Arrived pid (Bytes.ofString "/utsbox") words child) :
    (⟨some parent, before, after⟩ : Move).Starts parent child child.start := by
  have bears : (⟨some parent, before, after⟩ : Move).Bears parent child :=
    ⟨rfl, mem_of_task? arrived.found, (task?_pid arrived.found).trans isNext.symm⟩
  have installs : before.files.Installs child.path Sandbox.program := by
    rw [arrived.path, files]
    exact installs_utsbox
  exact ⟨bears, moves.process_of_installs coherent bears single installs arrived.free⟩

theorem asks_of_arrived {kernel : Kernel} {pid : Pid} {path name : Bytes} {words : List Bytes}
    {child : Task} {stage : Stage} (arrived : kernel.Arrived pid path (name :: words) child)
    (read : CommandLine.parse words = .ok ⟨false, stage, [Bytes.ofString "/renames"]⟩) :
    child.start.Asks ⟨stage, command⟩ false := by
  have same : child.start.args = words := by
    rw [Task.start, arrived.words, List.tail_cons]
  refine ⟨_, same ▸ read, rfl, ?_⟩
  cases stage <;> decide +kernel

/-- The worker starts the program, that starts itself again, and that starts the command. -/
theorem exists_outing :
    ∃ outing : Outing (play elsewhereMoves bootElsewhere).1, Nonempty outing.Target := by
  have launches : Moves bootElsewhere ⟨some 100, bootElsewhere, launched⟩ launched :=
    moves_acted (by decide +kernel)
  obtain ⟨root, isRoot⟩ : ∃ child, launched.Arrived 101 (Bytes.ofString "/utsbox")
      [Bytes.ofString "/utsbox", Bytes.ofString "outer", Bytes.ofString "/renames"] child :=
    exists_arrived (by decide +kernel)
  have workerSingle : ∀ task ∈ bootElsewhere.tasks, task.pid = 100 →
      ∀ next, task.process ≠ .fork next := by
    intro task member _ next forks
    rw [List.mem_singleton.1 member] at forks
    cases forks
  have rootStarts := starts_of_arrived coherent_bootElsewhere launches workerSingle rfl rfl isRoot
  have rootAsks : root.start.Asks ⟨.outer, command⟩ false :=
    asks_of_arrived isRoot (by decide +kernel)
  have sooner : Run Moves launched (play outerMoves launched).1 outerReady :=
    run_play (by decide +kernel)
  have running := (Running.of_starts coherent_bootElsewhere launches rootStarts rootAsks).of_run
    sooner
  have births : Moves outerReady ⟨some 101, outerReady, innerBorn⟩ innerBorn :=
    moves_acted (by decide +kernel)
  obtain ⟨inner, isInner⟩ : ∃ child, innerBorn.Arrived 102 (Bytes.ofString "/utsbox")
      [Bytes.ofString "/utsbox", Bytes.ofString "inner", Bytes.ofString "/renames"] child :=
    exists_arrived (by decide +kernel)
  have rootSingle : ∀ task ∈ outerReady.tasks, task.pid = 101 →
      ∀ next, task.process ≠ .fork next := by
    intro task member is next forks
    have keeps := running.keeps task member (is.trans (task?_pid isRoot.found).symm)
    rw [forks] at keeps
    exact keeps
  have files : outerReady.files = bootElsewhere.files :=
    files_play (show ∀ move ∈ (play (100 :: outerMoves) bootElsewhere).1, _ by decide +kernel)
  have innerStarts :
      (⟨some 101, outerReady, innerBorn⟩ : Move).Starts root.pid inner inner.start := by
    rw [task?_pid isRoot.found]
    exact starts_of_arrived running.coherent births rootSingle files (by decide +kernel) isInner
  have innerAsks : inner.start.Asks ⟨.inner, command⟩ false :=
    asks_of_arrived isInner (by decide +kernel)
  obtain ⟨target, isTarget⟩ : ∃ child, commandBorn.Arrived 103 (Bytes.ofString "/renames")
      [Bytes.ofString "/renames"] child :=
    exists_arrived (by decide +kernel)
  have isNext : innerReady.nextPid = 103 := by decide +kernel
  have member : target ∈ commandBorn.tasks := mem_of_task? isTarget.found
  let outing : Outing (play elsewhereMoves bootElsewhere).1 := {
    earlier := []
    launch := ⟨some 100, bootElsewhere, launched⟩
    later := (play outerMoves launched).1 ++ ⟨some 101, outerReady, innerBorn⟩ ::
      ((play innerMoves innerBorn).1 ++ ⟨some 102, innerReady, commandBorn⟩ ::
        (play commandMoves commandBorn).1)
    launcher := 100
    root := root
    start := _
    command := command
    verbose := false
    whole := by
      rw [elsewhereMoves, play, play_append, play, play_append]
      rfl
    starts := rootStarts
    asks := rootAsks }
  exact ⟨outing, ⟨{
    sooner := (play outerMoves launched).1
    birth := ⟨some 101, outerReady, innerBorn⟩
    between := (play innerMoves innerBorn).1
    beginning := ⟨some 102, innerReady, commandBorn⟩
    rest := (play commandMoves commandBorn).1
    inner := inner
    start := _
    command := command
    verbose := false
    target := target
    whole := rfl
    starts := innerStarts
    asks := innerAsks
    bears := ⟨congrArg some (task?_pid isInner.found).symm, member,
      (task?_pid isTarget.found).trans isNext.symm⟩ }⟩⟩

end Machine

end Hosts

end HostnameSandbox
