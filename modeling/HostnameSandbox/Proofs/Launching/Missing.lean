import HostnameSandbox.Host.Machine
import HostnameSandbox.Proofs.Launching.Birth
import HostnameSandbox.Proofs.Logging.Loading
import HostnameSandbox.Proofs.Namespaces.Knowledge
import HostnameSandbox.Proofs.Supervision.Account

/-!
# Programs that cannot be started

Whether a program that cannot be started is said to be missing depends on the error alone that the
kernel has come to.  That is the error of a path that leads to nothing, and also that of a text
whose interpreter is not there; while a path of which a part is no directory, or is too long, leads
to nothing for another reason.
-/

namespace HostnameSandbox

open Moment

namespace Loading

/-! ### Following paths and interpreter lines -/

section Following

variable (files : FileTree) (luggage : Luggage) (origin : Place)

/-- A path leads to a text that may be run, by the interpreter that it names. -/
def Interprets (path name : Bytes) : Prop :=
  ∃ place mode data argument, files.resolve origin path = .ok (place, .file mode (.text data)) ∧
    luggage.admit place mode = .ok () ∧
    interpreter? (data.piece 0 lineLimit) = some (name, argument)

/-- A path cannot be followed, for one reason, or it leads to a text whose interpreter's path cannot
be followed in turn.  The last interpreter in a row need not be named. -/
inductive Astray (errno : Errno) : Nat → Bytes → Prop
  | here {nesting : Nat} {path : Bytes} (fails : files.resolve origin path = .error errno) :
      Astray errno nesting path
  | interpreter {nesting : Nat} {path name : Bytes}
      (interprets : Interprets files luggage origin path name) (named : name ≠ [])
      (astray : Astray errno nesting name) : Astray errno (nesting + 1) path
  | last {path name : Bytes} (interprets : Interprets files luggage origin path name)
      (fails : files.resolve origin name = .error errno) : Astray errno 0 path

/-- Nothing can be loaded for words at a path, since that or the path of an interpreter cannot be
followed. -/
def Strays (words : List Bytes) (errno : Errno) (path : Bytes) : Prop :=
  files.resolve origin path = .error errno ∨
    luggage.isExceeded path words = false ∧ Astray files luggage origin errno nestingLimit path

end Following

/-- An error that paths are the only reason for, and that a search passes over. -/
def IsStray (errno : Errno) : Prop :=
  isPassedOver errno = true ∧ errno ≠ .accessDenied

variable {files : FileTree} {luggage : Luggage} {origin place : Place} {path name : Bytes}
  {words : List Bytes} {errno : Errno} {nesting mode : Nat}

theorem isStray_noEntry : IsStray .noEntry := by
  refine ⟨?_, ?_⟩ <;> decide

theorem IsStray.ne_of_not_passed (stray : IsStray errno) {other : Errno}
    (stops : isPassedOver other = false) : other ≠ errno := by
  rintro rfl
  rw [stray.1] at stops
  cases stops

/-- A file that may not be run is no path that cannot be followed. -/
theorem IsStray.admit_ne (stray : IsStray errno) : luggage.admit place mode ≠ .error errno := by
  intro refused
  unfold Luggage.admit at refused
  split at refused
  · exact stray.2 (Except.error.inj refused).symm
  · split at refused
    · exact stray.ne_of_not_passed (by decide) (Except.error.inj refused)
    · cases refused

/-- What a path leads to, if it can be followed, is not what the error of a path is about. -/
theorem loadWith_eq_error_iff {interpret : Bytes → Option Bytes → Except Errno Loaded}
    (stray : IsStray errno) :
    loadWith files luggage origin interpret path words = .error errno ↔
      files.resolve origin path = .error errno ∨
        ∃ place mode data name argument,
          files.resolve origin path = .ok (place, .file mode (.text data)) ∧
          luggage.admit place mode = .ok () ∧
          interpreter? (data.piece 0 lineLimit) = some (name, argument) ∧
          interpret name argument = .error errno := by
  unfold loadWith
  cases resolved : files.resolve origin path with
  | error other => simp [bind, Except.bind]
  | ok entry =>
      obtain ⟨place, node⟩ := entry
      cases node with
      | file mode content =>
          cases admitted : luggage.admit place mode with
          | error other =>
              have differs : other ≠ errno := fun same => stray.admit_ne (same ▸ admitted)
              cases content <;> simp [bind, Except.bind, admitted, differs]
          | ok _ =>
              cases content with
              | program program => simp [bind, Except.bind, admitted]
              | text data =>
                  have unformatted : Errno.badFormat ≠ errno :=
                    stray.ne_of_not_passed (by decide)
                  cases read : interpreter? (data.piece 0 lineLimit) with
                  | none =>
                      cases copied : files.programOf? data <;>
                        simp [bind, Except.bind, admitted, read, copied, unformatted]
                  | some named =>
                      obtain ⟨name, argument⟩ := named
                      simp [bind, Except.bind, admitted, read]
      | _ => simp [bind, Except.bind, stray.2.symm]

theorem loadLast_eq_error_iff (stray : IsStray errno) :
    loadLast files luggage origin name = .error errno ↔
      files.resolve origin name = .error errno := by
  unfold loadLast
  cases resolved : files.resolve origin name with
  | error other => simp [bind, Except.bind]
  | ok entry =>
      obtain ⟨place, node⟩ := entry
      cases node with
      | file mode content =>
          cases admitted : luggage.admit place mode with
          | error other =>
              have differs : other ≠ errno := fun same => stray.admit_ne (same ▸ admitted)
              simp [bind, Except.bind, admitted, differs]
          | ok _ =>
              have unlooped : Errno.linkLoop ≠ errno := stray.ne_of_not_passed (by decide)
              simp [bind, Except.bind, admitted, unlooped]
      | _ => simp [bind, Except.bind, stray.2.symm]

/-- A file cannot be loaded for the error of a path exactly if that path or one of an interpreter is
the reason. -/
theorem loadNested_eq_error_iff (stray : IsStray errno) :
    loadNested files luggage origin nesting path words = .error errno ↔
      Astray files luggage origin errno nesting path := by
  induction nesting generalizing path words with
  | zero =>
      rw [loadNested_zero, loadWith_eq_error_iff stray]
      simp only [loadLast_eq_error_iff stray]
      constructor
      · rintro (fails | ⟨place, mode, data, name, argument, found, admitted, names, fails⟩)
        · exact .here fails
        · exact .last ⟨place, mode, data, argument, found, admitted, names⟩ fails
      · intro astray
        cases astray with
        | here fails => exact .inl fails
        | last interprets fails =>
            obtain ⟨place, mode, data, argument, found, admitted, names⟩ := interprets
            exact .inr ⟨place, mode, data, _, argument, found, admitted, names, fails⟩
  | succ nesting hypothesis =>
      rw [loadNested_succ, loadWith_eq_error_iff stray]
      constructor
      · rintro (fails | ⟨place, mode, data, name, argument, found, admitted, names, fails⟩)
        · exact .here fails
        · split at fails
          · exact absurd (Except.error.inj fails).symm stray.2
          · next named =>
              refine .interpreter ⟨place, mode, data, argument, found, admitted, names⟩ ?_
                (hypothesis.1 fails)
              simpa using named
      · intro astray
        cases astray with
        | here fails => exact .inl fails
        | interpreter interprets named astray =>
            obtain ⟨place, mode, data, argument, found, admitted, names⟩ := interprets
            refine .inr ⟨place, mode, data, _, argument, found, admitted, names, ?_⟩
            rw [if_neg (by simpa using named)]
            exact hypothesis.2 astray

theorem astray_iff_of_error {other : Errno}
    (unresolved : files.resolve origin path = .error other) :
    Astray files luggage origin errno nesting path ↔ other = errno := by
  constructor
  · intro astray
    cases astray with
    | here fails => exact Except.error.inj (unresolved.symm.trans fails)
    | interpreter interprets named astray =>
        obtain ⟨place, mode, data, argument, found, -⟩ := interprets
        cases found.symm.trans unresolved
    | last interprets fails =>
        obtain ⟨place, mode, data, argument, found, -⟩ := interprets
        cases found.symm.trans unresolved
  · rintro rfl
    exact .here unresolved

/-- A path that leads somewhere and is astray leads to a file that may be run. -/
theorem Astray.exists_file {entry : Place × Node}
    (astray : Astray files luggage origin errno nesting path)
    (resolved : files.resolve origin path = .ok entry) :
    ∃ place mode content, entry = (place, .file mode content) ∧
      luggage.admit place mode = .ok () := by
  cases astray with
  | here fails => cases fails.symm.trans resolved
  | interpreter interprets named astray =>
      obtain ⟨place, mode, data, argument, found, admitted, -⟩ := interprets
      cases found.symm.trans resolved
      exact ⟨place, mode, _, rfl, admitted⟩
  | last interprets fails =>
      obtain ⟨place, mode, data, argument, found, admitted, -⟩ := interprets
      cases found.symm.trans resolved
      exact ⟨place, mode, _, rfl, admitted⟩

theorem load_eq_error_iff (stray : IsStray errno) :
    load files luggage origin path words = .error errno ↔
      Strays files luggage origin words errno path := by
  unfold load Strays
  cases resolved : files.resolve origin path with
  | error other =>
      rw [astray_iff_of_error resolved]
      simp only [bind, Except.bind, Except.error.injEq]
      exact ⟨.inl, fun strays => strays.elim id And.right⟩
  | ok entry =>
      obtain ⟨place, node⟩ := entry
      -- a node that is no file, or a file that may not be run, is refused for another reason
      have found (astray : Astray files luggage origin errno nestingLimit path) :=
        astray.exists_file resolved
      cases node with
      | file mode content =>
          cases admitted : luggage.admit place mode with
          | error other =>
              have differs : other ≠ errno := fun same => stray.admit_ne (same ▸ admitted)
              simp only [bind, Except.bind, admitted, Except.error.injEq, differs, reduceCtorEq,
                false_or, false_iff, not_and]
              rintro - astray
              obtain ⟨_, _, _, same, runs⟩ := found astray
              cases same
              cases admitted.symm.trans runs
          | ok _ =>
              have fits : Errno.argumentsTooLong ≠ errno := stray.ne_of_not_passed (by decide)
              rw [← loadNested_eq_error_iff stray]
              cases exceeded : luggage.isExceeded path words with
              | true => simp [bind, Except.bind, admitted, fits]
              | false =>
                  cases loadNested files luggage origin nestingLimit path words <;>
                    simp [bind, Except.bind, admitted]
      | _ =>
          simp only [bind, Except.bind, Except.error.injEq, stray.2.symm, reduceCtorEq, false_or,
            false_iff, not_and]
          rintro - astray
          obtain ⟨_, _, _, same, -⟩ := found astray
          cases same

/-! ### Looking for a program -/

/-- The path of a name in a directory, where no directory stands for the present one. -/
def candidate (name directory : Bytes) : Bytes :=
  if directory.isEmpty then name else directory ++ FileTree.slash :: name

/-- The paths at which a program is looked for. -/
def candidates (directories : List Bytes) (name : Bytes) : List Bytes :=
  if name.contains FileTree.slash then [name] else directories.map (candidate name)

section Searching

variable {attempt : Bytes → Except Errno Loaded} {denied : Bool} {latest : Errno}
  {directory : Bytes} {rest directories : List Bytes}

theorem search_cons_ok {loaded : Loaded} (loads : attempt (candidate name directory) = .ok loaded) :
    search attempt name denied latest (directory :: rest) = .ok loaded := by
  unfold candidate at loads
  rw [search, loads]

theorem search_cons_error (fails : attempt (candidate name directory) = .error errno) :
    search attempt name denied latest (directory :: rest) =
      if isPassedOver errno then
        search attempt name (denied || errno = .accessDenied) errno rest
      else .error errno := by
  unfold candidate at fails
  rw [search, fails]

/-- A search comes to nothing if it passes over every directory, none of them for a file that may
not be executed, and finds nothing in the last one. -/
theorem search_eq_noEntry_iff :
    search attempt name denied latest directories = .error .noEntry ↔
      denied = false ∧ (directories = [] → latest = .noEntry) ∧
        (∀ path ∈ directories.map (candidate name), ∃ errno, IsStray errno ∧
          attempt path = .error errno) ∧
        ∀ path, (directories.map (candidate name)).getLast? = some path →
          attempt path = .error .noEntry := by
  induction directories generalizing denied latest with
  | nil =>
      have denial : Errno.accessDenied ≠ .noEntry := by decide
      cases denied <;> simp [search, denial]
  | cons directory rest hypothesis =>
      cases tried : attempt (candidate name directory) with
      | ok loaded => simp [search_cons_ok tried, tried]
      | error errno =>
          rw [search_cons_error tried]
          by_cases passed : isPassedOver errno = true
          · rw [if_pos passed, hypothesis]
            have stray : IsStray errno ↔ errno ≠ .accessDenied := and_iff_right passed
            cases rest with
            | nil => simp [tried, stray, and_assoc]
            | cons other rest => simp [tried, stray, and_assoc]
          · have stops : errno ≠ .noEntry := by
              rintro rfl
              exact passed isStray_noEntry.1
            have unpassed : ¬ IsStray errno := fun stray => passed stray.1
            simp [passed, stops, tried, unpassed]

end Searching

section Naming

variable (files : FileTree) (luggage : Luggage) (origin : Place)

/-- A program is said to be missing: at every path where it is looked for there is a reason to look
on, and at the last one it is that something is not there. -/
structure Missing (words : List Bytes) (directories : List Bytes) (name : Bytes) : Prop where
  short : name.contains FileTree.slash = true ∨ name.length ≤ FileTree.longestName
  passed : ∀ path ∈ candidates directories name, ∃ errno, IsStray errno ∧
    Strays files luggage origin words errno path
  last : ∀ path, (candidates directories name).getLast? = some path →
    Strays files luggage origin words .noEntry path

/-- The name of a program leads somewhere. -/
def Leads (directories : List Bytes) (name : Bytes) : Prop :=
  ∃ path ∈ candidates directories name, ∃ found, files.resolve origin path = .ok found

/-- Where a name leads nowhere, that is because something is not there, and where it leads to a
text, the interpreters of that are there. -/
structure Plain (directories : List Bytes) (name : Bytes) : Prop where
  short : name.contains FileTree.slash = true ∨ name.length ≤ FileTree.longestName
  absent : ∀ path ∈ candidates directories name, ∀ errno,
    files.resolve origin path = .error errno → errno = .noEntry
  interpreted : ∀ path ∈ candidates directories name, ∀ found errno,
    files.resolve origin path = .ok found → ¬ Astray files luggage origin errno nestingLimit path

end Naming

theorem locate_eq_noEntry_iff {directories : List Bytes} (named : name ≠ []) :
    locate (fun path => load files luggage origin path words) directories name =
        .error .noEntry ↔ Missing files luggage origin words directories name := by
  have nonempty : ¬ name.isEmpty = true := by simpa using named
  unfold locate
  rw [if_neg nonempty]
  by_cases slashed : name.contains FileTree.slash = true
  · rw [if_pos slashed, load_eq_error_iff isStray_noEntry]
    have only : candidates directories name = [name] := if_pos slashed
    constructor
    · intro strays
      refine ⟨.inl slashed, ?_, ?_⟩
      · rw [only]
        rintro path member
        cases List.mem_singleton.1 member
        exact ⟨_, isStray_noEntry, strays⟩
      · rw [only]
        rintro path ⟨⟩
        exact strays
    · intro missing
      exact missing.last name (by rw [only]; rfl)
  · rw [if_neg slashed]
    have all : candidates directories name = directories.map (candidate name) := if_neg slashed
    by_cases long : FileTree.longestName < name.length
    · have tooLong : Errno.nameTooLong ≠ .noEntry := by decide
      rw [if_pos long]
      constructor
      · intro fails
        exact absurd (Except.error.inj fails) tooLong
      · intro missing
        exact absurd long (Nat.not_lt.2 (missing.short.resolve_left slashed))
    · rw [if_neg long, search_eq_noEntry_iff]
      constructor
      · rintro ⟨-, -, passed, last⟩
        refine ⟨.inr (Nat.not_lt.1 long), ?_, ?_⟩
        · intro path member
          obtain ⟨errno, stray, fails⟩ := passed path (all ▸ member)
          exact ⟨errno, stray, (load_eq_error_iff stray).1 fails⟩
        · intro path isLast
          exact (load_eq_error_iff isStray_noEntry).1 (last path (all ▸ isLast))
      · rintro ⟨-, passed, last⟩
        refine ⟨rfl, fun _ => rfl, ?_, ?_⟩
        · intro path member
          obtain ⟨errno, stray, strays⟩ := passed path (all ▸ member)
          exact ⟨errno, stray, (load_eq_error_iff stray).2 strays⟩
        · intro path isLast
          exact (load_eq_error_iff isStray_noEntry).2 (last path (all ▸ isLast))

/-- Where nothing else is wrong, a program is said to be missing exactly if its name leads
nowhere. -/
theorem missing_iff_of_plain {directories : List Bytes}
    (plain : Plain files luggage origin directories name) :
    Missing files luggage origin words directories name ↔
      ¬ Leads files origin directories name := by
  constructor
  · rintro missing ⟨path, member, found, resolved⟩
    obtain ⟨errno, -, fails | ⟨-, astray⟩⟩ := missing.passed path member
    · cases fails.symm.trans resolved
    · exact plain.interpreted path member found errno resolved astray
  · intro nowhere
    have absent (path : Bytes) (member : path ∈ candidates directories name) :
        files.resolve origin path = .error .noEntry := by
      cases resolved : files.resolve origin path with
      | ok found => exact absurd ⟨path, member, found, resolved⟩ nowhere
      | error errno => rw [plain.absent path member errno resolved]
    exact {
      short := plain.short
      passed := fun path member => ⟨.noEntry, isStray_noEntry, .inl (absent path member)⟩
      last := fun path isLast => .inl (absent path (List.mem_of_getLast? isLast)) }

end Loading

/-! ### A runner that is refused its child -/

namespace Runner

/-- The code of the failure tells whether the program is there. -/
def TellsPresence (command : Command) (kernel : Kernel) (task : Task) (code : Int) : Prop :=
  let leads := Loading.Leads (kernel.view task) task.directory task.searchPath command.program
  (code = Failure.notFoundCode ↔ ¬ leads) ∧ (code = Failure.cannotExecuteCode ↔ leads)

/-- What comes of a command that cannot be started. -/
structure Refused (command : Command) (kernel : Kernel) (task : Task) (cause : Cause) : Prop where
  numbered : ∃ errno, cause = .numbered errno
  notFound : (Failure.spawn command.program.lossy cause).exitCode = Failure.notFoundCode ↔
    Loading.Missing (kernel.view task) (kernel.luggage task task.environment) task.directory
      command.words task.searchPath command.program
  cannotExecute :
    (Failure.spawn command.program.lossy cause).exitCode = Failure.cannotExecuteCode ↔
      ¬ Loading.Missing (kernel.view task) (kernel.luggage task task.environment) task.directory
        command.words task.searchPath command.program
  plain : Loading.Plain (kernel.view task) (kernel.luggage task task.environment) task.directory
      task.searchPath command.program →
    TellsPresence command kernel task (Failure.spawn command.program.lossy cause).exitCode

variable {runner : Runner} {command : Command} {kernel after : Kernel} {task : Task}
  {cause : Cause}

theorem exitCode_spawn_iff (program : String) (errno : Errno) :
    ((Failure.spawn program (.numbered errno)).exitCode = Failure.notFoundCode ↔
      errno = .noEntry) ∧
    ((Failure.spawn program (.numbered errno)).exitCode = Failure.cannotExecuteCode ↔
      errno ≠ .noEntry) := by
  by_cases absent : errno = .noEntry
  · simp [Failure.exitCode, Cause.isNotFound, absent, Failure.notFoundCode,
      Failure.cannotExecuteCode]
  · simp [Failure.exitCode, Cause.isNotFound, absent, Failure.notFoundCode,
      Failure.cannotExecuteCode]

/-- A kernel that refuses a runner its child is as before, and the cause is why the program could
not be loaded. -/
theorem refused_of_attempt (whole : ∀ word ∈ command.words, (0 : UInt8) ∉ word)
    (refused : kernel.attempt task (.spawn (runner.spawning command)) =
      .answered (.error cause) after) :
    after = kernel ∧ Refused command kernel task cause := by
  have clean : ¬ (((runner.spawning command).path :: (runner.spawning command).args).any
      fun word => word.contains 0) = true := by
    simpa [Command.words, spawning] using whole
  have spawned : kernel.spawn task (runner.spawning command) = (.error cause, after) := by
    obtain ⟨reply, rest⟩ := Attempt.answered.inj refused
    exact Prod.ext reply rest
  rw [Kernel.spawn_eq, if_neg clean] at spawned
  have locates : kernel.loadChild task (runner.spawning command) =
      Loading.locate (fun path => Loading.load (kernel.view task)
        (kernel.luggage task task.environment) task.directory path command.words)
        task.searchPath command.program := rfl
  cases loaded : kernel.loadChild task (runner.spawning command) with
  | ok program =>
      rw [loaded] at spawned
      cases spawned
  | error errno =>
      rw [loaded] at spawned
      cases spawned
      have isMissing : errno = .noEntry ↔
          Loading.Missing (kernel.view task) (kernel.luggage task task.environment) task.directory
            command.words task.searchPath command.program := by
        rw [← Loading.locate_eq_noEntry_iff command.program_ne_nil, ← locates, loaded,
          Except.error.injEq]
      obtain ⟨notFound, cannotExecute⟩ := exitCode_spawn_iff command.program.lossy errno
      rw [isMissing] at notFound
      rw [ne_eq, isMissing] at cannotExecute
      refine ⟨rfl, ⟨errno, rfl⟩, notFound, cannotExecute, fun plain => ?_⟩
      have absent : Loading.Missing (kernel.view task) (kernel.luggage task task.environment)
          task.directory command.words task.searchPath command.program ↔ _ :=
        Loading.missing_iff_of_plain plain
      exact ⟨notFound.trans absent, cannotExecute.trans ((not_congr absent).trans not_not)⟩

/-- A process that waits for its child asks for no other. -/
theorem spawn_notMem_of_awaitChild {label : String} {child : Pid} {talk : List Exchange}
    {reached : Process (Except Failure UInt8)} {spawning : Spawning} {reply : Except Cause Pid}
    (run : Run Process.Step (awaitChild child label).run talk reached) :
    ⟨.spawn spawning, reply⟩ ∉ talk := by
  intro member
  obtain ⟨further, value, ends⟩ := Waited.completable child label talk reached run
  obtain ⟨waited, whole, -⟩ := Waited.run_iff.1 (run.trans ends)
  have among : ⟨.spawn spawning, reply⟩ ∈ waited.talk label child :=
    whole ▸ List.mem_append_left further member
  have passed (signal : Signal) (sent : Except Errno Unit) :
      ⟨.spawn spawning, reply⟩ ∉ Process.passing child (signal, sent) := by
    cases sent <;> simp [Process.passing, Process.complaint]
  simp [Waited.talk, passed] at among

/-- Once it is refused its child, a runner has come to an end that says so. -/
theorem done_of_refused {talk : List Exchange} {reached : Process (Except Failure UInt8)}
    {spawning : Spawning} (run : Run Process.Step (runner.execute command).run talk reached)
    (member : ⟨.spawn spawning, .error cause⟩ ∈ talk) :
    spawning = runner.spawning command ∧
      reached = .done (.error (.spawn command.program.lossy cause)) := by
  rw [execute_eq] at run
  rcases Process.run_call_cases run with ⟨rfl, -⟩ | ⟨_, _, rfl, begun⟩
  · cases member
  rcases Process.run_call_cases begun with ⟨rfl, -⟩ | ⟨terminate, _, rfl, half⟩
  · simp at member
  rcases Process.run_call_cases half with ⟨rfl, -⟩ | ⟨hangup, _, rfl, listens⟩
  · simp at member
  rcases Process.run_call_cases listens with ⟨rfl, -⟩ | ⟨reply, rest, rfl, asked⟩
  · simp at member
  cases reply with
  | error why =>
      obtain ⟨rfl, rfl⟩ := Process.eq_nil_of_run_done asked
      have is : spawning = runner.spawning command ∧ cause = why := by simpa using member
      exact ⟨is.1, by rw [is.2]⟩
  | ok child =>
      have later : ⟨.spawn spawning, .error cause⟩ ∈ rest := by simpa using member
      exact absurd later (spawn_notMem_of_awaitChild asked)

/-- A command that the kernel does not start is told about with the cause, no child is left, and
the code of the failure says what the cause was. -/
theorem unspawned_of_run {pid : Pid} {first : Kernel} {trace : List Moment} {moment : Moment}
    {last : Process (Except Failure UInt8) × Kernel} {spawning : Spawning}
    (whole : ∀ word ∈ command.words, (0 : UInt8) ∉ word)
    (run : Run (Proceeds pid) ((runner.execute command).run, first) trace last)
    (member : moment ∈ trace) (made : moment.exchange? = some ⟨.spawn spawning, .error cause⟩)
    (answered : moment.before.attempt task (.spawn spawning) =
      .answered (.error cause) moment.after) :
    last.1 = .done (.error (.spawn command.program.lossy cause)) ∧
      moment.after = moment.before ∧ Refused command moment.before task cause := by
  have talked : ⟨.spawn spawning, .error cause⟩ ∈ talkOf trace :=
    List.mem_filterMap.2 ⟨moment, member, made⟩
  obtain ⟨rfl, came⟩ := done_of_refused (run_talkOf run) talked
  obtain ⟨same, refused⟩ := refused_of_attempt whole answered
  exact ⟨came, same, refused⟩

end Runner

/-! ### A text without its interpreter -/

/-- A machine with a text whose interpreter is not there. -/
def Machine.bootScript : Kernel :=
  { Machine.boot true [] with
    files :=
      ⟨[(place "/script", .file programMode (.text (.ofBytes (Bytes.ofString "#!/gone\n"))))]⟩ }

def Machine.scriptCommand : Command := ⟨Bytes.ofString "/script", [], by decide, by decide⟩

/-- The run of a runner up to where it asks for its child. -/
def Machine.runScript : List Moment × Process (Except Failure UInt8) × Kernel :=
  goAlone workerPid 3 ((Runner.inherited.execute scriptCommand).run, bootScript)

/-- The kernel looks for the interpreter of the text in vain, and the failure says that the command
was not found. -/
theorem Runner.refused_runScript :
    let spawning := Runner.inherited.spawning Machine.scriptCommand
    let cause : Cause := .numbered .noEntry
    (∀ word ∈ Machine.scriptCommand.words, (0 : UInt8) ∉ word) ∧
      ∃ (trace : List Moment) (last : Process (Except Failure UInt8) × Kernel) (moment : Moment)
        (task : Task),
        Run (Proceeds Machine.workerPid)
          ((Runner.inherited.execute Machine.scriptCommand).run, Machine.bootScript) trace last ∧
        moment ∈ trace ∧ moment.exchange? = some ⟨.spawn spawning, .error cause⟩ ∧
        moment.before.attempt task (.spawn spawning) = .answered (.error cause) moment.after ∧
        last.1 = .done (.error (.spawn Machine.scriptCommand.program.lossy cause)) ∧
        moment.after = moment.before ∧
        Refused Machine.scriptCommand moment.before task cause := by
  intro spawning cause
  have whole : ∀ word ∈ Machine.scriptCommand.words, (0 : UInt8) ∉ word := by decide
  let kernel := Machine.runScript.2.2
  have sofar : Run (Proceeds Machine.workerPid)
      ((Runner.inherited.execute Machine.scriptCommand).run, Machine.bootScript)
      Machine.runScript.1 (Runner.inherited.asks Machine.scriptCommand, kernel) :=
    run_goAlone Machine.workerPid 3 _
  have asked : (kernel.task? Machine.workerPid).map (fun task => (kernel.spawn task spawning).1) =
      some (.error cause) := by
    decide +kernel
  obtain ⟨task, found, refused⟩ := Option.map_eq_some_iff.1 asked
  have answered : kernel.attempt task (.spawn spawning) =
      .answered (.error cause) (kernel.spawn task spawning).2 := by
    rw [← refused]
    rfl
  have run := sofar.next (.own (.call (.spawn spawning) _ (.error cause)) (.served found answered))
  have member := List.mem_append_right Machine.runScript.1 (List.mem_singleton_self
    (⟨kernel, some ⟨.spawn spawning, .error cause⟩, (kernel.spawn task spawning).2⟩ : Moment))
  exact ⟨whole, _, _, _, task, run, member, rfl, answered,
    unspawned_of_run whole run member rfl answered⟩

/-- The text is there, but the code of the failure is that of a command that is not found. -/
theorem Runner.not_tellsPresence : ¬ ∀ (runner : Runner) (command : Command) (kernel after : Kernel)
    (task : Task) (cause : Cause), (∀ word ∈ command.words, (0 : UInt8) ∉ word) →
      kernel.attempt task (.spawn (runner.spawning command)) = .answered (.error cause) after →
        TellsPresence command kernel task (Failure.spawn command.program.lossy cause).exitCode := by
  intro tells
  let worker := Machine.worker true
  let spawning := Runner.inherited.spawning Machine.scriptCommand
  have refused : (Machine.bootScript.spawn worker spawning).1 = .error (.numbered .noEntry) := by
    decide +kernel
  have answered : Machine.bootScript.attempt worker (.spawn spawning) =
      .answered (.error (.numbered .noEntry)) (Machine.bootScript.spawn worker spawning).2 := by
    rw [← refused]
    rfl
  obtain ⟨absent, -⟩ := tells .inherited Machine.scriptCommand Machine.bootScript _ worker _
    (by decide) answered
  have leads : ((Machine.bootScript.view worker).resolve worker.directory
      Machine.scriptCommand.program).toBool = true := by
    decide +kernel
  obtain ⟨found, resolved⟩ : ∃ found, (Machine.bootScript.view worker).resolve worker.directory
      Machine.scriptCommand.program = .ok found := by
    cases resolved : (Machine.bootScript.view worker).resolve worker.directory
        Machine.scriptCommand.program with
    | ok found => exact ⟨found, rfl⟩
    | error errno =>
        rw [resolved] at leads
        cases leads
  exact absent.1 rfl ⟨Machine.scriptCommand.program, by decide +kernel, found, resolved⟩

end HostnameSandbox
