import HostnameSandbox.Host.Shell.Evaluation

/-!
# The shell

The shell carries out a script: a text among its words, a file, or what it reads from standard input.
In a conversation it asks for every line, and goes on after something was wrong.
-/

namespace HostnameSandbox

namespace Shell

/-- A shell that has been started and done nothing. -/
def State.initial (name : Bytes) (pid : Pid) : State where
  name := name
  pid := pid
  isInner := false
  store := Variables.standard
  frames := []
  functions := []
  tracked := []
  aliases := []
  settings := []
  parameters := []
  optionIndex := 1
  optionOffset := none
  traps := []
  arrived := []
  isAlerted := false
  settled := []
  ignored := []
  status := 0
  keptStatus := none
  expandedStatus := 0
  background := none
  jobs := []
  loops := 0
  skip := .nothing
  line := 0
  scriptLine := 1
  outerLine := 1
  atEnd := false
  isShowing := false
  command := none
  documents := []
  nextDocument := 0
  directory := none
  physical := none
  kept := []
  printed := []
  overlaid := []

namespace Session

/-- Takes variables from the environment, and finds out where the shell is. -/
def takeEnvironment (environment : Environment) : Doing Unit := do
  (environment.value? "OPTIND").forM fun value => do let _ ← number value
  let parent : Pid ← Doing.ask .parentPid
  let own : Environment :=
    [(Bytes.ofString "IFS", Expansion.usualSeparators), (Bytes.ofString "OPTIND", digits 1),
      (Bytes.ofString "PPID", integerText parent)]
  modify fun state => { state with store := .ofEnvironment environment own }
  let path := ((← get).value? "PWD").filter FileTree.isAbsolute
  let isHere ← match path with
    | none => pure false
    | some path => do
        match (← Doing.ask (.examine path true) : Except Errno FileFacts),
            (← Doing.ask (.examine FileTree.here true) : Except Errno FileFacts) with
        | .ok one, .ok other => pure (one.place = other.place)
        | _, _ => pure false
  Placing.settle (path.filter fun _ => isHere) false

/-- Switches settings as the words of a shell ask for.  As long as they are read, settings about
which nothing has been said count as on. -/
def takeSettings (words : List Bytes) : Doing Settings.Progress := do
  modify fun state => { state with settings := Setting.table.map Prod.fst }
  let progress ← Settings.switch true words
  let printed := (← get).printed
  modify fun state => { state with settings := [] }
  let _ ← Settings.switch true words
  modify fun state => { state with printed }
  return progress

/-- What a shell carries out: a text, and the script behind it. -/
structure Task where
  text : Option Bytes
  script : Script

/-- Turns a setting on. -/
def turnOn (setting : Setting) : Doing Unit :=
  modify fun state => { state with settings := Setting.switch state.settings setting true }

/-- Finds out from the words of a shell what it has to do. -/
def takeWords (words : List Bytes) : Doing Task := do
  let progress ← takeSettings words
  let input := Script.ofDescriptor Descriptor.input
  let task ← match progress.hasScript, progress.rest with
    | true, [] => failText "-c requires an argument"
    | true, text :: rest => do
        modify fun state =>
          { state with name := rest.head?.getD state.name, parameters := rest.tail }
        pure ⟨some text, input⟩
    | false, [] => do
        turnOn .standardInput
        pure ⟨none, input⟩
    | false, path :: rest => do
        if (← get).has .standardInput then
          modify fun state => { state with parameters := path :: rest }
          pure ⟨none, input⟩
        else
          let descriptor ← Simple.openScript path
          modify fun state => { state with name := path, parameters := rest }
          pure ⟨none, .ofDescriptor descriptor⟩
  if (← get).has .interactive then turnOn .monitors
  Settings.takeEffect
  return task

/-- What a turn of a conversation comes to. -/
inductive Turn where
  | over
  | ended (script : Script)
  | going (script : Script)

/-- How often a conversation does not end with its script at most, if that is asked for. -/
def patience : Nat := 50

/-- Reads a line and carries it out. -/
def turn (script : Script) : Doing Turn := do
  modify fun state => { state with atEnd := false }
  let prompt (name : String) : Doing Bytes := do
    let state ← get
    if state.has .interactive then
      Script.expanded (output Evaluation.evaluate) ((state.value? name).getD [])
    else return []
  let first ← prompt "PS1"
  if !first.isEmpty then say first
  match ← script.next (← prompt "PS2") with
  | (.ended, script) => return .ended script
  | (.commands code, script) => do
      modify fun state => { state with outerLine := state.scriptLine }
      let _ ← Evaluation.evaluate {} code
      if (← get).skip = .nothing then return .going script
      else
        Simple.endReturn
        return .over

/-- Gives a command up, if the shell is in a conversation and the command was not the last one. -/
def giveUp (escape : Escape) : Doing Unit := do
  let state ← get
  let goesOn := (escape = .failed || escape = .interrupted) && state.has .interactive &&
    !state.isInner
  if goesOn then
    leaveCommands (some escape)
    leaveFrames 0
    if escape = .interrupted then say [0x0A]
  else throw escape

/-- Carries out the script of a shell line by line, at most so many lines; it has ended so many times
before. -/
def converse : Nat → Nat → Script → Doing Unit
  | 0, _, _ => return ()
  | count + 1, ends, script => do
      match ← Doing.attempt (turn script) with
      | .ok .over => return ()
      | .ok (.going script) => converse count 0 script
      | .ok (.ended script) => do
          let state ← get
          if patience ≤ ends then return ()
          else if state.has .ignoresEnd then
            say (Bytes.ofString "\nUse \"exit\" to leave shell.\n")
            converse count (ends + 1) script
          else if state.has .interactive then say [0x0A]
      | .error escape => do
          let line := (← get).scriptLine
          giveUp escape
          converse count ends (script.discard line)

/-- Carries out what a shell has to do. -/
def perform (task : Task) : Doing Unit := do
  let isConversation := (← get).has .standardInput || task.text.isNone
  let result ← Doing.attempt do
    task.text.forM fun text => do
      let _ ← runText Evaluation.evaluate {} text
  match result with
  | .ok () => if isConversation then converse lineLimit 0 task.script
  | .error escape => do
      giveUp escape
      converse lineLimit 0 task.script

/-- A whole session, which ends with an exit code. -/
def whole (start : Start) : Doing UInt8 := do
  let escape := match ← Doing.attempt do
      takeEnvironment start.environment
      perform (← takeWords start.args) with
    | .ok () => none
    | .error escape => some escape
  conclude Evaluation.evaluate escape

end Session

/-- The shell. -/
def program : Program := fun start => do
  let pid : Pid ← Process.ask .ownPid
  let (code, _) ← (Session.whole start).run.run (.initial start.name pid)
  match code with
  | .ok code => return code
  | .error _ => return 2

end Shell

end HostnameSandbox
