import HostnameSandbox.Host.Numeral.Layout
import HostnameSandbox.Host.Shell.Limit
import HostnameSandbox.Host.Shell.Setting
import HostnameSandbox.Host.Shell.Variables

/-!
# The state of a shell

What a shell keeps between two commands, what a command does with it, and how a command can end
other than by going on to the next.
-/

namespace HostnameSandbox

namespace Shell

/-- A process of a job, and how it has ended. -/
structure Member where
  pid : Pid
  ending : Option ExitStatus
deriving DecidableEq, Repr

/-- The processes of a pipe, the last one of which stands for all. -/
structure Job where
  number : Nat
  members : List Member
  /-- Whether somebody has asked how it ended. -/
  isKnown : Bool
deriving DecidableEq, Repr

namespace Job

/-- Whether a process of the job is still there. -/
def isRunning (job : Job) : Bool := job.members.any fun found => found.ending.isNone

/-- How the last process of the job ended. -/
def ending (job : Job) : Option ExitStatus := job.members.getLast?.bind Member.ending

end Job

/-- What a variable or the settings were before they became local. -/
inductive Former where
  | variable (name : Bytes) (former : Option Variable)
  | settings (former : List Setting)

/-- What commands are passed over until. -/
inductive Skip where
  | nothing
  /-- Until so many loops are left. -/
  | breaking (count : Nat)
  /-- Until so many loops but one are left, and the next run of that one. -/
  | continuing (count : Nat)
  /-- Until a function or a file is left; `isGiven` tells that a status was named. -/
  | returning (isGiven : Bool)
deriving DecidableEq, Repr

/-- What an open file was before it was redirected. -/
inductive Kept where
  | closed
  | saved (descriptor : Descriptor)
deriving DecidableEq, Repr

/-- A function. -/
structure Function where
  name : Bytes
  body : Code

/-- Where in the search path a program has been found; what was found is stale if the directory of
the shell has changed since. -/
structure Tracked where
  name : Bytes
  place : Nat
  isStale : Bool
deriving DecidableEq, Repr

/-- What a shell keeps between two commands. -/
structure State where
  /-- What the shell calls itself. -/
  name : Bytes
  pid : Pid
  /-- Whether the shell has come out of another one. -/
  isInner : Bool
  store : Variables
  /-- What local variables were before, for every function that runs. -/
  frames : List (List Former)
  functions : List Function
  /-- Where in the search path programs have been found. -/
  tracked : List Tracked
  aliases : List (Bytes × Bytes)
  settings : List Setting
  parameters : List Bytes
  /-- Which parameter is looked at for options next. -/
  optionIndex : Nat
  /-- How many bytes of a parameter with options have been looked at. -/
  optionOffset : Option Nat
  /-- What is done on signals; number 0 stands for the end of the shell. -/
  traps : List (Nat × Bytes)
  /-- The signals that have arrived. -/
  arrived : List Nat
  /-- Whether a signal has arrived about which nothing has been done yet. -/
  isAlerted : Bool
  /-- The signals about which something has been said to the system. -/
  settled : List Nat
  /-- The signals that are ignored for good. -/
  ignored : List Nat
  status : Nat
  /-- The status that the shell ends with, or that a trap leaves alone. -/
  keptStatus : Option Nat
  /-- The status of the last command whose output was expanded. -/
  expandedStatus : Nat
  background : Option Pid
  jobs : List Job
  /-- How many loops run. -/
  loops : Nat
  skip : Skip
  /-- The line that complaints tell. -/
  line : Nat
  /-- The line up to which the script has been read. -/
  scriptLine : Nat
  /-- The line up to which the script that is no part of another one has been read. -/
  outerLine : Nat
  /-- Whether the last commands that were read end the script. -/
  atEnd : Bool
  /-- Whether what stands in front of shown commands is being expanded. -/
  isShowing : Bool
  /-- The command that complaints tell. -/
  command : Option Bytes
  documents : List (Nat × Document)
  nextDocument : Nat
  /-- The path of the directory that the shell takes itself to be in. -/
  directory : Option Bytes
  /-- The path of that directory that leads through no links, when it has been asked for. -/
  physical : Option Bytes
  /-- What open files were before they were redirected, for all commands that run. -/
  kept : List (List (Nat × Kept))
  /-- What has been printed and not been written. -/
  printed : Bytes
  /-- What lies where the second words of commands are put, one over the other. -/
  overlaid : Bytes

/-- How a command ends other than by going on to the next. -/
inductive Escape where
  /-- Something is wrong. -/
  | failed
  /-- Somebody in a conversation does not want to wait for the end of the command. -/
  | interrupted
  /-- The shell is told to end. -/
  | exited
  /-- The last command has been carried out. -/
  | ended
deriving DecidableEq, Repr

/-- What a shell does. -/
abbrev Doing := ExceptT Escape (StateT State Process)

namespace Doing

/-- Makes a call. -/
def ask (request : Call) : Doing request.Reply :=
  (Process.ask request : Process request.Reply)

/-- Does something, and tells how it ended. -/
def attempt {α : Type} (doing : Doing α) : Doing (Except Escape α) := doing.run

/-- Goes on from a result. -/
def resume {α : Type} : Except Escape α → Doing α
  | .ok value => pure value
  | .error escape => throw escape

end Doing

namespace State

/-- Whether a setting is on. -/
def has (state : State) (setting : Setting) : Bool := state.settings.contains setting

/-- The value of a variable. -/
def value? (state : State) (name : String) : Option Bytes :=
  state.store.value? (Bytes.ofString name)

/-- The function with a name. -/
def function? (state : State) (name : Bytes) : Option Function :=
  state.functions.find? fun found => found.name = name

/-- What is done on a signal. -/
def trap? (state : State) (signal : Nat) : Option Bytes :=
  (state.traps.find? fun entry => entry.1 = signal).map Prod.snd

/-- The state with another action on a signal. -/
def setTrap (state : State) (signal : Nat) (action : Option Bytes) : State :=
  { state with
    traps := (action.toList.map fun action => (signal, action)) ++
      state.traps.filter fun entry => entry.1 != signal }

/-- The document with a number. -/
def document? (state : State) (number : Nat) : Option Document :=
  (state.documents.find? fun entry => entry.1 = number).map Prod.snd

end State

/-- Says something on standard error. -/
def say (text : Bytes) : Doing Unit :=
  (Process.write Descriptor.error text : Process Unit)

/-- The digits of a number. -/
def digits (number : Nat) : Bytes := Layout.digits 10 number

/-- The digits of an integer. -/
def integerText (number : Int) : Bytes := Layout.plain.integer number

/-- Complains, with the line and the command that is carried out. -/
def warn (message : Bytes) : Doing Unit := do
  let state ← get
  let separator := Bytes.ofString ": "
  say (state.name ++ separator ++ digits state.line ++ separator ++
    (state.command.elim [] fun command => command ++ separator) ++ message ++ [0x0A])

/-- Complains, and goes on elsewhere. -/
def failAs {α : Type} (escape : Escape) (status : Nat) (message : Bytes) : Doing α := do
  warn message
  modify fun state => { state with status }
  throw escape

/-- Complains, and fails. -/
def fail {α : Type} (message : Bytes) : Doing α := failAs .failed 2 message

/-- Complains with a text, and fails. -/
def failText {α : Type} (message : String) : Doing α := fail (Bytes.ofString message)

/-- Complains about something, and fails. -/
def failAbout {α : Type} (subject : Bytes) (message : String) : Doing α :=
  fail (subject ++ Bytes.ofString (": " ++ message))

/-- Complains about a number. -/
def failNumber {α : Type} (text : Bytes) : Doing α :=
  fail (Bytes.ofString "Illegal number: " ++ text)

/-- Prints; what is printed is written when the command has ended. -/
def print (text : Bytes) : Doing Unit :=
  modify fun state => { state with printed := state.printed ++ text }

/-- Prints a text. -/
def printText (text : String) : Doing Unit := print (Bytes.ofString text)

/-- Writes what has been printed; tells whether that could be done. -/
def flush : Doing Bool := do
  let state ← get
  if state.printed.isEmpty then return true
  else
    set { state with printed := [] }
    match (← Doing.ask (.write Descriptor.output state.printed) : Except Errno Unit) with
    | .ok () => return true
    | .error _ => return false

/-- The number that a text spells, perhaps between blanks. -/
def integer (text : Bytes) : Doing Int :=
  match Numeral.integer? (some 10) text with
  | some ⟨value, rest⟩ =>
      if Numeral.clampSigned value = value && rest.all Numeral.isBlank then return value
      else failNumber text
  | none => failNumber text

/-- The greatest number that commands take. -/
def greatestNumber : Int := Int.pow 2 31 - 1

/-- The number that a text spells, which has to be neither negative nor too large. -/
def number (text : Bytes) : Doing Nat := do
  let value ← integer text
  if 0 ≤ value && value ≤ greatestNumber then return value.toNat else failNumber text

/-- What happens when certain variables change. -/
def notice (name : Bytes) (value : Option Bytes) : Doing Unit := do
  if name = Bytes.ofString "PATH" then modify fun state => { state with tracked := [] }
  else if name = Bytes.ofString "OPTIND" then
    let index ← number (value.getD [])
    modify fun state => { state with optionIndex := max 1 index, optionOffset := none }

/-- Gives a variable a value or takes it away, with nothing happening because of it. -/
def assignSilently (name : Bytes) (value : Option Bytes) (qualities : Qualities) : Doing Unit := do
  let state ← get
  if state.store.isReadOnly name then failAbout name "is read only"
  else
    let qualities := if state.has .exportsAll then { qualities with isExported := true }
      else qualities
    set { state with store := state.store.assign name value qualities }

/-- Gives a variable a value or takes it away. -/
def assign (name : Bytes) (value : Option Bytes) (qualities : Qualities) : Doing Unit := do
  let state ← get
  if (state.store.find? name).isSome && !state.store.isReadOnly name then
    notice name value
  assignSilently name value qualities

/-- Gives a value to what a word names up to an equals sign, which has to be a variable. -/
def assignChecked (word : Bytes) (value : Option Bytes) (qualities : Qualities) : Doing Unit :=
  let name := word.takeWhile (· != 0x3D)
  if isName name then assign name value qualities else failAbout name "bad variable name"

/-- Gives something a value. -/
def setVariable (name value : Bytes) : Doing Unit := assignChecked name (some value) {}

/-- Makes a variable local to the function that runs, with another value if there is one. -/
def makeLocal (name : Bytes) (value : Option Bytes) (qualities : Qualities) : Doing Unit := do
  let state ← get
  let former := state.store.find? name
  match former with
  | none => do
      let qualities := { qualities with isFixed := true }
      if value.isSome then assign name value qualities else assignChecked name none qualities
  | some found => do
      set { state with store := state.store.put { found with isFixed := true } }
      if value.isSome then assign name value qualities
  modify fun state =>
    { state with
      frames := match state.frames with
        | frame :: frames => (.variable name former :: frame) :: frames
        | [] => [] }

/-- Puts back what something local was before. -/
def restore : Former → Doing Unit
  | .settings settings => modify fun state => { state with settings }
  | .variable name none => do
      modify fun state =>
        { state with
          store := match state.store.find? name with
            | some found =>
                state.store.put { found with isFixed := false, isReadOnly := false }
            | none => state.store }
      assignChecked name none {}
  | .variable name (some former) => do
      if former.value ≠ (← get).store.value? name then notice name former.value
      modify fun state => { state with store := state.store.put former }

/-- Puts back what was local beyond so many frames. -/
def leaveFrames (depth : Nat) : Doing Unit := do
  let state ← get
  let left := state.frames.take (state.frames.length - depth)
  set { state with frames := state.frames.drop left.length }
  left.flatten.forM restore

end Shell

end HostnameSandbox
