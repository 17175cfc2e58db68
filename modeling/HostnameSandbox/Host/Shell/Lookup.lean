import HostnameSandbox.Host.Loading
import HostnameSandbox.Host.Shell.Builtin
import HostnameSandbox.Host.Shell.Redirecting

/-!
# Finding commands

A command is a function, one that the shell carries out itself, or a program in one of the
directories of the search path.  Where a program was found is remembered.
-/

namespace HostnameSandbox

namespace Shell

namespace Lookup

/-- What a command is. -/
inductive Found where
  | unknown
  | function (function : Function)
  | builtin (builtin : Builtin)
  /-- A program, in the directory with a number if it has to be searched for. -/
  | program (place : Option Nat)

/-- The directories of a search path. -/
def directories (path : Bytes) : List Bytes := path.splitOn 0x3A

/-- The path of a name in a directory; an empty one is where the shell is. -/
def within (directory name : Bytes) : Bytes :=
  if directory.isEmpty then name else directory ++ FileTree.slash :: name

/-- The search path. -/
def searchPath (state : State) : Bytes := (state.value? "PATH").getD []

/-- The search path that leads to the programs of the system. -/
def standardPath : Bytes :=
  Bytes.ofString "/usr/local/sbin:/usr/local/bin:/usr/sbin:/usr/bin:/sbin:/bin"

/-- Whether a name is a path. -/
def isPath (name : Bytes) : Bool := name.contains FileTree.slash

/-- The first directory with a program of a name, the numbers of which start at `place`, or the
error that says best why there is none. -/
def search (name : Bytes) : Nat → Errno → List Bytes → Doing (Except Errno Nat)
  | _, errno, [] => return .error errno
  | place, errno, directory :: rest => do
      match (← Doing.ask (.examine (within directory name) true) : Except Errno FileFacts) with
      | .error other =>
          let passes := other = .noEntry || other = .notDirectory
          search name (place + 1) (if passes then errno else other) rest
      | .ok facts =>
          if facts.kind = .regular && facts.mayExecute then return .ok place
          else search name (place + 1) .accessDenied rest

/-- Remembers where a program was found. -/
def track (name : Bytes) (place : Nat) : Doing Unit :=
  modify fun state =>
    let new : Tracked := ⟨name, place, false⟩
    { state with
      tracked := if state.tracked.any fun other => other.name = name then
          state.tracked.map fun other => if other.name = name then new else other
        else state.tracked ++ [new] }

/-- How a command is looked for. -/
structure Manner where
  /-- Whether to complain if there is none. -/
  complains : Bool
  /-- Whether functions count. -/
  withFunctions : Bool
  /-- The path that is searched instead of the usual one. -/
  path : Option Bytes

/-- Finds a command. -/
def find (name : Bytes) (manner : Manner) : Doing Found := do
  let state ← get
  if isPath name then return .program none
  else
    match (if manner.withFunctions then state.function? name else none), Builtin.find? name with
    | some function, _ => return .function function
    | none, some builtin => return .builtin builtin
    | none, none =>
        let known := if manner.path.isNone then
          state.tracked.find? fun other => other.name = name && !other.isStale else none
        match known with
        | some known => return .program (some known.place)
        | none =>
            let path := manner.path.getD (searchPath state)
            match ← search name 0 .noEntry (directories path) with
            | .ok place =>
                if manner.path.isNone then track name place
                return .program (some place)
            | .error errno =>
                modify fun state =>
                  { state with tracked := state.tracked.filter fun other => other.name ≠ name }
                if manner.complains then
                  warn (name ++ Bytes.ofString (": " ++
                    Redirecting.errorText errno "not found"))
                return .unknown

/-- The path of a program that was found. -/
def pathOf (name path : Bytes) : Option Nat → Bytes
  | none => name
  | some place => within (((directories path)[place]?).getD []) name

/-- Turns into the program in a file; a text in no format is handed to a shell.  There is an error
if that fails. -/
def becomeFile (path : Bytes) (words : List Bytes) (environment : Environment) : Doing Errno := do
  let errno : Errno ← Doing.ask (.become path words environment)
  if errno = .badFormat then
    Doing.ask (.become Loading.shellPath (Loading.shellPath :: path :: words.tail) environment)
  else return errno

/-- Turns into the program of a name in one of some directories. -/
def becomeWithin (name : Bytes) (words : List Bytes) (environment : Environment) :
    Errno → List Bytes → Doing Errno
  | latest, [] => return latest
  | latest, directory :: rest => do
      let errno ← becomeFile (within directory name) words environment
      let passes := errno = .noEntry || errno = .notDirectory
      becomeWithin name words environment (if passes then latest else errno) rest

/-- The errors that mean that a program is not there. -/
def isMissing (errno : Errno) : Bool :=
  errno = .noEntry || errno = .notDirectory || errno = .linkLoop || errno = .nameTooLong

/-- Turns into a program, which is searched for from a directory of the path on. -/
def become {α : Type} (words : List Bytes) (path : Bytes) (place : Nat) : Doing α := do
  let environment := (← get).store.environment
  let name := words.head?.getD []
  let errno ← if isPath name then becomeFile name words environment
    else becomeWithin name words environment .noEntry ((directories path).drop place)
  failAs .ended (if isMissing errno then 127 else 126)
    (name ++ Bytes.ofString (": " ++ Redirecting.errorText errno "not found"))

end Lookup

end Shell

end HostnameSandbox
