import HostnameSandbox.Text.Lossy

/-!
# Commands

A command is a program name and its arguments.  Both are raw text and are passed on
unchanged; the name is not empty and holds no NUL byte.
-/

namespace HostnameSandbox

/-- Why a list of words is not a command. -/
inductive InvalidCommand where
  | missing
  | emptyName
  | nulInName
deriving DecidableEq, Repr

/-- What a reader is told about a list of words that is not a command. -/
def InvalidCommand.text : InvalidCommand → String
  | .missing => "missing command to run"
  | .emptyName => "command name cannot be empty"
  | .nulInName => "command name cannot contain NUL bytes"

/-- A program and its arguments. -/
structure Command where
  program : Bytes
  args : List Bytes
  program_ne_nil : program ≠ []
  nul_notMem_program : (0 : UInt8) ∉ program
deriving DecidableEq

namespace Command

/-- The command that runs `program` with `args`. -/
def new (program : Bytes) (args : List Bytes) : Except InvalidCommand Command :=
  if empty : program = [] then .error .emptyName
  else if nul : (0 : UInt8) ∈ program then .error .nulInName
  else .ok ⟨program, args, empty, nul⟩

/-- The command whose words these are, the program first. -/
def ofWords : List Bytes → Except InvalidCommand Command
  | [] => .error .missing
  | program :: args => new program args

/-- The words of a command, the program first. -/
def words (command : Command) : List Bytes :=
  command.program :: command.args

/-- A program and arguments make a command exactly if the command has them for words. -/
theorem new_eq_ok_iff {program : Bytes} {args : List Bytes} {command : Command} :
    new program args = .ok command ↔ command.words = program :: args := by
  constructor
  · intro made
    unfold new at made
    split at made
    · simp at made
    · split at made
      · simp at made
      · cases made
        rfl
  · intro same
    cases command with
    | mk name rest name_ne_nil nul_notMem =>
        cases same
        simp [new, name_ne_nil, nul_notMem]

/-- Words make a command exactly if they are the words of the command. -/
theorem ofWords_eq_ok_iff {words : List Bytes} {command : Command} :
    ofWords words = .ok command ↔ command.words = words := by
  cases words with
  | nil => simp [ofWords, Command.words]
  | cons program args => exact new_eq_ok_iff

/-- The words of a command make that command. -/
theorem ofWords_words (command : Command) : ofWords command.words = .ok command :=
  ofWords_eq_ok_iff.2 rfl

/-- The words as a reader sees them, separated by one space. -/
def display (command : Command) : String :=
  command.args.foldl (fun shown arg => shown ++ " " ++ arg.lossy) command.program.lossy

end Command

end HostnameSandbox
