import HostnameSandbox.CommandLine.Refusal
import HostnameSandbox.Failure

/-!
# The command line

A command line selects a stage, may ask for verbosity before and after the stage, and ends
with the command.  Until the command has begun, the program's own flags are understood, and
one `--` makes the next word begin the command whatever it is; from there on every word is
taken as it stands.
-/

namespace HostnameSandbox

namespace CommandLine

/-- A command line that was understood: the words of the command are not empty. -/
structure Request where
  verbose : Bool
  stage : Stage
  words : List Bytes
deriving DecidableEq, Repr

/-- The invocation that a request stands for. -/
def Request.invocation (request : Request) : Except Failure Invocation :=
  match Command.ofWords request.words with
  | .error fault => .error (.invocation (.command fault))
  | .ok command => .ok ⟨request.stage, command⟩

/-- The word that ends the options. -/
def escape : Bytes := Bytes.ofString "--"

/-- The byte between a long flag and its value. -/
def equalsSign : UInt8 := 0x3D

/-- The name and the value in `--name=value`; without an equals sign there is no value. -/
def long? (word : Bytes) : Option (Bytes × Option Bytes) :=
  match word with
  | 0x2D :: 0x2D :: rest =>
      some (rest.takeWhile (· != equalsSign),
        match rest.dropWhile (· != equalsSign) with
        | [] => none
        | _ :: value => some value)
  | _ => none

/-- The short flags in `-abc`. -/
def cluster? (word : Bytes) : Option Bytes :=
  match word with
  | 0x2D :: first :: rest => if first = 0x2D then none else some (first :: rest)
  | _ => none

/-- The flag with this long name. -/
def Flag.named? (flags : List Flag) (name : Bytes) : Option Flag :=
  flags.find? fun flag => Bytes.ofString flag.word = name

/-- The flag with this short name. -/
def Flag.short? : UInt8 → Option Flag
  | 0x76 => some .verbose
  | 0x68 => some .help
  | 0x56 => some .version
  | _ => none

/-- What the verbose flag, help or version does when `verbose` tells whether verbosity was
asked for at the same place before: it is set once, or the command line is answered. -/
def Flag.apply (stage : Option Stage) (verbose : Bool) : Flag → Except Refusal Bool
  | .verbose => if verbose then .error (.repeatedVerbose stage) else .ok true
  | .help =>
      .error (.helpRequest (match stage with
        | none => .program
        | some stage => .stage stage))
  | .version => .error .versionRequest

/-- The first character of a text, if it begins with one. -/
def firstChar? (bytes : Bytes) : Option Char :=
  match Lossy.decode (bytes.take 4) with
  | [] => none
  | char :: _ => if (String.utf8EncodeChar char).isPrefixOf bytes then some char else none

/-- Applies short flags one by one. -/
def applyCluster (stage : Option Stage) (verbose : Bool) : Bytes → Except Refusal Bool
  | [] => .ok verbose
  | byte :: rest =>
      match Flag.short? byte with
      | some flag => do
          let verbose ← flag.apply stage verbose
          applyCluster stage verbose rest
      | none =>
          .error (.unknownShort (match firstChar? (byte :: rest) with
            | some char => char.toString
            | none => Bytes.lossy (byte :: rest)))

/-- Whether all short flags of a cluster are flags of a stage. -/
def isStageCluster (stage : Stage) (cluster : Bytes) : Bool :=
  cluster.all fun byte =>
    match Flag.short? byte with
    | some flag => (Flag.known stage).contains flag
    | none => false

/-- Reads what follows a stage.  `before` tells of the verbose flag in front of the stage,
`verbose` of the one after it.  Every word that is no flag of the stage begins the command,
unless it looks like a long flag whose name is no text. -/
def parseStage (stage : Stage) (before verbose : Bool) : List Bytes → Except Refusal Request
  | [] => .error (.missingCommand stage verbose)
  | word :: rest =>
      let begins : Except Refusal Request := .ok ⟨before || verbose, stage, word :: rest⟩
      if word = escape then
        match rest with
        | [] => .error (.missingCommand stage verbose)
        | word :: rest => .ok ⟨before || verbose, stage, word :: rest⟩
      else
        match long? word with
        | some (name, value) =>
            match Flag.named? (Flag.known stage) name, value with
            | none, _ =>
                if name.exact?.isSome then begins
                else .error (.unknownLong stage name verbose)
            | some flag, some value => .error (.needlessValue stage flag value verbose)
            | some flag, none => do
                let verbose ← flag.apply stage verbose
                parseStage stage before verbose rest
        | none =>
            match cluster? word with
            | none => begins
            | some cluster =>
                if isStageCluster stage cluster then do
                  let verbose ← applyCluster stage verbose cluster
                  parseStage stage before verbose rest
                else begins

/-- Finds the help page that a list of words leads to. -/
def findPage : Page → List Bytes → Refusal
  | page, [] => .helpRequest page
  | page, word :: rest =>
      if page = .program ∧ word = Bytes.ofString Stage.outer.word then
        findPage (.stage .outer) rest
      else if page = .program ∧ word = Bytes.ofString Stage.inner.word then
        findPage (.stage .inner) rest
      else if page = .program ∧ word = Bytes.ofString helpWord then findPage .help rest
      else .unknownPage page word

/-- Reads the words after a `--` in front of any stage, where no word is of use. -/
def parseEscaped (verbose : Bool) : List Bytes → Refusal
  | [] => if verbose then .missingStage else .nothingGiven
  | word :: _ =>
      match Refusal.subcommands.find? fun name => Bytes.ofString name = word with
      | some name => .escapedSubcommand name
      | none => .unknownSubcommand word

/-- Reads a command line from the point where `verbose` tells of the flags so far. -/
def parseFrom (verbose : Bool) : List Bytes → Except Refusal Request
  | [] => .error (if verbose then .missingStage else .nothingGiven)
  | word :: rest =>
      if word = escape then .error (parseEscaped verbose rest)
      else if word = Bytes.ofString Stage.outer.word then
        parseStage .outer verbose false rest
      else if word = Bytes.ofString Stage.inner.word then
        parseStage .inner verbose false rest
      else if word = Bytes.ofString helpWord then .error (findPage .program rest)
      else
        match long? word with
        | some (name, value) =>
            match Flag.named? (Flag.known none) name, value with
            | none, _ => .error (.unknownLong none name verbose)
            | some flag, some value => .error (.needlessValue none flag value verbose)
            | some flag, none => do
                let verbose ← flag.apply none verbose
                parseFrom verbose rest
        | none =>
            match cluster? word with
            | none => .error (.unknownSubcommand word)
            | some cluster => do
                let verbose ← applyCluster none verbose cluster
                parseFrom verbose rest

/-- Reads a command line, given without the name of the program. -/
def parse (words : List Bytes) : Except Refusal Request :=
  parseFrom false words

end CommandLine

end HostnameSandbox
