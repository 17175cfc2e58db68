import HostnameSandbox.CommandLine.Help
import HostnameSandbox.Text.Lossy
import HostnameSandbox.Text.Plain
import HostnameSandbox.Text.Similarity

/-!
# Command lines that start no run

A command line that names no stage or no command, that cannot be understood, or that asks for
help or the version, is answered with a text.  Requests are answered on standard output with
exit code 0, everything else on standard error with exit code 2.
-/

namespace HostnameSandbox

namespace CommandLine

/-- Why a command line starts no run. -/
inductive Refusal where
  /-- A help page was asked for. -/
  | helpRequest (page : Page)
  /-- The version was asked for. -/
  | versionRequest
  /-- Nothing was given at all. -/
  | nothingGiven
  /-- No stage was given, only the verbose flag. -/
  | missingStage
  /-- A stage was given, and perhaps a verbose flag after it, but no command. -/
  | missingCommand (stage : Stage) (verbose : Bool)
  /-- The verbose flag was given twice, before or after the stage. -/
  | repeatedVerbose (stage : Option Stage)
  /-- A flag was given a value; `verbose` tells whether that flag came before. -/
  | needlessValue (stage : Option Stage) (flag : Flag) (value : Bytes) (verbose : Bool)
  /-- No flag has this long name; `verbose` tells whether the verbose flag came before. -/
  | unknownLong (stage : Option Stage) (name : Bytes) (verbose : Bool)
  /-- No flag has this short name. -/
  | unknownShort (name : String)
  /-- The name of a subcommand stands where only other words may. -/
  | escapedSubcommand (word : String)
  /-- No subcommand has this name. -/
  | unknownSubcommand (word : Bytes)
  /-- No help page has this name below `page`. -/
  | unknownPage (page : Page) (word : Bytes)
deriving DecidableEq, Repr

/-- The kinds of refusal. -/
inductive Refusal.Kind where
  | helpRequest
  | versionRequest
  | helpOnMissing
  | missingSubcommand
  | missingArgument
  | conflict
  | tooManyValues
  | unknownArgument
  | invalidSubcommand
deriving DecidableEq, Repr

namespace Refusal

/-- The kind of a refusal. -/
def kind : Refusal → Kind
  | .helpRequest _ => .helpRequest
  | .versionRequest => .versionRequest
  | .nothingGiven => .helpOnMissing
  | .missingStage => .missingSubcommand
  | .missingCommand _ _ => .missingArgument
  | .repeatedVerbose _ => .conflict
  | .needlessValue _ _ _ _ => .tooManyValues
  | .unknownLong _ _ _ | .unknownShort _ | .escapedSubcommand _ => .unknownArgument
  | .unknownSubcommand _ | .unknownPage _ _ => .invalidSubcommand

/-- Whether the refusal is what the user asked for. -/
def isRequest : Refusal → Bool
  | .helpRequest _ | .versionRequest => true
  | _ => false

/-- The exit code that reports a refusal. -/
def exitCode (refusal : Refusal) : UInt8 :=
  if refusal.isRequest then 0 else 2

/-- The names that a mistaken subcommand may have meant. -/
def subcommands : List String := [Stage.outer.word, Stage.inner.word, helpWord]

/-- The long flag most similar to a name, if one is similar at all. -/
def similarFlag? (stage : Option Stage) (name : Bytes) : Option String :=
  (Similarity.suggestions name.lossy ((Flag.known stage).map Flag.word)).getLast?

/-- A word between quotation marks. -/
private def quote (word : String) : String := "'" ++ word ++ "'"

/-- Several tips in one line. -/
private def tips (names : List String) : String :=
  match names with
  | [] => ""
  | [name] => "\n\n  tip: a similar subcommand exists: " ++ quote name
  | names => "\n\n  tip: some similar subcommands exist: " ++ ", ".intercalate (names.map quote)

/-- What was wrong, and what may help.  The words of the command line are quoted as plain texts. -/
def complaint (spacing : Plain.Spacing) (refusal : Refusal) : String :=
  let quotePlain (word : String) := quote (plain spacing word)
  match refusal with
  | .missingStage =>
      "'utsbox' requires a subcommand but one was not provided\n" ++
        "  [subcommands: outer, inner, help]"
  | .missingCommand _ _ => "the following required arguments were not provided:\n  <COMMAND>..."
  | .repeatedVerbose _ => "the argument '--verbose' cannot be used multiple times"
  | .needlessValue _ flag value _ =>
      "unexpected value " ++ quotePlain value.lossy ++ " for " ++ quote ("--" ++ flag.word) ++
        " found; no more were expected"
  | .unknownLong stage name _ =>
      let word := "--" ++ name.lossy
      let similar := match similarFlag? stage name with
        | none => []
        | some similar => ["a similar argument exists: " ++ quote ("--" ++ similar)]
      let escaped := match stage with
        | none => []
        | some _ => ["to pass " ++ quotePlain word ++ " as a value, use " ++ quotePlain ("-- " ++ word)]
      let tips := match similar ++ escaped with
        | [] => ""
        | tips => "\n" ++ String.join (tips.map fun tip => "\n  tip: " ++ tip)
      "unexpected argument " ++ quotePlain word ++ " found" ++ tips
  | .unknownShort name => "unexpected argument " ++ quotePlain ("-" ++ name) ++ " found"
  | .escapedSubcommand word =>
      "unexpected argument " ++ quotePlain word ++ " found\n\n  tip: subcommand " ++ quotePlain word ++
        " exists; to use it, remove the '--' before it"
  | .unknownSubcommand word =>
      "unrecognized subcommand " ++ quotePlain word.lossy ++
        tips (Similarity.suggestions word.lossy subcommands)
  | .unknownPage _ word => "unrecognized subcommand " ++ quotePlain word.lossy
  | .helpRequest _ | .versionRequest | .nothingGiven => ""

/-- The usage line that goes with a complaint: as far as the command line was understood. -/
def usage : Refusal → String
  | .missingCommand stage verbose =>
      stage.word ++ (if verbose then " --verbose" else "") ++ " <COMMAND>..."
  | .repeatedVerbose (some stage) => (Page.stage stage).usage
  | .needlessValue none flag _ verbose =>
      if !verbose then "--" ++ flag.word ++ " <COMMAND>"
      else if flag = .verbose then "<--verbose> <COMMAND>"
      else "--" ++ flag.word ++ " <--verbose> <COMMAND>"
  | .needlessValue (some stage) flag _ verbose =>
      stage.word ++ (if verbose && flag != .verbose then " --verbose" else "") ++
        " --" ++ flag.word ++ " <COMMAND>..."
  | .unknownLong stage name verbose =>
      let given := if verbose then [Flag.verbose.word] else []
      let similar := (similarFlag? stage name).toList.filter fun word => !given.contains word
      let flags := (given ++ similar).map ("--" ++ ·)
      match stage with
      | none =>
          if flags.isEmpty then Page.program.usage
          else " ".intercalate (flags ++ ["<COMMAND>"])
      | some stage =>
          if flags.isEmpty then (Page.stage stage).usage
          else " ".intercalate (stage.word :: flags ++ ["<COMMAND>..."])
  | .unknownPage page _ => page.usage
  | _ => Page.program.usage

/-- The text that answers the command line. -/
def text (spacing : Plain.Spacing) (refusal : Refusal) : String :=
  match refusal with
  | .helpRequest page => page.text
  | .versionRequest => versionText
  | .nothingGiven => Page.program.text
  | _ =>
      let ending :=
        if refusal matches .unknownPage .help _ then ""
        else "\nFor more information, try '--help'.\n"
      "error: " ++ refusal.complaint spacing ++ "\n\nUsage: utsbox " ++ refusal.usage ++ "\n" ++ ending

end Refusal

end CommandLine

end HostnameSandbox
