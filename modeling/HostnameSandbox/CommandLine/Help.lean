import HostnameSandbox.Invocation

/-!
# Help pages

The pages that describe the command line: one for the program, one for each stage and one for
the word that shows pages.
-/

namespace HostnameSandbox

namespace CommandLine

/-- The options of the program that take no value. -/
inductive Flag where
  | verbose
  | help
  | version
deriving DecidableEq, Repr

/-- The long name of a flag. -/
def Flag.word : Flag → String
  | .verbose => "verbose"
  | .help => "help"
  | .version => "version"

/-- The flags that are understood in front of a stage, or after one, in the order in which they
are looked up. -/
def Flag.known : Option Stage → List Flag
  | none => [.verbose, .help, .version]
  | some _ => [.verbose, .help]

/-- The word that shows help pages. -/
def helpWord : String := "help"

/-- A help page. -/
inductive Page where
  | program
  | stage (stage : Stage)
  | help
deriving DecidableEq, Repr

namespace Page

/-- The arguments that a page's owner takes, as the usage line writes them. -/
def usage : Page → String
  | .program => "[OPTIONS] <COMMAND>"
  | .stage named => named.word ++ " [OPTIONS] <COMMAND>..."
  | .help => "help [COMMAND]..."

/-- What a page's owner does. -/
def purpose : Page → String
  | .program => "Run a command with an isolated hostname"
  | .stage .outer => "Run a command in a new UTS namespace"
  | .stage .inner => "Re-exec target inside the new namespace (internal)"
  | .help => "Print this message or the help of the given subcommand(s)"

/-- The sections between the usage line and the end of a page. -/
def sections : Page → String
  | .program =>
      "Commands:\n" ++
        "  outer  Run a command in a new UTS namespace\n" ++
        "  help   Print this message or the help of the given subcommand(s)\n" ++
        "\nOptions:\n" ++
        "  -v, --verbose  Enable verbose logging\n" ++
        "  -h, --help     Print help\n" ++
        "  -V, --version  Print version\n"
  | .stage _ =>
      "Arguments:\n" ++
        "  <COMMAND>...  Command to run, followed by its arguments\n" ++
        "\nOptions:\n" ++
        "  -v, --verbose  Enable verbose logging\n" ++
        "  -h, --help     Print help\n"
  | .help =>
      "Arguments:\n" ++
        "  [COMMAND]...  Print help for the subcommand(s)\n"

/-- The text of a page. -/
def text (page : Page) : String :=
  page.purpose ++ "\n\nUsage: utsbox " ++ page.usage ++ "\n\n" ++ page.sections

end Page

/-- What the program says about its version. -/
def versionText : String := "utsbox 0.1.0\n"

end CommandLine

end HostnameSandbox
