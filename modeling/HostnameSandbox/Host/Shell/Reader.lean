import HostnameSandbox.Host.Shell.Code

/-!
# Scan scripts

The state in which a script is read: the text that is left, the texts of aliases in front of it, and
the documents that begin after the next line.  A reading either comes to something or finds a fault;
in both cases it tells how far it has come.
-/

namespace HostnameSandbox

namespace Shell

/-- The words with a meaning of their own at the beginning of a command. -/
inductive Keyword where
  | not
  | case
  | do
  | done
  | elif
  | else
  | esac
  | fi
  | for
  | if
  | in
  | then
  | until
  | while
  | begin
  | end
deriving DecidableEq, Repr

namespace Keyword

/-- The keywords as they are written. -/
def table : List (String × Keyword) :=
  [("!", .not), ("case", .case), ("do", .do), ("done", .done), ("elif", .elif), ("else", .else),
    ("esac", .esac), ("fi", .fi), ("for", .for), ("if", .if), ("in", .in), ("then", .then),
    ("until", .until), ("while", .while), ("\x7b", .begin), ("\x7d", .end)]

/-- How a keyword is written. -/
def text (keyword : Keyword) : String :=
  ((table.find? fun entry => entry.2 = keyword).map Prod.fst).getD ""

/-- The keyword that is written so. -/
def ofBytes? (bytes : Bytes) : Option Keyword :=
  (table.find? fun entry => Bytes.ofString entry.1 = bytes).map Prod.snd

end Keyword

/-- What a redirection is before its target is known. -/
inductive RedirectionStart where
  | file (use : FileUse)
  | copy
  | document (stripsTabs : Bool)
deriving DecidableEq, Repr

/-- The pieces that a script consists of. -/
inductive Token where
  | endOfFile
  | newline
  | semicolon
  | background
  | and
  | or
  | pipe
  | open
  | close
  | endOfClause
  | redirection (descriptor : Nat) (start : RedirectionStart)
  /-- A word; `quoted` tells whether something in it was quoted. -/
  | word (parts : Word) (quoted : Bool)
  | keyword (keyword : Keyword)

namespace Token

/-- How a complaint calls a token. -/
def name : Token → String
  | .endOfFile => "end of file"
  | .newline => "newline"
  | .semicolon => "\";\""
  | .background => "\"&\""
  | .and => "\"&&\""
  | .or => "\"||\""
  | .pipe => "\"|\""
  | .open => "\"(\""
  | .close => "\")\""
  | .endOfClause => "\";;\""
  | .redirection _ _ => "redirection"
  | .word _ _ => "word"
  | .keyword found => "\"" ++ found.text ++ "\""

end Token

/-- The text of an alias that stands in front of what follows it, or one that has been read before,
which is no alias's. -/
structure Pushed where
  nickname : Bytes
  rest : Bytes
  /-- Whether the text ends with a blank, so that the next word may be an alias too. -/
  endsBlank : Bool

/-- A document that has been announced. -/
structure Announced where
  number : Nat
  ending : Bytes
  stripsTabs : Bool
  expands : Bool

/-- How far a script has been read. -/
structure Reader where
  text : Bytes
  pushed : List Pushed
  line : Nat
  /-- Whether the end of the text has been seen. -/
  sawEnd : Bool
  /-- Whether the next word may be an alias because of the one before. -/
  expectsAlias : Bool
  aliases : List (Bytes × Bytes)
  /-- A token that has been given back. -/
  returned : Option Token
  /-- The token that was read last. -/
  latest : Token
  /-- The word that was read last. -/
  latestWord : Word
  announced : List Announced
  documents : List (Nat × Document)
  nextDocument : Nat
  /-- Whether the text ended inside a document. -/
  lacksEnding : Bool

namespace Reader

/-- A reader at the beginning of a text. -/
def ofText (text : Bytes) (line : Nat) (aliases : List (Bytes × Bytes)) (nextDocument : Nat) :
    Reader where
  text := text
  pushed := []
  line := line
  sawEnd := false
  expectsAlias := false
  aliases := aliases
  returned := none
  latest := .newline
  latestWord := []
  announced := []
  documents := []
  nextDocument := nextDocument
  lacksEnding := false

/-- Whether the text of an alias is being read. -/
def isInUse (reader : Reader) (nickname : Bytes) : Bool :=
  reader.pushed.any fun pushed => pushed.nickname = nickname

end Reader

/-- What is wrong with a script. -/
inductive Fault where
  | badLoopVariable
  | badFunctionName
  | unterminatedQuotes
  | missingBrace
  | missingParentheses
  | unendedBackquotes
  | unexpected (token : Token) (expected : Option String)

namespace Fault

/-- The text of a complaint. -/
def message : Fault → String
  | .badLoopVariable => "Bad for loop variable"
  | .badFunctionName => "Bad function name"
  | .unterminatedQuotes => "Unterminated quoted string"
  | .missingBrace => "Missing '\x7d'"
  | .missingParentheses => "Missing '))'"
  | .unendedBackquotes => "EOF in backquote substitution"
  | .unexpected token none => token.name ++ " unexpected"
  | .unexpected token (some expected) => token.name ++ " unexpected (expecting " ++ expected ++ ")"

end Fault

/-- A reading of a script, which comes to something or finds a fault. -/
abbrev Scan := ExceptT Fault (StateM Reader)

namespace Scan

/-- The first byte of the pushed texts or of the text, and how far one is after it. -/
def split (text : Bytes) : List Pushed → Option UInt8 × Bytes × List Pushed × Bool
  | [] => (text.head?, text.tail, [], false)
  | pushed :: others =>
      match pushed.rest with
      | byte :: rest => (some byte, text, { pushed with rest } :: others, false)
      | [] =>
          let (byte, text, others, blank) := split text others
          (byte, text, others, blank || pushed.endsBlank)

/-- The next byte, which is read. -/
def next : Scan (Option UInt8) :=
  modifyGet fun reader =>
    let (byte, text, pushed, blank) := split reader.text reader.pushed
    (byte,
      { reader with
        text, pushed, sawEnd := reader.sawEnd || byte.isNone
        expectsAlias := reader.expectsAlias || blank })

/-- The next byte, which stays there. -/
def peek : Scan (Option UInt8) :=
  modifyGet fun reader =>
    let (byte, _, _, _) := split reader.text reader.pushed
    (byte, { reader with sawEnd := reader.sawEnd || byte.isNone })

/-- Puts bytes in front of what is read next. -/
def returnBytes (bytes : Bytes) : Scan Unit :=
  modify fun reader => { reader with pushed := ⟨[], bytes, false⟩ :: reader.pushed }

/-- Notes that a line has ended. -/
def endLine : Scan Unit :=
  modify fun reader => { reader with line := reader.line + 1 }

/-- How often something is tried in a reading at most. -/
def limit : Nat := Nat.pow 2 60

/-- Whether a backslash with an end of a line behind it is next. -/
def joinsLines : Scan Bool := do
  match ← peek with
  | some 0x5C =>
      let reader ← get
      let _ ← next
      let follows ← peek
      set { reader with sawEnd := (← get).sawEnd }
      return follows = some 0x0A
  | _ => return false

/-- Drops ends of lines that a backslash takes away, at most so often. -/
def joinWithin : Nat → Scan Unit
  | 0 => pure ()
  | count + 1 => do
      if ← joinsLines then
        let _ ← next
        let _ ← next
        endLine
        joinWithin count

/-- Drops ends of lines that a backslash takes away. -/
def joinLines : Scan Unit := joinWithin limit

/-- The next byte after joined lines, which is read. -/
def nextJoined : Scan (Option UInt8) := do
  joinLines
  next

/-- The next byte after joined lines, which stays there. -/
def peekJoined : Scan (Option UInt8) := do
  joinLines
  peek

/-- Complains about a token. -/
def unexpected {α : Type} (expected : Option String) : Scan α := do
  throw (.unexpected (← get).latest expected)

/-- Gives back the token that was read last. -/
def giveBack : Scan Unit :=
  modify fun reader => { reader with returned := some reader.latest }

end Scan

end Shell

end HostnameSandbox
