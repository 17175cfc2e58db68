import HostnameSandbox.Host.Shell.Builtin
import HostnameSandbox.Host.Shell.WordReader

/-!
# Reading commands

Commands are read token by token.  Whether a word is a keyword or an alias depends on where it
stands.  Commands that are nested in others are read by a reading that is given, so that the depth of
nesting is what the recursion is on.
-/

namespace HostnameSandbox

namespace Shell

namespace Grammar

/-- What is looked for in a token. -/
structure Check where
  /-- Whether ends of lines are passed over. -/
  newlines : Bool
  keywords : Bool
  aliases : Bool
  /-- Whether the word that ends a document is expected. -/
  ending : Bool

namespace Check

/-- A word as it stands. -/
def none : Check := ⟨false, false, false, false⟩

/-- The beginning of a command. -/
def command : Check := ⟨false, true, true, false⟩

/-- The beginning of a command, perhaps on another line. -/
def commandBelow : Check := ⟨true, true, true, false⟩

/-- A keyword, perhaps on another line. -/
def keywordBelow : Check := ⟨true, true, false, false⟩

/-- A word that may be an alias. -/
def nickname : Check := ⟨false, false, true, false⟩

/-- The word that ends a document. -/
def documentEnding : Check := ⟨false, false, false, true⟩

end Check

/-- Where commands end. -/
inductive Extent where
  /-- At the end of a line. -/
  | line
  /-- At a keyword or operator that cannot belong to them; there has to be a command. -/
  | compound
  /-- At a keyword or operator that cannot belong to them. -/
  | perhaps
deriving DecidableEq

/-- How nested commands are read. -/
abbrev Nested := Extent → Scan Code

/-- Remembers a token as the one that was read last. -/
def found (token : Token) : Scan Token := do
  modify fun reader =>
    { reader with
      latest := token
      latestWord := match token with
        | .word parts _ => parts
        | _ => reader.latestWord }
  return token

/-- Drops the rest of a line, at most so many bytes. -/
def dropRemark : Nat → Scan Unit
  | 0 => return ()
  | count + 1 => do
      match ← Scan.peek with
      | some byte =>
          if byte ≠ 0x0A then
            let _ ← Scan.next
            dropRemark count
      | none => return ()

/-- Drops blanks and remarks, at most so many. -/
def dropBlanks : Nat → Scan Unit
  | 0 => return ()
  | count + 1 => do
      match ← Scan.peekJoined with
      | some byte =>
          if byte = 0x20 || byte = 0x09 then
            let _ ← Scan.next
            dropBlanks count
          else if byte = 0x23 then
            dropRemark Scan.limit
            dropBlanks count
      | none => return ()

/-- The tokens that are written with an operator once and twice. -/
def operator? (byte : UInt8) : Option (Token × Token) :=
  if byte = 0x26 then some (.background, .and)
  else if byte = 0x7C then some (.pipe, .or)
  else if byte = 0x3B then some (.semicolon, .endOfClause)
  else none

section

variable (nested : Nested)

/-- Commands in parentheses behind a dollar sign. -/
def closeParenthesized (token : Scan Token) : Scan Code := do
  let code ← nested .perhaps
  match ← token with
  | .close => return code
  | _ => Scan.unexpected (some Token.close.name)

/-- The next token as it is written; `inner` is how commands inside words are read. -/
def scanToken (inner : WordReader.Inner) (check : Check) : Scan Token := do
  let reader ← get
  match reader.returned with
  | some token =>
      set { reader with returned := none }
      found token
  | none =>
      dropBlanks Scan.limit
      match ← Scan.peekJoined with
      | none => found .endOfFile
      | some byte =>
          if byte = 0x0A then
            let _ ← Scan.next
            Scan.endLine
            found .newline
          else if byte = 0x28 || byte = 0x29 then
            let _ ← Scan.next
            found (if byte = 0x28 then .open else .close)
          else
            match operator? byte with
            | some (once, twice) =>
                let _ ← Scan.next
                if (← Scan.peekJoined) = some byte then
                  let _ ← Scan.next
                  found twice
                else found once
            | none =>
                found (← WordReader.readWord inner (if check.ending then .ending else .command))

/-- Reads the documents that have been announced. -/
def readDocuments (inner : WordReader.Inner) : Scan Unit := do
  let reader ← get
  set { reader with announced := [] }
  reader.announced.forM fun announced => do
    let document ← WordReader.readDocument inner announced
    modify fun reader =>
      { reader with documents := (announced.number, document) :: reader.documents }

/-- The next token that is no end of a line. -/
def skipNewlines (inner : WordReader.Inner) (check : Check) : Nat → Token → Scan Token
  | 0, token => return token
  | count + 1, token => do
      match token with
      | .newline =>
          readDocuments inner
          skipNewlines inner check count (← scanToken inner { check with ending := false })
      | token => return token

/-- The keyword that a token is where one is looked for. -/
def keyword? (check : Check) : Token → Option Keyword
  | .word parts false => if check.keywords then (Word.plain? parts).bind Keyword.ofBytes? else none
  | _ => none

/-- The alias that a token stands for, with its text. -/
def alias? (reader : Reader) (check : Check) : Token → Option (Bytes × Bytes)
  | .word parts false =>
      if check.aliases then
        (Word.plain? parts).bind fun name =>
          if reader.isInUse name then none
          else reader.aliases.find? fun entry => entry.1 = name
      else none
  | _ => none

/-- The next token, at most after so many aliases. -/
def tokenWithin (inner : WordReader.Inner) (check : Check) : Nat → Scan Token
  | 0 => return .endOfFile
  | count + 1 => do
      let scanned ← scanToken inner check
      let token ← if check.newlines then skipNewlines inner check Scan.limit scanned
        else pure scanned
      let reader ← get
      set { reader with expectsAlias := false }
      let check := { check with aliases := check.aliases || reader.expectsAlias }
      match keyword? check token with
      | some keyword => found (.keyword keyword)
      | none =>
          match alias? reader check token with
          | some (name, text) =>
              modify fun reader =>
                let endsBlank := text.getLast?.any fun byte => byte = 0x20 || byte = 0x09
                if text.isEmpty then reader
                else { reader with pushed := ⟨name, text, endsBlank⟩ :: reader.pushed }
              tokenWithin inner check count
          | none => return token

/-- How commands inside words are read.  A command in parentheses is followed by a token; it is read
as one that has no commands inside it, because only a parenthesis may stand there. -/
def inner : WordReader.Inner where
  commands := nested .perhaps
  parenthesized :=
    let plain : WordReader.Inner := ⟨pure .nothing, pure .nothing⟩
    closeParenthesized nested (tokenWithin plain .none Scan.limit)

/-- The next token. -/
def token (check : Check) : Scan Token := tokenWithin (inner nested) check Scan.limit

/-- The next token has to be this keyword. -/
def expect (keyword : Keyword) (check : Check) : Scan Unit := do
  match ← token nested check with
  | .keyword other =>
      if other ≠ keyword then Scan.unexpected (some (Token.keyword keyword).name)
  | _ => Scan.unexpected (some (Token.keyword keyword).name)

/-- Reads what a redirection leads to. -/
def readTarget (descriptor : Nat) (start : RedirectionStart) : Scan Redirection := do
  let check := match start with
    | .document _ => Check.documentEnding
    | _ => Check.none
  match ← token nested check with
  | .word parts quoted =>
      match start with
      | .file use => return .redirect descriptor (.file use parts)
      | .copy =>
          match parts with
          | [.plain byte] =>
              if isDigit byte then
                return .redirect descriptor (.copy (some (byte - 0x30).toNat))
              else if byte = 0x2D then return .redirect descriptor (.copy none)
              else return .redirect descriptor (.copyNamed parts)
          | _ => return .redirect descriptor (.copyNamed parts)
      | .document stripsTabs =>
          let number := (← get).nextDocument
          modify fun reader =>
            { reader with
              nextDocument := number + 1
              announced := reader.announced ++
                [⟨number, Word.unquoted parts, stripsTabs, !quoted⟩] }
          return .redirect descriptor (.document number)
  | _ => Scan.unexpected none

/-- Reads redirections, at most so many. -/
def readRedirections : Nat → Check → List Redirection → Scan (List Redirection)
  | 0, _, read => return read.reverse
  | count + 1, check, read => do
      match ← token nested check with
      | .redirection descriptor start =>
          let redirection ← readTarget nested descriptor start
          readRedirections count .none (redirection :: read)
      | _ =>
          Scan.giveBack
          return read.reverse

/-- Reads words, at most so many; the token behind them has been read too. -/
def readWords : Nat → List Word → Scan (List Word × Token)
  | 0, read => return (read.reverse, .endOfFile)
  | count + 1, read => do
      match ← token nested .none with
      | .word parts _ => readWords count (parts :: read)
      | other => return (read.reverse, other)

/-- Reads the rest of a condition, behind its keyword. -/
def readConditional : Nat → Scan Code
  | 0 => Scan.unexpected none
  | count + 1 => do
      let test ← nested .compound
      expect nested .then .none
      let whenTrue ← nested .compound
      match ← token nested .none with
      | .keyword .elif => return .conditional test whenTrue (some (← readConditional count))
      | .keyword .else => return .conditional test whenTrue (some (← nested .compound))
      | _ =>
          Scan.giveBack
          return .conditional test whenTrue none

/-- Reads the rest of an iteration, behind its keyword. -/
def readIteration (line : Nat) : Scan Code := do
  match ← token nested .none with
  | .word parts false =>
      match (Word.plain? parts).filter isName with
      | none => throw .badLoopVariable
      | some name =>
          let words ← match ← token nested .commandBelow with
            | .keyword .in => do
                let (words, ending) ← readWords nested Scan.limit []
                match ending with
                | .newline | .semicolon => pure words
                | _ => Scan.unexpected none
            | .semicolon => pure [Word.allArguments]
            | _ => do
                Scan.giveBack
                pure [Word.allArguments]
          expect nested .do .commandBelow
          return .iteration line name words (← nested .compound)
  | _ => throw .badLoopVariable

/-- Reads the patterns of a clause, the first of which has been read as a token.  A pattern is the
word that was read last, be it a keyword; an operator in its place is passed over. -/
def readPatterns : Nat → List Word → Scan (List Word)
  | 0, read => return read.reverse
  | count + 1, read => do
      let pattern := (← get).latestWord
      match ← token nested .none with
      | .pipe =>
          let _ ← token nested .none
          readPatterns count (pattern :: read)
      | .close => return (pattern :: read).reverse
      | _ => Scan.unexpected (some Token.close.name)

/-- Reads clauses up to the end of a selection. -/
def readClauses : Nat → List Clause → Scan (List Clause)
  | 0, read => return read.reverse
  | count + 1, read => do
      match ← token nested .keywordBelow with
      | .keyword .esac => return read.reverse
      | first =>
          if first matches .open then
            let _ ← token nested .none
          let patterns ← readPatterns nested Scan.limit []
          let body ← nested .perhaps
          let read := .clause patterns body :: read
          match ← token nested .keywordBelow with
          | .keyword .esac => return read.reverse
          | .endOfClause => readClauses count read
          | _ => Scan.unexpected (some Token.endOfClause.name)

/-- Reads the rest of a selection, behind its keyword. -/
def readSelection (line : Nat) : Scan Code := do
  match ← token nested .none with
  | .word parts _ =>
      expect nested .in .commandBelow
      return .selection line parts (← readClauses nested Scan.limit [])
  | _ => Scan.unexpected (some "word")

/-- A simple command that is being read, its parts in reverse. -/
structure Draft where
  assignments : List Word
  words : List Word
  redirections : List Redirection

/-- Reads a simple command, or the definition of a function; `body` reads what a function does. -/
def readSimple (line : Nat) (body : Scan Code) : Nat → Bool → Draft → Scan Code
  | 0, _, _ => Scan.unexpected none
  | count + 1, mayAssign, draft => do
      match ← token nested (if mayAssign then .nickname else .none) with
      | .word parts _ =>
          if mayAssign && (Word.assignment? parts).isSome then
            readSimple line body count true
              { draft with assignments := parts :: draft.assignments }
          else readSimple line body count false { draft with words := parts :: draft.words }
      | .redirection descriptor start =>
          let redirection ← readTarget nested descriptor start
          readSimple line body count mayAssign
            { draft with redirections := redirection :: draft.redirections }
      | other =>
          match other, draft with
          | .open, ⟨[], [name], []⟩ =>
              match ← token nested .none with
              | .close =>
                  match (Word.plain? name).filter isName with
                  | none => throw .badFunctionName
                  | some name =>
                      if (Builtin.find? name).any Builtin.isSpecial then
                        throw .badFunctionName
                      else
                        let line := (← get).line
                        return .definition line name (← body)
              | _ => Scan.unexpected (some Token.close.name)
          | _, _ =>
              Scan.giveBack
              return .simple line draft.assignments.reverse draft.words.reverse
                draft.redirections.reverse

/-- A command with redirections behind it. -/
def redirected (line : Nat) (body : Code) (redirections : List Redirection) : Code :=
  if redirections.isEmpty then body
  else
    match body with
    | .subshell line body _ => .subshell line body redirections
    | _ => .redirected line body redirections

/-- Reads a command, nested at most so deep in definitions of functions. -/
def readCommand : Nat → Check → Scan Code
  | 0, _ => Scan.unexpected none
  | depth + 1, check => do
      let line := (← get).line
      let withRedirections (body : Code) : Scan Code := do
        return redirected line body (← readRedirections nested Scan.limit .command [])
      match ← token nested check with
      | .keyword .if => do
          let body ← readConditional nested Scan.limit
          expect nested .fi .none
          withRedirections body
      | .keyword .while => do
          let test ← nested .compound
          expect nested .do .none
          let body ← nested .compound
          expect nested .done .none
          withRedirections (.repetition false test body)
      | .keyword .until => do
          let test ← nested .compound
          expect nested .do .none
          let body ← nested .compound
          expect nested .done .none
          withRedirections (.repetition true test body)
      | .keyword .for => do
          let body ← readIteration nested line
          expect nested .done .none
          withRedirections body
      | .keyword .case => do
          withRedirections (← readSelection nested line)
      | .open => do
          let body ← nested .compound
          match ← token nested .none with
          | .close => withRedirections (.subshell line body [])
          | _ => Scan.unexpected (some Token.close.name)
      | .keyword .begin => do
          let body ← nested .compound
          expect nested .end .none
          withRedirections body
      | .word _ _ | .redirection _ _ => do
          Scan.giveBack
          readSimple nested (← get).line (readCommand depth .commandBelow) Scan.limit true ⟨[], [], []⟩
      | _ => Scan.unexpected none

/-- Reads the commands of a pipe behind the first one, at most so many. -/
def readPiped : Nat → List Code → Scan (List Code)
  | 0, read => return read.reverse
  | count + 1, read => do
      match ← token nested .none with
      | .pipe =>
          let command ← readCommand nested Scan.limit .commandBelow
          readPiped count (command :: read)
      | _ =>
          Scan.giveBack
          return read.reverse

/-- Whether a token negates the pipeline that follows it. -/
def negates : Token → Bool
  | .keyword .not => true
  | _ => false

/-- Reads a pipe. -/
def readPipeline (check : Check) : Scan Code := do
  let negated := negates (← token nested check)
  if !negated then Scan.giveBack
  let first ← readCommand nested Scan.limit (if negated then .command else .none)
  let commands ← readPiped nested Scan.limit [first]
  let pipeline := match commands with
    | [command] => command
    | commands => .pipeline false commands
  return if negated then .negation pipeline else pipeline

/-- Reads pipes that depend on each other, at most so many; the first one is given. -/
def readConditions : Nat → Code → Scan Code
  | 0, read => return read
  | count + 1, read => do
      match ← token nested .none with
      | .and => readConditions count (.conjunction read (← readPipeline nested .commandBelow))
      | .or => readConditions count (.disjunction read (← readPipeline nested .commandBelow))
      | _ =>
          Scan.giveBack
          return read

/-- A command in the background. -/
def inBackground : Code → Code
  | .pipeline _ commands => .pipeline true commands
  | .redirected line body redirections => .background line body redirections
  | body => .background 0 body []

/-- Whether a token ends commands that are part of another. -/
def endsCommands : Token → Bool
  | .endOfFile | .close | .endOfClause => true
  | .keyword keyword => [.do, .done, .elif, .else, .esac, .fi, .then, .end].contains keyword
  | _ => false

/-- A command behind others. -/
def sequence : Option Code → Code → Code
  | none, second => second
  | some first, second => .sequence first second

/-- What comes of reading commands: there were none up to the end of the text, or some. -/
inductive Line where
  | ended
  | commands (code : Code)

/-- Reads commands, at most so many.  `mayEnd` tells whether they may end here. -/
def readList (extent : Extent) : Nat → Bool → Option Code → Scan Line
  | 0, _, read => return .commands (read.getD .nothing)
  | count + 1, mayEnd, read => do
      let isLine := extent = .line
      let result : Line := .commands (read.getD .nothing)
      match ← token nested (if isLine then .command else .commandBelow) with
      | .newline =>
          readDocuments (inner nested)
          return result
      | .endOfFile =>
          readDocuments (inner nested)
          Scan.giveBack
          return if read.isNone && isLine then .ended else result
      | first =>
          Scan.giveBack
          if mayEnd && !isLine && endsCommands first then return result
          else
            let command ← readConditions nested Scan.limit (← readPipeline nested .none)
            let ending ← token nested .none
            let command := match ending with
              | .background => inBackground command
              | _ => command
            let read := sequence read command
            match ending with
            | .endOfFile =>
                readDocuments (inner nested)
                Scan.giveBack
                return .commands read
            | .newline =>
                Scan.giveBack
                readList extent count true (some read)
            | .background | .semicolon => readList extent count true (some read)
            | _ =>
                if isLine then Scan.unexpected none
                else
                  Scan.giveBack
                  return .commands read

end

/-- Reads commands, nested at most so deep. -/
def nestedAt : Nat → Nested
  | 0 => fun _ => Scan.unexpected none
  | depth + 1 => fun extent => do
      match ← readList (nestedAt depth) extent Scan.limit (extent ≠ .compound) none with
      | .commands code => return code
      | .ended => return .nothing

/-- Reads the commands on the next line, with the lines that belong to it. -/
def readLine : Scan Line :=
  readList (nestedAt Scan.limit) .line Scan.limit true none

/-- Reads a text with expansions in it. -/
def readText : Scan Word := WordReader.readText (inner (nestedAt Scan.limit))

end Grammar

end Shell

end HostnameSandbox
