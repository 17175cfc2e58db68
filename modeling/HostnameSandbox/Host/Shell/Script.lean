import HostnameSandbox.Host.Shell.Grammar
import HostnameSandbox.Host.Shell.Redirecting

/-!
# Scripts

A script is read line by line, and what a line says is carried out before the next one is read.  One
that comes from an open file is fetched in pieces, so that a command may read what follows the last
piece.
-/

namespace HostnameSandbox

namespace Shell

/-- A script, and how far it has been read. -/
structure Script where
  /-- The open file that the script comes from; one that was given as a text has none. -/
  descriptor : Option Descriptor
  reader : Reader
  /-- Whether nothing more can be fetched. -/
  isWhole : Bool

namespace Script

/-- The script with a text. -/
def ofText (text : Bytes) : Script := ⟨none, .ofText text 1 [] 0, true⟩

/-- The script in an open file. -/
def ofDescriptor (descriptor : Descriptor) : Script :=
  ⟨some descriptor, .ofText [] 1 [] 0, false⟩

/-- The script from a line on, without what has been fetched of it. -/
def discard (script : Script) (line : Nat) : Script :=
  { script with
    reader := .ofText [] line [] 0 }

/-- How many bytes are fetched at once. -/
def pieceSize : Nat := 8192

/-- Fetches another piece, of which zero bytes are dropped. -/
def fetch (script : Script) : Doing Script := do
  match script.descriptor with
  | none => return { script with isWhole := true }
  | some descriptor =>
      let _ ← flush
      match (← Doing.ask (.read descriptor pieceSize) : Except Errno Bytes) with
      | .ok (byte :: piece) =>
          let fetched := (byte :: piece).filter (· != 0)
          return { script with
            reader := { script.reader with text := script.reader.text ++ fetched } }
      | _ => return { script with isWhole := true }

/-- The reader at the beginning of a line. -/
def atLine (reader : Reader) (state : State) : Reader :=
  { reader with
    aliases := state.aliases, nextDocument := state.nextDocument, documents := []
    announced := [], returned := none, sawEnd := false, lacksEnding := false }

/-- Whether a reader has given the end of the text back. -/
def isAtEnd (reader : Reader) : Bool :=
  match reader.returned with
  | some .endOfFile => true
  | _ => false

/-- Keeps what a reading leaves to the shell. -/
def settle (reader : Reader) : Doing Unit :=
  modify fun state =>
    { state with
      documents := reader.documents ++ state.documents
      nextDocument := reader.nextDocument
      scriptLine := reader.line
      atEnd := isAtEnd reader }

/-- The lines of a text, each with its end. -/
def lines (text : Bytes) : List Bytes :=
  let pieces := text.splitOn 0x0A
  (pieces.dropLast.map fun line => line ++ [0x0A]) ++
    pieces.getLast?.toList.filter fun line => !line.isEmpty

/-- The text that has been read, to the end of its last line. -/
def fetched (before after : Reader) : Bytes :=
  let read := before.text.take (before.text.length - after.text.length)
  if read.isEmpty || read.getLast? = some 0x0A then read
  else
    let line := after.text.takeWhile (· != 0x0A)
    read ++ line ++ (after.text.drop line.length).take 1

/-- The entries of two lists in turn, beginning with the first one. -/
def inTurn {α : Type} : List α → List α → List α
  | first :: firsts, second :: seconds => first :: second :: inTurn firsts seconds
  | firsts, [] => firsts
  | [], seconds => seconds

/-- Says what there is to say while lines are read: the lines of a file are shown if that is asked
for, and behind each one comes the prompt for the next one. -/
def comment (script : Script) (after : Reader) (prompts : List Bytes) : Doing Unit := do
  let shown := if script.descriptor.isSome && (← get).has .verbose then
    lines (fetched script.reader after) else []
  (inTurn shown prompts).forM say

/-- What a fault of a script leads to. -/
def fault {α : Type} (reader : Reader) (fault : Fault) : Doing α := do
  modify fun state => { state with line := reader.line, atEnd := false }
  failText ("Syntax error: " ++ fault.message)

/-- What comes of reading a line. -/
structure Reading where
  line : Except Fault Grammar.Line
  before : Script
  after : Reader

/-- Reads a line, for which at most so many pieces are fetched. -/
def readWithin : Nat → Script → Doing Reading
  | 0, script => return ⟨.ok .ended, script, script.reader⟩
  | count + 1, script => do
      let (line, reader) := Grammar.readLine.run.run (atLine script.reader (← get))
      if reader.sawEnd && !script.isWhole then readWithin count (← script.fetch)
      else return ⟨line, script, reader⟩

/-- The most pieces that are fetched for a line. -/
def pieceLimit : Nat := Nat.pow 2 60

/-- Reads a line; `prompt` is what is to be said once for every end of a line inside it. -/
def next (script : Script) (prompt : Bytes) : Doing (Grammar.Line × Script) := do
  let ⟨line, before, reader⟩ ← readWithin pieceLimit script
  let read := { before with reader }
  settle reader
  let ends := reader.line - before.reader.line
  let prompts (count : Nat) : List Bytes :=
    if prompt.isEmpty then [] else List.replicate count prompt
  match line with
  | .ok line => do
      comment before reader
        (prompts (if isAtEnd reader || reader.lacksEnding then ends else ends - 1))
      return (line, read)
  | .error found => do
      comment before reader (prompts ends)
      fault reader found

section

variable (output : Code → Doing Bytes)

/-- The text with its expansions carried out, or as it is if something is wrong with it. -/
def expanded (text : Bytes) : Doing Bytes := do
  let state ← get
  let start := { Reader.ofText text 1 state.aliases state.nextDocument with
    returned := if state.atEnd then some .endOfFile else none }
  let result ← Doing.attempt do
    match Grammar.readText.run.run start with
    | (.ok word, reader) => do
        let atEnd := isAtEnd reader
        modify fun state =>
          { state with
            documents := reader.documents ++ state.documents
            nextDocument := reader.nextDocument, atEnd }
        Expansion.toText output .quoted word
    | (.error found, reader) => fault reader found
  match result with
  | .ok text => return text
  | .error .failed => return text
  | .error escape => throw escape

end

end Script

end Shell

end HostnameSandbox
