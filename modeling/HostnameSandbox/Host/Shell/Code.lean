import HostnameSandbox.Text.Bytes

/-!
# Commands of the shell

What a script is read into: words with their expansions, redirections, and the commands that are
built from them.  A word is kept in parts, so that what was quoted stays apart from what was not.
-/

namespace HostnameSandbox

namespace Shell

/-- What is made of the value of a parameter. -/
inductive Treatment where
  | value
  /-- A word in its place if there is none. -/
  | otherwise
  /-- A word in its place if there is one. -/
  | instead
  /-- A complaint if there is none. -/
  | demanded
  /-- A word in its place if there is none, which becomes the value. -/
  | assigned
  /-- The value without what a pattern matches at its end. -/
  | withoutEnd (longest : Bool)
  /-- The value without what a pattern matches at its beginning. -/
  | withoutBeginning (longest : Bool)
  /-- The number of bytes in the value. -/
  | length
  /-- Nothing that makes sense. -/
  | malformed
deriving DecidableEq, Repr

/-- A parameter that is expanded. -/
structure Parameter where
  name : Bytes
  treatment : Treatment
  /-- Whether an empty value counts as none. -/
  emptyIsNone : Bool
deriving DecidableEq, Repr

/-- How a file is opened by a redirection. -/
inductive FileUse where
  | read
  | readWrite
  | write
  /-- To write, even if the file is protected. -/
  | overwrite
  | append
deriving DecidableEq, Repr

mutual

/-- A part of a word. -/
inductive Part where
  | plain (byte : UInt8)
  /-- A byte that stands for itself. -/
  | escaped (byte : UInt8)
  /-- Where quotes begin or end. -/
  | mark
  /-- A parameter, with the word that belongs to its treatment. -/
  | parameter (parameter : Parameter) (word : List Part)
  /-- The output of a command. -/
  | command (code : Code)
  /-- The value of an expression. -/
  | arithmetic (expression : List Part)

/-- What an open file is connected to. -/
inductive Target where
  | file (use : FileUse) (name : List Part)
  /-- The same as another open file, or to nothing. -/
  | copy (descriptor : Option Nat)
  /-- The same as the open file that a word names. -/
  | copyNamed (descriptor : List Part)
  /-- The document with a number. -/
  | document (number : Nat)

/-- A redirection: an open file, and what it is connected to. -/
inductive Redirection where
  | redirect (descriptor : Nat) (target : Target)

/-- A clause of a selection: the patterns of which one has to match, and what is done then. -/
inductive Clause where
  | clause (patterns : List (List Part)) (body : Code)

/-- A command; `line` is the line that it stands on. -/
inductive Code where
  | nothing
  | simple (line : Nat) (assignments words : List (List Part)) (redirections : List Redirection)
  | pipeline (inBackground : Bool) (commands : List Code)
  | redirected (line : Nat) (body : Code) (redirections : List Redirection)
  | background (line : Nat) (body : Code) (redirections : List Redirection)
  | subshell (line : Nat) (body : Code) (redirections : List Redirection)
  | conjunction (first second : Code)
  | disjunction (first second : Code)
  | sequence (first second : Code)
  | negation (body : Code)
  | conditional (test whenTrue : Code) (whenFalse : Option Code)
  | repetition (untilTrue : Bool) (test body : Code)
  | iteration (line : Nat) (name : Bytes) (words : List (List Part)) (body : Code)
  | selection (line : Nat) (word : List Part) (clauses : List Clause)
  | definition (line : Nat) (name : Bytes) (body : Code)

end

/-- A word. -/
abbrev Word := List Part

/-- A document that is given to a command as its input.  Its text is expanded unless the word that
ends it was quoted. -/
structure Document where
  text : Word
  expands : Bool

namespace Redirection

/-- The number of the open file that is redirected. -/
def descriptor : Redirection → Nat
  | .redirect descriptor _ => descriptor

/-- What the open file is connected to. -/
def target : Redirection → Target
  | .redirect _ target => target

end Redirection

namespace Clause

/-- The patterns of which one has to match. -/
def patterns : Clause → List Word
  | .clause patterns _ => patterns

/-- What is done if a pattern matches. -/
def body : Clause → Code
  | .clause _ body => body

end Clause

namespace Code

/-- Whether there is nothing to do. -/
def isNothing : Code → Bool
  | .nothing => true
  | _ => false

end Code

/-- Whether a byte may begin a name. -/
def isNameStart (byte : UInt8) : Bool :=
  byte = 0x5F || (0x41 ≤ byte && byte ≤ 0x5A) || (0x61 ≤ byte && byte ≤ 0x7A)

/-- Whether a byte is a digit. -/
def isDigit (byte : UInt8) : Bool := 0x30 ≤ byte && byte ≤ 0x39

/-- Whether a byte may stand in a name. -/
def isNameByte (byte : UInt8) : Bool := isNameStart byte || isDigit byte

/-- The name that a text begins with. -/
def leadingName (text : Bytes) : Bytes :=
  if text.head?.any isNameStart then text.takeWhile isNameByte else []

/-- Whether a text is a name. -/
def isName (text : Bytes) : Bool :=
  text.head?.any isNameStart && text.all isNameByte

namespace Word

/-- The bytes that a word begins with, as long as they are neither quoted nor expanded. -/
def leadingPlain : Word → Bytes
  | .plain byte :: rest => byte :: leadingPlain rest
  | _ => []

/-- The bytes of a word in which nothing is quoted or expanded. -/
def plain? (word : Word) : Option Bytes :=
  let bytes := leadingPlain word
  if bytes.length = word.length then some bytes else none

/-- The bytes of a word without its quotes, expansions left out. -/
def unquoted : Word → Bytes
  | [] => []
  | .plain byte :: rest | .escaped byte :: rest => byte :: unquoted rest
  | _ :: rest => unquoted rest

/-- The name and the value of an assignment, if a word is one. -/
def assignment? (word : Word) : Option (Bytes × Word) :=
  let name := leadingName (leadingPlain word)
  match word.drop name.length with
  | .plain byte :: value => if !name.isEmpty && byte = 0x3D then some (name, value) else none
  | _ => none

/-- The word that stands for all arguments, each for itself. -/
def allArguments : Word := [.mark, .parameter ⟨[0x40], .value, false⟩ [], .mark]

end Word

end Shell

end HostnameSandbox
