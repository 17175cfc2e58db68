import HostnameSandbox.Host.FileTree

/-!
# Loading programs

How a path and a list of words become a program that runs: a program file is taken as it is,
a text that begins with an interpreter line is handed to its interpreter.  A name without a
slash is looked up in a list of directories.
-/

namespace HostnameSandbox

/-- A program ready to run: what its file is called, where it was found, and the words it is called
with. -/
structure Loaded where
  name : Bytes
  path : Bytes
  program : Program
  words : List Bytes

namespace Loading

/-- Words of this size and above are refused. -/
def wordLimit : Nat := 131072

/-- The room that words may take, with a reference to each: a quarter of the stack, within
bounds. -/
def roomForWords (stack : Option Nat) : Nat :=
  let most := 6291456
  max wordLimit (stack.elim most fun stack => min most (stack / 4))

/-- What a program is started with besides its words: the environment as words, the room that there
is for all of them, and the places of the files that somebody may write to, which nobody may run
for the time being. -/
structure Luggage where
  environment : List Bytes
  room : Nat
  written : List Place

/-- Whether the words for a program at a path are too long, or take more room than they may have. -/
def Luggage.isExceeded (luggage : Luggage) (path : Bytes) (words : List Bytes) : Bool :=
  let all := words ++ luggage.environment
  all.any (fun word => wordLimit ≤ word.length) ||
    luggage.room < all.foldl (fun room word => room + word.length + 9) (path.length + 1)

/-- Whether the file at a place may be run, which has a mode. -/
def Luggage.admit (luggage : Luggage) (place : Place) (mode : Nat) : Except Errno Unit :=
  if !FileTree.ownerMayExecute mode then .error .accessDenied
  else if luggage.written.contains place then .error .textBusy
  else .ok ()

/-- How much of a text is looked at for its interpreter line. -/
def lineLimit : Nat := 256

/-- Blanks on an interpreter line. -/
def isBlank (byte : UInt8) : Bool := byte = 0x20 || byte = 0x09

/-- The bytes that end the name of an interpreter. -/
def endsName (byte : UInt8) : Bool := isBlank byte || byte = 0

/-- The interpreter that a text names on its first line, with the one argument that may
follow.  A NUL byte ends either; past the end of a text there are only NUL bytes.  A name that
does not end in the part that is looked at is none. -/
def interpreter? (text : Bytes) : Option (Bytes × Option Bytes) :=
  match (text ++ List.replicate lineLimit 0).take lineLimit with
  | 0x23 :: 0x21 :: rest =>
      let line := rest.takeWhile fun byte => byte != 0x0A && byte != 0
      let ends := (rest.drop line.length).head? = some 0x0A
      let looked := if ends then line else rest.dropLast
      let named := looked.dropWhile isBlank
      if named.isEmpty || (!ends && !named.any endsName) then none
      else
        let named := (named.reverse.dropWhile isBlank).reverse
        let name := named.takeWhile fun byte => !endsName byte
        let after := named.drop name.length
        let argument := (after.dropWhile isBlank).takeWhile (· != 0)
        if after.head? = some 0 || argument.isEmpty then some (name, none)
        else some (name, some argument)
  | _ => none

/-- How often an interpreter may itself be a text with an interpreter line. -/
def nestingLimit : Nat := 5

/-- The name that a path ends with. -/
def lastName (path : Bytes) : Bytes := (FileTree.splitPath path).2

/-- Loads a file, where `nesting` limits how often an interpreter line leads to another. -/
def loadNested (files : FileTree) (luggage : Luggage) (origin : Place) :
    Nat → Bytes → List Bytes → Except Errno Loaded
  | nesting, path, words => do
      match ← files.resolve origin path with
      | (place, .file mode content) =>
          luggage.admit place mode
          match content with
          | .program program => .ok ⟨lastName path, FileTree.pathOf place, program, words⟩
          | .text data =>
              match interpreter? (data.piece 0 lineLimit), nesting with
              | none, _ =>
                  match files.programOf? data with
                  | some program =>
                      .ok ⟨lastName path, FileTree.pathOf place, program, words⟩
                  | none => .error .badFormat
              | some (name, _), 0 => do
                  match ← files.resolve origin name with
                  | (place, .file mode _) =>
                      luggage.admit place mode
                      .error .linkLoop
                  | _ => .error .accessDenied
              | some (name, argument), nesting + 1 =>
                  if name.isEmpty then .error .accessDenied
                  else
                    loadNested files luggage origin nesting name
                      (name :: argument.toList ++ path :: words.tail)
      | _ => .error .accessDenied

/-- Loads the program at a path.  That its words fit is checked once the file is known to be one that
may be executed, and before its format matters. -/
def load (files : FileTree) (luggage : Luggage) (origin : Place) (path : Bytes) (words : List Bytes) :
    Except Errno Loaded := do
  match ← files.resolve origin path with
  | (place, .file mode _) =>
      luggage.admit place mode
      if luggage.isExceeded path words then .error .argumentsTooLong
      else
        let loaded ← loadNested files luggage origin nestingLimit path words
        .ok { loaded with name := lastName path }
  | _ => .error .accessDenied

/-- The shell that runs texts without an interpreter line. -/
def shellPath : Bytes := Bytes.ofString "/bin/sh"

/-- Loads the program at a path, or the shell on it if it is in no format of its own. -/
def loadOrInterpret (files : FileTree) (luggage : Luggage) (origin : Place) (path : Bytes)
    (words : List Bytes) : Except Errno Loaded :=
  match load files luggage origin path words with
  | .ok loaded => .ok loaded
  | .error errno =>
      if errno = .badFormat then
        load files luggage origin shellPath (shellPath :: path :: words.tail)
      else .error errno

/-- Whether a search goes on after this error at one of its directories. -/
def isPassedOver (errno : Errno) : Bool :=
  [2, 13, 19, 20, 110, 116].contains errno.number

/-- Tries a name in one directory after the other.  A file that may not be executed is passed
over, but told about if no other is found. -/
def search (attempt : Bytes → Except Errno Loaded) (name : Bytes) (denied : Bool)
    (latest : Errno) : List Bytes → Except Errno Loaded
  | [] => .error (if denied then .accessDenied else latest)
  | directory :: rest =>
      match attempt (if directory.isEmpty then name
        else directory ++ FileTree.slash :: name) with
      | .ok loaded => .ok loaded
      | .error errno =>
          if isPassedOver errno then
            search attempt name (denied || errno = .accessDenied) errno rest
          else .error errno

/-- Finds a program by its path, or by its name in a list of directories. -/
def locate (attempt : Bytes → Except Errno Loaded) (directories : List Bytes) (name : Bytes) :
    Except Errno Loaded :=
  if name.isEmpty then .error .noEntry
  else if name.contains FileTree.slash then attempt name
  else if FileTree.longestName < name.length then .error .nameTooLong
  else search attempt name false .noEntry directories

end Loading

end HostnameSandbox
