import HostnameSandbox.Host.Channel
import HostnameSandbox.Host.Data

/-!
# Files of a host

A file tree says what stands at each place: a directory, a symbolic link, or a file with a
mode.  Looking a path up walks it name by name and follows links, of which one look-up may
meet only so many.
-/

namespace HostnameSandbox

/-- What is in a file: text, or a program. -/
inductive Content where
  | text (data : Data)
  | program (program : Program)

/-- What stands at a place. -/
inductive Node where
  | directory (mode : Nat)
  | link (target : Bytes)
  | file (mode : Nat) (content : Content)
  | device (channel : Channel)

/-- A place in a file tree: the names that lead there from the root. -/
abbrev Place := List Bytes

/-- The places of a host where something stands; the root is always a directory. -/
structure FileTree where
  entries : List (Place × Node)

namespace FileTree

/-- The mode of the root. -/
def rootMode : Nat := 0o755

/-- What stands at a place. -/
def find? (tree : FileTree) (place : Place) : Option Node :=
  if place.isEmpty then some (.directory rootMode)
  else (tree.entries.find? fun entry => entry.1 = place).map Prod.snd

/-- The tree with something new at a place. -/
def insert (tree : FileTree) (place : Place) (node : Node) : FileTree :=
  ⟨(place, node) :: tree.entries.filter fun entry => entry.1 != place⟩

/-- The byte between the names of a path. -/
def slash : UInt8 := 0x2F

/-- The name of the directory itself. -/
def here : Bytes := [0x2E]

/-- The name of the directory above. -/
def above : Bytes := [0x2E, 0x2E]

/-- The names in a path.  A slash at the end stands for the directory itself, so that what is
before it has to be a directory. -/
def names (path : Bytes) : List Bytes :=
  (path.splitOn slash).filter (fun name => !name.isEmpty) ++
    (if path.getLast? = some slash then [here] else [])

/-- Whether a path begins at the root. -/
def isAbsolute (path : Bytes) : Bool :=
  path.head? = some slash

/-- The path of a place. -/
def pathOf (place : Place) : Bytes :=
  if place.isEmpty then [slash] else place.flatMap fun name => slash :: name

/-- The most bytes in a name. -/
def longestName : Nat := 255

/-- Paths of this size and above are refused. -/
def pathLimit : Nat := 4096

/-- The most links that one look-up follows. -/
def linkLimit : Nat := 40

/-- Walks along names from a place; `follow` goes on where a link leads.  Unless `last` is set, a
link at the end is not followed. -/
def walkWith (tree : FileTree) (last : Bool)
    (follow : Place → List Bytes → Except Errno Place) :
    Place → List Bytes → Except Errno Place
  | place, [] => .ok place
  | place, name :: rest =>
      match tree.find? place with
      | some (.directory _) =>
          if name = here then walkWith tree last follow place rest
          else if name = above then walkWith tree last follow place.dropLast rest
          else if longestName < name.length then .error .nameTooLong
          else
            match tree.find? (place ++ [name]) with
            | none => .error .noEntry
            | some (.link target) =>
                if !last && rest.isEmpty then .ok (place ++ [name])
                else follow (if isAbsolute target then [] else place) (names target ++ rest)
            | some _ => walkWith tree last follow (place ++ [name]) rest
      | _ => .error .notDirectory

/-- Walks along names from a place, following at most so many links. -/
def walk (tree : FileTree) (last : Bool) : Nat → Place → List Bytes → Except Errno Place
  | 0 => walkWith tree last fun _ _ => .error .linkLoop
  | links + 1 => walkWith tree last (walk tree last links)

/-- Finds what a path leads to from the directory `origin`; unless `last` is set, a link at its
end is not followed. -/
def lookUp (tree : FileTree) (origin : Place) (path : Bytes) (last : Bool) :
    Except Errno (Place × Node) :=
  if path.isEmpty then .error .noEntry
  else if pathLimit ≤ path.length then .error .nameTooLong
  else do
    let place ← walk tree last linkLimit (if isAbsolute path then [] else origin) (names path)
    match tree.find? place with
    | none => .error .noEntry
    | some node => .ok (place, node)

/-- Finds what a path leads to from the directory `origin`. -/
def resolve (tree : FileTree) (origin : Place) (path : Bytes) : Except Errno (Place × Node) :=
  tree.lookUp origin path true

/-- Whether the owner may execute a file of this mode. -/
def ownerMayExecute (mode : Nat) : Bool := mode &&& 0o100 != 0

/-- Whether the owner may write to a file of this mode. -/
def ownerMayWrite (mode : Nat) : Bool := mode &&& 0o200 != 0

/-- Whether the owner may read a file of this mode. -/
def ownerMayRead (mode : Nat) : Bool := mode &&& 0o400 != 0

/-- The directory and the name that a path ends with. -/
def splitPath (path : Bytes) : Bytes × Bytes :=
  let name := (path.reverse.takeWhile (· != slash)).reverse
  let directory := path.take (path.length - name.length)
  (if directory.isEmpty then here else directory, name)

/-- The name of the directory with what tells about processes, in which nobody creates files. -/
def processRoot : Bytes := Bytes.ofString "proc"

/-- A path without the slashes at its end. -/
def withoutSlashes (path : Bytes) : Bytes := (path.reverse.dropWhile (· == slash)).reverse

/-- Whether a path says by a slash at its end that it leads to a directory, which nobody can create
by opening it.  The one above that directory has to be there. -/
def asksForDirectory (tree : FileTree) (origin : Place) (path : Bytes) : Except Errno Bool :=
  let (directory, name) := splitPath (withoutSlashes path)
  if path.getLast? ≠ some slash || [[], here, above].contains name then .ok false
  else do
    match ← tree.resolve origin directory with
    | (_, .directory _) => .ok true
    | _ => .error .notDirectory

/-- The place where a file would be created at a path that leads to nothing, following at most so
many links.  Its directory has to be there and to admit new files. -/
def creationPlace (tree : FileTree) : Nat → Place → Bytes → Except Errno Place
  | 0, _, _ => .error .linkLoop
  | links + 1, origin, path => do
      let (directory, name) := splitPath path
      if longestName < name.length then .error .nameTooLong
      else
        match ← tree.resolve origin directory with
        | (place, .directory mode) =>
            match tree.find? (place ++ [name]) with
            | some (.link target) => creationPlace tree links place target
            | _ =>
                if place.head? = some processRoot then .error .noEntry
                else if ownerMayWrite mode then .ok (place ++ [name])
                else .error .accessDenied
        | _ => .error .notDirectory

/-- Whether the owner may open a file of a mode for a use. -/
def ownerMayOpen (mode : Nat) (how : OpenMode) : Bool :=
  (!how.reads || ownerMayRead mode) && (!how.writes || ownerMayWrite mode)

/-- Opens the file at a place, which has a mode. -/
def openPlace (tree : FileTree) (place : Place) (mode : Nat) (how : OpenMode) :
    Except Errno (Channel × FileTree) :=
  if !ownerMayOpen mode how then .error .accessDenied
  else if how.truncates then .ok (.file place, tree.insert place (.file mode (.text .none)))
  else .ok (.file place, tree)

/-- Opens the file that a path leads to; tells what the open file leads to, and the tree after
that.  A file that is created gets the permissions `mode`. -/
def openFile (tree : FileTree) (origin : Place) (path : Bytes) (how : OpenMode) (mode : Nat) :
    Except Errno (Channel × FileTree) := do
  if how.creates && (← tree.asksForDirectory origin path) then .error .isDirectory
  else if how.creates && how.exclusive && (tree.lookUp origin path false).toBool then
    .error .alreadyThere
  else
    match tree.resolve origin path with
    | .ok (place, node) =>
        match node with
        | .directory _ =>
            if how.writes || how.creates then .error .isDirectory
            else .ok (.directory place, tree)
        | .device .terminal => .error .noDevice
        | .device (.file place) =>
            match tree.find? place with
            | some (.file mode _) => tree.openPlace place mode how
            | _ => .error .noEntry
        | .device channel =>
            if ownerMayOpen channel.mode how then .ok (channel, tree) else .error .accessDenied
        | .link _ => .error .linkLoop
        | .file mode _ => tree.openPlace place mode how
    | .error errno =>
        if errno ≠ .noEntry || !how.creates || path.isEmpty then .error errno
        else
          let place ← tree.creationPlace linkLimit origin path
          .ok (.file place, tree.insert place (.file mode (.text .none)))

/-- The bytes that every program's file begins with. -/
def programMark : Bytes := [0x7F, 0x45, 0x4C, 0x46]

/-- The bytes of the program's file at a place.  No two places have the same, so that a copy of the
bytes tells which program it is. -/
def programBytes (place : Place) : Bytes :=
  programMark ++ [0x02, 0x01, 0x01] ++ List.replicate 9 0 ++ [0x03, 0x00, 0x3E, 0x00] ++
    pathOf place ++ [0x0A]

/-- The program that data is a copy of. -/
def programOf? (tree : FileTree) (data : Data) : Option Program :=
  if data.piece 0 programMark.length = programMark then
    let text := data.toBytes
    tree.entries.findSome? fun (place, node) =>
      match node with
      | .file _ (.program program) => if programBytes place = text then some program else none
      | _ => none
  else none

/-- What is in the file at a place. -/
def contents (tree : FileTree) (place : Place) : Data :=
  match tree.find? place with
  | some (.file _ (.text data)) => data
  | some (.file _ (.program _)) => .ofBytes (programBytes place)
  | _ => .none

/-- The tree with other data in the file at a place. -/
def store (tree : FileTree) (place : Place) (data : Data) : FileTree :=
  match tree.find? place with
  | some (.file mode _) => tree.insert place (.file mode (.text data))
  | _ => tree

/-- The permissions of a link. -/
def linkMode : Nat := 0o777

/-- What can be told of what stands at a place, but for the time of its last change. -/
def factsOf (place : Place) : Node → FileFacts
  | .directory mode =>
      let isTelling := place.head?.any [processRoot, Bytes.ofString "sys"].contains
      ⟨.directory, if isTelling then 0 else 4096, mode, place, ownerMayRead mode,
        ownerMayWrite mode, ownerMayExecute mode, 0⟩
  | .link target => ⟨.link, target.length, linkMode, place, true, true, true, 0⟩
  | .file mode content =>
      let size := match content with
        | .text data => data.size
        | .program _ => (programBytes place).length
      ⟨.regular, size, mode, place, ownerMayRead mode, ownerMayWrite mode, ownerMayExecute mode, 0⟩
  | .device channel =>
      let mode := channel.mode
      ⟨channel.kind, 0, mode, place, ownerMayRead mode, ownerMayWrite mode,
        ownerMayExecute mode, 0⟩

/-- The names in the directory that a path leads to, in order, its own and the one above
included. -/
def list (tree : FileTree) (origin : Place) (path : Bytes) : Except Errno (List Bytes) := do
  match ← tree.resolve origin path with
  | (place, .directory mode) =>
      if ownerMayRead mode then
        let inside := tree.entries.filter fun entry =>
          entry.1.length = place.length + 1 && place.isPrefixOf entry.1
        let found := inside.filterMap fun entry => entry.1.getLast?
        .ok ((here :: above :: found).mergeSort fun one other => decide (one ≤ other))
      else .error .accessDenied
  | _ => .error .notDirectory

end FileTree

end HostnameSandbox
