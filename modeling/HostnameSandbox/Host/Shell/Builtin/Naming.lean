import HostnameSandbox.Host.Shell.Builtin.Letters
import HostnameSandbox.Host.Shell.Lookup
import HostnameSandbox.Host.Shell.Reader

/-!
# Names of commands

What a name stands for as a command: a keyword, an alias, a function, a command of the shell itself,
or a program.
-/

namespace HostnameSandbox

namespace Shell

namespace Naming

/-- A row of names in the order in which they are shown: by rows to which the names belong, and
within a row as they came. -/
def inRows {α : Type} (count : Nat) (name : α → Bytes) (entries : List α) : List α :=
  let row (entry : α) : Nat := Variables.weight (name entry) % 0x8000 % count
  entries.mergeSort fun one other => decide (row one ≤ row other)

/-- An alias as it can be read back. -/
def aliasText (entry : Bytes × Bytes) : Bytes := entry.1 ++ 0x3D :: quoted entry.2 ++ [0x0A]

/-- Shows aliases, or gives names a meaning. -/
def nickname (args : List Bytes) : Doing Nat := do
  if args.isEmpty then
    (inRows Variables.rowCount Prod.fst (← get).aliases).forM fun entry => print (aliasText entry)
    return 0
  else
    args.foldlM
      (fun (status : Nat) word => do
        let name := word.take 1 ++ (word.drop 1).takeWhile (· != 0x3D)
        let aliases := (← get).aliases
        if name.length < word.length then
          let new := (name, word.drop (name.length + 1))
          modify fun state =>
            { state with
              aliases := if aliases.any fun entry => entry.1 = name then
                  aliases.map fun entry => if entry.1 = name then new else entry
                else aliases ++ [new] }
          return status
        else
          match aliases.find? fun entry => entry.1 = name with
          | some entry => do
              print (aliasText entry)
              return status
          | none => do
              say (Bytes.ofString "alias: " ++ name ++ Bytes.ofString " not found\n")
              return 1)
      0

/-- Takes the meaning of names away. -/
def unalias (args : List Bytes) : Doing Nat := do
  let parsed ← Letters.parse [('a', false)] args
  if parsed.has 'a' then
    modify fun state => { state with aliases := [] }
    return 0
  else
    parsed.operands.foldlM
      (fun (status : Nat) name => do
        let aliases := (← get).aliases
        if aliases.any fun entry => entry.1 = name then
          modify fun state =>
            { state with aliases := aliases.filter fun entry => entry.1 ≠ name }
          return status
        else
          say (Bytes.ofString "unalias: " ++ name ++ Bytes.ofString " not found\n")
          return 1)
      0

/-- Tells what a name stands for, in words if `isWordy` is set; programs are looked for in `path` if
there is one. -/
def describe (isWordy : Bool) (path : Option Bytes) (name : Bytes) : Doing Nat := do
  let state ← get
  let tell (words : String) (plain : Bytes) : Doing Nat := do
    print (if isWordy then name ++ Bytes.ofString words else plain)
    print [0x0A]
    return 0
  match Keyword.ofBytes? name, state.aliases.find? fun entry => entry.1 = name with
  | some _, _ => tell " is a shell keyword" name
  | none, some entry =>
      if isWordy then do
        print (name ++ Bytes.ofString " is an alias for " ++ entry.2 ++ [0x0A])
        return 0
      else do
        print (Bytes.ofString "alias " ++ aliasText entry)
        return 0
  | none, none =>
      let isTracked := path.isNone && (Builtin.find? name).isNone &&
        state.tracked.any fun found => found.name = name
      let unknown : Doing Nat := do
        if isWordy then print (name ++ Bytes.ofString ": not found\n")
        return 127
      match ← Lookup.find name ⟨false, true, path⟩ with
      | .unknown => unknown
      | .function _ => tell " is a shell function" name
      | .builtin found =>
          tell (if found.isSpecial then " is a special shell builtin" else " is a shell builtin")
            name
      | .program none => do
          match (← Doing.ask (.examine name true) : Except Errno FileFacts) with
          | .ok _ => do
              print (if isWordy then name ++ Bytes.ofString " is " ++ name else name)
              print [0x0A]
              return 0
          | .error _ => unknown
      | .program (some place) => do
          let found := Lookup.pathOf name (path.getD (Lookup.searchPath (← get))) (some place)
          let words := if isTracked then " is a tracked alias for " else " is "
          print (if isWordy then name ++ Bytes.ofString words ++ found else found)
          print [0x0A]
          return 0

/-- Tells what names stand for. -/
def type (args : List Bytes) : Doing Nat :=
  args.foldlM (fun (status : Nat) name => do return status ||| (← describe true none name)) 0

/-- Tells what a name stands for, as the options ask; a command is not carried out here. -/
def command (args : List Bytes) : Doing Nat := do
  let parsed ← Letters.parse [('p', false), ('v', false), ('V', false)] args
  let path := if parsed.has 'p' then some Lookup.standardPath else none
  match parsed.operands with
  | name :: _ =>
      if parsed.has 'v' || parsed.has 'V' then describe (parsed.has 'V') path name else return 0
  | [] => return 0

/-- The number of rows in which programs are remembered. -/
def rowCount : Nat := 31

/-- Shows where programs were found, or looks for them. -/
def hash (args : List Bytes) : Doing Nat := do
  let parsed ← Letters.parse [('r', false)] args
  if parsed.has 'r' then
    modify fun state => { state with tracked := [] }
    return 0
  else if parsed.operands.isEmpty then
    let state ← get
    (inRows rowCount Tracked.name state.tracked).forM fun found =>
      print (Lookup.pathOf found.name (Lookup.searchPath state) (some found.place) ++
        (if found.isStale then [0x2A] else []) ++ [0x0A])
    return 0
  else
    parsed.operands.foldlM
      (fun (status : Nat) name => do
        modify fun state =>
          { state with tracked := state.tracked.filter fun found => found.name ≠ name }
        match ← Lookup.find name ⟨true, true, none⟩ with
        | .unknown => return 1
        | _ => return status)
      0

end Naming

end Shell

end HostnameSandbox
