import HostnameSandbox.Host.Shell.Code
import HostnameSandbox.Process

/-!
# Variables of the shell

Variables are kept in rows; the row of a variable depends on its name, and within a row the latest
is the last.  Programs find the exported ones in their environment, row after row.
-/

namespace HostnameSandbox

namespace Shell

/-- A variable. -/
structure Variable where
  name : Bytes
  value : Option Bytes
  isExported : Bool
  isReadOnly : Bool
  /-- Whether the variable keeps its place even if it has no value. -/
  isFixed : Bool
deriving DecidableEq, Repr

/-- What is said about a variable besides its value. -/
structure Qualities where
  isExported : Bool := false
  isReadOnly : Bool := false
  isFixed : Bool := false
deriving DecidableEq, Repr

namespace Variable

/-- The variable with more qualities. -/
def qualify (variable' : Variable) (qualities : Qualities) : Variable :=
  { variable' with
    isExported := variable'.isExported || qualities.isExported
    isReadOnly := variable'.isReadOnly || qualities.isReadOnly
    isFixed := variable'.isFixed || qualities.isFixed }

end Variable

/-- The variables of a shell. -/
structure Variables where
  rows : Array (List Variable)

namespace Variables

/-- The number of rows. -/
def rowCount : Nat := 39

/-- A number for a name: sixteen times its first byte and all its bytes together. -/
def weight (name : Bytes) : Nat :=
  name.foldl (fun sum byte => sum + byte.toNat) (16 * ((name.head?.map UInt8.toNat).getD 0))

/-- The row of a name. -/
def rowOf (name : Bytes) : Nat := weight name % rowCount

/-- The variables of a row. -/
def row (store : Variables) (name : Bytes) : List Variable :=
  (store.rows[rowOf name]?).getD []

/-- The variable with a name. -/
def find? (store : Variables) (name : Bytes) : Option Variable :=
  (store.row name).find? fun found => found.name = name

/-- The value of a variable. -/
def value? (store : Variables) (name : Bytes) : Option Bytes :=
  (store.find? name).bind Variable.value

/-- Whether a variable must not be changed. -/
def isReadOnly (store : Variables) (name : Bytes) : Bool :=
  (store.find? name).any Variable.isReadOnly

/-- The variables with another row for a name. -/
def setRow (store : Variables) (name : Bytes) (row : List Variable) : Variables :=
  ⟨store.rows.setIfInBounds (rowOf name) row⟩

/-- The variables without one of them. -/
def remove (store : Variables) (name : Bytes) : Variables :=
  store.setRow name ((store.row name).filter fun other => other.name != name)

/-- The variables with one that takes the place of another one of its name, or comes last in its
row. -/
def put (store : Variables) (new : Variable) : Variables :=
  let row := store.row new.name
  store.setRow new.name
    (if row.any fun other => other.name = new.name then
      row.map fun other => if other.name = new.name then new else other
    else row ++ [new])

/-- The variables after an assignment, or after a variable has lost its value.  One that loses its
value loses its place too, unless something is said about it. -/
def assign (store : Variables) (name : Bytes) (value : Option Bytes) (qualities : Qualities) :
    Variables :=
  let isBare := value.isNone && qualities = {}
  match store.find? name with
  | some found =>
      if isBare && !found.isFixed then store.remove name
      else store.put ({ found with value }.qualify qualities)
  | none =>
      if isBare then store
      else
        store.put
          ⟨name, value, qualities.isExported, qualities.isReadOnly, qualities.isFixed⟩

/-- All variables, row after row. -/
def toList (store : Variables) : List Variable := store.rows.toList.flatten

/-- The variables that programs find in their environment. -/
def environment (store : Variables) : Environment :=
  store.toList.filterMap fun found =>
    if found.isExported then found.value.map fun value => (found.name, value) else none

/-- The variables by name. -/
def sorted (store : Variables) : List Variable :=
  store.toList.mergeSort fun one other => decide (one.name ≤ other.name)

/-- The variables that every shell has, in the order in which they enter at the front of their
rows. -/
def initial : List (String × Option String) :=
  [("IFS", some " \t\n"), ("MAIL", none), ("MAILPATH", none),
    ("PATH", some "/usr/local/sbin:/usr/local/bin:/usr/sbin:/usr/bin:/sbin:/bin"),
    ("PS1", some "# "), ("PS2", some "> "), ("PS4", some "+ "), ("OPTIND", some "1")]

/-- The variables that every shell has. -/
def standard : Variables :=
  initial.foldl
    (fun store (name, value) =>
      let name := Bytes.ofString name
      store.setRow name
        (⟨name, value.map Bytes.ofString, false, false, true⟩ :: store.row name))
    ⟨Array.replicate rowCount []⟩

/-- The variables of a shell that begins with an environment; `own` are those that it sets for
itself. -/
def ofEnvironment (environment own : Environment) : Variables :=
  let imported := (environment.filter fun entry => isName entry.1).foldl
    (fun (store : Variables) (name, value) =>
      store.assign name (some value) { isExported := true })
    standard
  own.foldl (fun (store : Variables) (name, value) => store.assign name (some value) {})
    imported

end Variables

/-- A value as it can be read back: in single quotes, and single quotes in double quotes. -/
def quotedWithin : Nat → Bytes → Bytes
  | 0, _ => []
  | count + 1, text =>
      let plain := text.takeWhile (· != 0x27)
      let after := text.drop plain.length
      let quotes := after.takeWhile (· = 0x27)
      let shown := 0x27 :: plain ++ [0x27]
      if quotes.isEmpty then shown
      else
        let rest := after.drop quotes.length
        shown ++ 0x22 :: quotes ++ 0x22 ::
          (if rest.isEmpty then [] else quotedWithin count rest)

/-- A value as it can be read back. -/
def quoted (text : Bytes) : Bytes := quotedWithin (text.length + 1) text

end Shell

end HostnameSandbox
