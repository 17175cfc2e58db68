import HostnameSandbox.Host.Shell.Builtin.Letters
import HostnameSandbox.Host.Shell.Builtin.Settings
import HostnameSandbox.Host.Shell.Expansion

/-!
# Commands about variables and parameters

Variables are exported, protected, made local and forgotten; they get their values from lines of
input or from the options among the parameters.
-/

namespace HostnameSandbox

namespace Shell

namespace Assigning

/-- The name and the value in a word; without an equals sign there is no value. -/
def split (word : Bytes) : Bytes × Option Bytes :=
  let name := word.takeWhile (· != 0x3D)
  (name, if name.length < word.length then some (word.drop (name.length + 1)) else none)

/-- Says something about variables, or shows those of which it has been said. -/
def declare (word : String) (qualities : Qualities) (args : List Bytes) : Doing Nat := do
  let parsed ← Letters.parse [('p', false)] args
  if parsed.has 'p' || parsed.operands.isEmpty then
    Settings.showVariables (Bytes.ofString word) fun found => found.qualify qualities = found
  else
    parsed.operands.forM fun operand => do
      let (name, value) := split operand
      let state ← get
      match value, state.store.find? name with
      | none, some found =>
          set { state with store := state.store.put (found.qualify qualities) }
      | _, _ => assignChecked name value qualities
  return 0

/-- Makes variables, or the settings, local to the function that runs. -/
def makeLocals (args : List Bytes) : Doing Nat := do
  if (← get).frames.isEmpty then failText "not in a function"
  args.forM fun word => do
    if word = [0x2D] then
      modify fun state =>
        { state with
          frames := match state.frames with
            | frame :: frames => (.settings state.settings :: frame) :: frames
            | [] => [] }
    else
      let (name, value) := split word
      makeLocal name value {}
  return 0

/-- Forgets variables or functions. -/
def unset (args : List Bytes) : Doing Nat := do
  let parsed ← Letters.parse [('v', false), ('f', false)] args
  let isFunction := (parsed.chosen.getLast?.map Prod.fst) = some 'f'
  parsed.operands.forM fun name =>
    if isFunction then
      modify fun state =>
        { state with functions := state.functions.filter fun found => found.name ≠ name }
    else assignChecked name none {}
  return 0

/-- Drops parameters from the front. -/
def shift (args : List Bytes) : Doing Nat := do
  let count ← match args with
    | [] => pure 1
    | word :: _ => number word
  let state ← get
  if state.parameters.length < count then failText "can't shift that many"
  Settings.setParameters (state.parameters.drop count)
  return 0

/-- What an option among parameters stands for, if it is known, and whether a word belongs to it. -/
def knownOption (letter : UInt8) : Bytes → Option Bool
  | [] => none
  | known :: rest =>
      let takesWord := rest.head? = some 0x3A
      if known = letter then some takesWord
      else knownOption letter (if takesWord then rest.tail else rest)
termination_by known => known.length
decreasing_by
  simp only [List.length_cons]
  split
  · simp only [List.length_tail]
    omega
  · omega

/-- What comes of looking for an option: what is told about it, how many words have been looked at,
and how far one is in the last of them. -/
structure Looked where
  isDone : Bool
  letter : UInt8
  word : Option (Option Bytes)
  complaint : Option Bytes
  count : Nat
  offset : Option Nat

/-- Looks for the next option among words, of which so many have been looked at. -/
def look (known : Bytes) (words : List Bytes) (count : Nat) (offset : Option Nat) : Looked :=
  let inWord := match offset, words[count - 1]? with
    | some offset, some word =>
        if 0 < count && offset < word.length then some (word.drop offset) else none
    | _, _ => none
  let done (count : Nat) : Looked := ⟨true, 0x3F, none, none, count, none⟩
  let found := match inWord with
    | some rest => Except.ok (rest, count)
    | none =>
        match words[count]? with
        | some (0x2D :: letter :: rest) =>
            if letter = 0x2D && rest.isEmpty then .error (done (count + 1))
            else .ok (letter :: rest, count + 1)
        | _ => .error (done count)
  match found with
  | .error looked => looked
  | .ok (letters, count) =>
      let letter := letters.head?.getD 0
      let rest := letters.tail
      let word := (words[count - 1]?).getD []
      let offset := some (word.length - rest.length)
      let isQuiet := known.head? = some 0x3A
      match knownOption letter known with
      | none =>
          if isQuiet then ⟨false, 0x3F, some (some [letter]), none, count, offset⟩
          else
            let complaint := Bytes.ofString "Illegal option -" ++ [letter, 0x0A]
            ⟨false, 0x3F, some none, some complaint, count, offset⟩
      | some false => ⟨false, letter, some (some []), none, count, offset⟩
      | some true =>
          if !rest.isEmpty then ⟨false, letter, some (some rest), none, count, none⟩
          else
            match words[count]? with
            | some word => ⟨false, letter, some (some word), none, count + 1, none⟩
            | none =>
                if isQuiet then ⟨false, 0x3A, some (some [letter]), none, count, none⟩
                else
                  let complaint := Bytes.ofString "No arg for -" ++ [letter] ++
                    Bytes.ofString " option\n"
                  ⟨false, 0x3F, some none, some complaint, count, none⟩

/-- Finds the next option among the parameters, or among other words. -/
def getopts (args : List Bytes) : Doing Nat := do
  match args with
  | known :: name :: words => do
      let state ← get
      let words := if words.isEmpty then state.parameters else words
      let (index, offset) := if words.length + 1 < state.optionIndex then (1, none)
        else (state.optionIndex, state.optionOffset)
      let looked := look known words (index - 1) offset
      looked.complaint.forM say
      let argument := Bytes.ofString "OPTARG"
      looked.word.forM fun word => assignChecked argument word {}
      let next := looked.count + 1
      assignSilently (Bytes.ofString "OPTIND") (some (digits next)) {}
      setVariable name [looked.letter]
      modify fun state => { state with optionIndex := next, optionOffset := looked.offset }
      return if looked.isDone then 1 else 0
  | _ => failText "Usage: getopts optstring var [arg...]"

/-- The runs with a region more, which is given in reverse. -/
def withRegion (runs : List Run) (region : Bytes) : List Run :=
  ⟨.fields, Glyph.ofBytes false region.reverse⟩ :: runs

/-- Reads a line byte by byte, within so many bytes, into runs, the latest first; tells whether the
line has ended.  A backslash protects what follows it, unless `isRaw` is set. -/
def readLine (isRaw : Bool) : Nat → Bool → List Run → Bytes → Doing (List Run × Bool)
  | 0, _, runs, _ => return (runs, false)
  | count + 1, isProtected, runs, region => do
      match (← Doing.ask (.read Descriptor.input 1) : Except Errno Bytes) with
      | .ok (byte :: _) =>
          if byte = 0 then readLine isRaw count isProtected runs region
          else if isProtected then
            if byte = 0x0A then readLine isRaw count false runs []
            else readLine isRaw count false (⟨.never, Glyph.ofBytes true [byte]⟩ :: runs) []
          else if byte = 0x5C && !isRaw then readLine isRaw count true (withRegion runs region) []
          else if byte = 0x0A then return (withRegion runs region, true)
          else readLine isRaw count false runs (byte :: region)
      | _ => return (withRegion runs region, false)

/-- Gives variables the fields of a line; those without a field become empty. -/
def distribute : List Bytes → List Bytes → Doing Unit
  | [], _ => pure ()
  | name :: names, fields => do
      setVariable name (fields.head?.getD [])
      distribute names fields.tail

/-- Reads a line into variables. -/
def read (args : List Bytes) : Doing Nat := do
  let parsed ← Letters.parse [('p', true), ('r', false)] args
  let names := parsed.operands
  if names.isEmpty then failText "arg count"
  let (runs, isWhole) ← readLine (parsed.has 'r') Expansion.limit false [] []
  let separators := Expansion.separators (← get)
  distribute names ((fields separators (some names.length) runs.reverse).map Glyph.bytes)
  return if isWhole then 0 else 1

end Assigning

end Shell

end HostnameSandbox
