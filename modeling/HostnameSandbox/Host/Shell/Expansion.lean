import HostnameSandbox.Host.Shell.Arithmetic
import HostnameSandbox.Host.Shell.Field
import HostnameSandbox.Host.Shell.Globbing
import HostnameSandbox.Host.Shell.Trimming

/-!
# Expansion of words

Parameters, expressions and the output of commands take their places in a word, and a tilde stands
for a home directory.  What comes of that is split into fields where it was not quoted, and fields
are replaced by the names of files that they match.
-/

namespace HostnameSandbox

namespace Shell

namespace Expansion

/-- How a word is expanded. -/
structure Manner where
  /-- Into fields. -/
  isFull : Bool
  /-- Into a pattern. -/
  isPattern : Bool
  /-- As if it stood between double quotes. -/
  isQuoted : Bool
  /-- With a home directory at the beginning. -/
  tildeFirst : Bool
  /-- With home directories behind the first equals sign and behind colons. -/
  tildeInValue : Bool
  /-- As the word that belongs to a parameter. -/
  isInner : Bool

namespace Manner

/-- Nothing but expansions. -/
def bare : Manner := ⟨false, false, false, false, false, false⟩

/-- Into fields. -/
def full : Manner := { bare with isFull := true, tildeFirst := true }

/-- Into one text. -/
def text : Manner := { bare with tildeFirst := true }

/-- Into the text of an assignment. -/
def assignment : Manner := { bare with tildeInValue := true }

/-- Into a pattern. -/
def pattern : Manner := { bare with isPattern := true, tildeFirst := true }

/-- Into one text, as between double quotes. -/
def quoted : Manner := { bare with isQuoted := true }

/-- Whether quotes leave marks. -/
def keepsMarks (manner : Manner) : Bool := manner.isFull || manner.isPattern

end Manner

/-- What separates fields if nothing else is said. -/
def usualSeparators : Bytes := [0x20, 0x09, 0x0A]

/-- What separates fields. -/
def separators (state : State) : Bytes := (state.value? "IFS").getD usualSeparators

/-- The parameters as one text.  Where they have to stay apart, a zero byte stands between them. -/
def joinedParameters (state : State) (isAll isFull isQuoted : Bool) : Bytes :=
  let joiner : Bytes :=
    if isFull && isQuoted && isAll then [0]
    else
      match state.value? "IFS" with
      | none => [0x20]
      | some separators => if isFull && !isQuoted then [0] else separators.take 1
  joiner.intercalate state.parameters

/-- The value of a parameter. -/
def value? (name : Bytes) (isFull isQuoted : Bool) : Doing (Option Bytes) := do
  let state ← get
  match name with
  | [0x24] => return some (integerText state.pid)
  | [0x3F] => return some (digits state.status)
  | [0x23] => return some (digits state.parameters.length)
  | [0x21] => return state.background.map integerText
  | [0x2D] => return some (Setting.letters state.settings)
  | [0x40] => return some (joinedParameters state true isFull isQuoted)
  | [0x2A] => return some (joinedParameters state false isFull isQuoted)
  | _ =>
      match Bytes.decimal? name with
      | some 0 => return some state.name
      | some place => return state.parameters[place - 1]?
      | none => return state.store.value? name

/-- The home directory of a user, whose line begins with the name and has the directory in its sixth
place. -/
def homeIn (name listing : Bytes) : Option Bytes :=
  ((listing.splitOn 0x0A).map fun line => line.splitOn 0x3A).findSome? fun entry =>
    if entry.head? = some name then entry[5]? else none

/-- Reads a file to its end, at most so many pieces. -/
def readAll (descriptor : Descriptor) : Nat → Doing Bytes
  | 0 => return []
  | count + 1 => do
      match (← Doing.ask (.read descriptor 4096) : Except Errno Bytes) with
      | .ok bytes => if bytes.isEmpty then return [] else return bytes ++ (← readAll descriptor count)
      | .error _ => return []

/-- The most pieces that a list of users is read in. -/
def pieceLimit : Nat := 1000

/-- The home directory of the user with a name, or of the one who runs the shell. -/
def home? (name : Bytes) : Doing (Option Bytes) := do
  if name.isEmpty then return (← get).value? "HOME"
  else
    match (← Doing.ask (.openFile (Bytes.ofString "/etc/passwd") .reading) :
        Except Errno Descriptor) with
    | .error _ => return none
    | .ok descriptor =>
        let listing ← readAll descriptor pieceLimit
        let _ ← Doing.ask (.close descriptor)
        return homeIn name listing

/-- The name behind a tilde and what follows it, unless something in it is quoted or expanded. -/
def tildeName? (inValue : Bool) : List Part → Option (Bytes × List Part)
  | [] => some ([], [])
  | parts@(.plain byte :: rest) =>
      if byte = 0x2F || (inValue && byte = 0x3A) then some ([], parts)
      else (tildeName? inValue rest).map fun (name, rest) => (byte :: name, rest)
  | _ => none

/-- Complains about a parameter that has no value. -/
def demand {α : Type} (name message : Bytes) : Doing α :=
  fail (name ++ Bytes.ofString ": " ++ message)

/-- The run of a value. -/
def valueRun (state : State) (isQuoted : Bool) (name value : Bytes) : Run :=
  let splitting : Splitting :=
    if !isQuoted then .fields
    else if name = [0x40] && !state.parameters.isEmpty then .parameters
    else .never
  ⟨splitting, Glyph.ofBytes isQuoted value⟩

/-- A text without the ends of lines at its end. -/
def withoutEndings (text : Bytes) : Bytes := (text.reverse.dropWhile (· = 0x0A)).reverse

/-- The bytes of runs. -/
def bytes (runs : List Run) : Bytes := runs.flatMap fun run => Glyph.bytes run.glyphs

/-- The glyphs of runs. -/
def glyphs (runs : List Run) : List Glyph := runs.flatMap Run.glyphs

/-- The value of an expression. -/
def arithmetic (text : Bytes) : Doing Int := do
  let state ← get
  let scope : Arithmetic.Scope := ⟨state.store.value?, state.store.isReadOnly⟩
  let (result, assigned) := Arithmetic.evaluate scope text
  assigned.forM fun (name, value) => setVariable name (integerText value)
  match result with
  | .ok value => return value
  | .error fault =>
      if fault = .overflow then
        let pid : Pid ← Doing.ask .ownPid
        let _ ← Doing.ask (.send pid .arithmeticError)
      fail (fault.message text)

/-- Where a word is being expanded. -/
structure Place where
  inQuotes : Bool
  /-- Whether an equals sign has been passed. -/
  inValue : Bool
  /-- Whether a tilde may stand here. -/
  mayTilde : Bool

/-- The place behind a byte that is not expanded. -/
def Place.behind (place : Place) (manner : Manner) (byte : UInt8) : Place :=
  let isEquals := manner.tildeInValue && byte = 0x3D && !place.inValue
  { place with
    inValue := place.inValue || isEquals
    mayTilde := isEquals || (manner.tildeInValue && byte = 0x3A) }

/-- Plain bytes that are expanded together, and what follows them; behind some of them a tilde may
stand. -/
def plainBytes (manner : Manner) (place : Place) : List Part → Bytes × List Part × Place
  | .plain byte :: rest =>
      let behind := place.behind manner byte
      if behind.mayTilde then ([byte], rest, behind)
      else
        let (bytes, rest, place) := plainBytes manner behind rest
        (byte :: bytes, rest, place)
  | rest => ([], rest, place)

/-- Escaped bytes at the beginning of a word, and what follows them. -/
def escapedBytes : List Part → Bytes × List Part
  | .escaped byte :: rest =>
      let (bytes, rest) := escapedBytes rest
      (byte :: bytes, rest)
  | rest => ([], rest)

/-- The home directory that a word begins with, and what follows it. -/
def tilde? (manner : Manner) (place : Place) (word : List Part) :
    Doing (Option (Bytes × List Part)) := do
  match place.mayTilde, word with
  | true, .plain 0x7E :: rest =>
      match tildeName? manner.tildeInValue rest with
      | none => return none
      | some (name, rest) => return (← home? name).map fun home => (home, rest)
  | _, _ => return none

/-- The word of a parameter, in the manner in which it is expanded. -/
def Manner.inner (manner : Manner) (isQuoted : Bool) : Treatment → Manner
  | .assigned | .demanded => .text
  | .withoutEnd _ | .withoutBeginning _ => .pattern
  | _ => { manner with isQuoted, isInner := true, tildeFirst := true }

/-- Where a search for the end of a user's name stops. -/
inductive NameEnd where
  /-- Something in the name is quoted. -/
  | none
  /-- It goes on behind the expression that is searched. -/
  | behind
  /-- At a place; these are the words behind it, each up to the end of a parameter. -/
  | at (words : List Word)

/-- Searches for the end of a user's name, within so many steps, though parameters and expressions
may stand in it. -/
def nameEnd (inValue inExpression : Bool) : Nat → List Part → NameEnd
  | 0, _ => .none
  | _, [] => if inExpression then .behind else .at [[]]
  | count + 1, word@(part :: rest) =>
      match part with
      | .plain byte =>
          if byte = 0x2F || (inValue && byte = 0x3A) then .at [word]
          else nameEnd inValue inExpression count rest
      | .escaped _ | .mark => .none
      | .command _ => nameEnd inValue inExpression count rest
      | .parameter parameter inner =>
          if parameter.treatment = .value then nameEnd inValue inExpression count rest
          else
            match nameEnd inValue false count inner with
            | .at words => .at (words ++ [rest])
            | other => other
      | .arithmetic expression =>
          match nameEnd inValue true count expression with
          | .at words => .at (words ++ [rest])
          | .behind => nameEnd inValue inExpression count rest
          | .none => .none

/-- Passes over a word within so many steps.  If the word ends too early, because a tilde was passed
together with the end of a parameter, the result is what follows: words, each of which goes up to the
end of a parameter that now belongs to an outer one. -/
def passOver : Nat → Manner → Place → List Part → List Word
  | 0, _, _, _ | _, _, _, [] => []
  | count + 1, manner, place, part :: rest =>
      let after := { place with mayTilde := false }
      let behind (words : List Word) : List Word :=
        match words with
        | [] => passOver count manner after rest
        | word :: words => passOver count manner after word ++ words ++ [rest]
      match part with
      | .plain byte =>
          match if place.mayTilde && byte = 0x7E then nameEnd manner.tildeInValue false count rest
            else .none with
          | .at (word :: words) => passOver count manner after word ++ words
          | _ => passOver count manner (place.behind manner byte) rest
      | .parameter parameter inner =>
          behind (passOver count (manner.inner manner.isQuoted parameter.treatment)
            ⟨false, place.inValue, true⟩ inner)
      | .arithmetic expression => behind (passOver count .bare ⟨false, false, false⟩ expression)
      | _ => passOver count manner after rest

/-- Expands a word, where `output` tells what commands print, within so many steps.  With the runs
comes what follows the word if that has ended too early. -/
def expandWithin (output : Code → Doing Bytes) :
    Nat → Manner → Place → List Run → List Part → Doing (List Run × List Word)
  | 0, _, _, runs, _ | _, _, _, runs, [] => return (runs.reverse, [])
  | count + 1, manner, place, runs, word@(part :: rest) => do
      match ← tilde? manner place word with
      | some (home, rest) =>
          expandWithin output count manner { place with mayTilde := false }
            (⟨.never, Glyph.ofBytes true home⟩ :: runs) rest
      | none =>
          let isQuoted := manner.isQuoted || place.inQuotes
          let after := { place with mayTilde := false }
          let goOn (found : List Run) (words : List Word) : Doing (List Run × List Word) := do
            let runs := found.reverse ++ runs
            match words with
            | [] => expandWithin output count manner after runs rest
            | word :: words => do
                let (runs, further) ← expandWithin output count manner after runs word
                return (runs, further ++ words ++ [rest])
          match part with
          | .plain _ =>
              let (bytes, rest, place) := plainBytes manner place word
              let splitting : Splitting :=
                if manner.isInner && !isQuoted then .fields else .never
              expandWithin output count manner place
                (⟨splitting, Glyph.ofBytes false bytes⟩ :: runs) rest
          | .escaped _ =>
              let (bytes, rest) := escapedBytes word
              expandWithin output count manner after
                (⟨.never, Glyph.ofBytes true bytes⟩ :: runs) rest
          | .mark =>
              match place.inQuotes, rest with
              | false, .parameter ⟨[0x40], .value, false⟩ word :: .mark :: rest =>
                  let (found, _) ← expandWithin output count { manner with isQuoted := true }
                    after [] [.parameter ⟨[0x40], .value, false⟩ word]
                  expandWithin output count manner after (found.reverse ++ runs) rest
              | _, _ =>
                  let marks : List Run := if manner.keepsMarks then [⟨.never, [.mark]⟩] else []
                  expandWithin output count manner { after with inQuotes := !place.inQuotes }
                    (marks ++ runs) rest
          | .command code =>
              let printed := withoutEndings (← output code)
              let splitting : Splitting := if isQuoted then .never else .fields
              goOn [⟨splitting, Glyph.ofBytes isQuoted printed⟩] []
          | .arithmetic expression =>
              let (text, words) ← expandWithin output count .bare ⟨false, false, false⟩ []
                expression
              let value ← arithmetic (bytes text)
              let splitting : Splitting := if isQuoted then .never else .fields
              goOn [⟨splitting, Glyph.ofBytes isQuoted (integerText value)⟩] words
          | .parameter parameter inner =>
              let name := parameter.name
              let treatment := parameter.treatment
              if treatment = .malformed then failText "Bad substitution"
              let state ← get
              let isUsed := treatment ≠ .length && treatment ≠ .instead
              let given ← value? name (manner.isFull && isUsed) isQuoted
              let value := given.filter fun value => !(parameter.emptyIsNone && value.isEmpty)
              let run := valueRun state isQuoted name
              let innerManner := manner.inner isQuoted treatment
              let innerPlace : Place := ⟨false, place.inValue, true⟩
              let expanded : Doing (List Run × List Word) :=
                expandWithin output count innerManner innerPlace [] inner
              let passed := passOver count innerManner innerPlace inner
              let unset : Doing Unit := do
                if state.has .demandsValues then
                  demand name (Bytes.ofString "parameter not set")
              match treatment, value with
              | .instead, none => goOn [run []] passed
              | .instead, some _ | .otherwise, none => do
                  let (found, words) ← expanded
                  goOn found words
              | .assigned, none => do
                  let (found, words) ← expanded
                  setVariable name (bytes found)
                  let assigned ← value? name manner.isFull isQuoted
                  goOn [run (assigned.getD [])] words
              | .demanded, none => do
                  let (found, _) ← expanded
                  demand name (if !inner.isEmpty then bytes found
                    else if parameter.emptyIsNone then
                      Bytes.ofString "parameter not set or null"
                    else Bytes.ofString "parameter not set")
              | .length, none => do
                  unset
                  goOn [run (digits 0)] []
              | .length, some value => goOn [run (digits value.length)] []
              | _, none => do
                  unset
                  goOn [] passed
              | .withoutEnd _, some value | .withoutBeginning _, some value => do
                  let (found, words) ← expanded
                  goOn [run (Trimming.ofValue treatment isQuoted (glyphs found) value)] words
              | _, some value => goOn [run value] passed

/-- How many steps an expansion may take. -/
def limit : Nat := Nat.pow 2 60

section

variable (output : Code → Doing Bytes)

/-- Expands a word in a manner. -/
def expand (manner : Manner) (word : Word) : Doing (List Run) :=
  Prod.fst <$> expandWithin output limit manner ⟨false, false, manner.tildeFirst⟩ [] word

/-- Expands a word into one text. -/
def toText (manner : Manner) (word : Word) : Doing Bytes := do
  return bytes (← expand output manner word)

/-- Expands a word into a pattern. -/
def toPattern (word : Word) : Doing Pattern := do
  return Glyph.pattern (glyphs (← expand output .pattern word))

/-- Expands a word into fields. -/
def toFields (word : Word) : Doing (List Bytes) := do
  let runs ← expand output .full word
  let state ← get
  let found ← (fields (separators state) none runs).mapM fun field => do
    if state.has .keepsPatterns then return [Glyph.bytes field]
    else
      let paths ← Globbing.expand (Glyph.pattern field)
      return if paths.isEmpty then [Glyph.bytes field] else paths
  return found.flatten

end

end Expansion

end Shell

end HostnameSandbox
