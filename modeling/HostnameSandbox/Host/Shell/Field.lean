import HostnameSandbox.Host.Shell.Pattern

/-!
# Fields

What comes of expanding a word is a row of runs.  Some runs are split at separators, so that one word
becomes several fields or none.  What was quoted is kept apart until a field is turned into bytes or
into a pattern.
-/

namespace HostnameSandbox

namespace Shell

/-- A byte of an expanded word, or the place where quotes began or ended. -/
inductive Glyph where
  | byte (value : UInt8) (quoted : Bool)
  | mark
deriving DecidableEq, Repr

/-- Where a run is split. -/
inductive Splitting where
  /-- Nowhere. -/
  | never
  /-- At the separators of fields. -/
  | fields
  /-- Only where one parameter ends and the next begins. -/
  | parameters
deriving DecidableEq, Repr

/-- A part of an expanded word. -/
structure Run where
  splitting : Splitting
  glyphs : List Glyph
deriving DecidableEq, Repr

namespace Glyph

/-- Bytes as glyphs. -/
def ofBytes (quoted : Bool) (bytes : Bytes) : List Glyph := bytes.map fun value => .byte value quoted

/-- The byte of a glyph, if it is one. -/
def byte? : Glyph → Option UInt8
  | .byte value _ => some value
  | .mark => none

/-- The bytes among glyphs. -/
def bytes (glyphs : List Glyph) : Bytes := glyphs.filterMap byte?

/-- The bytes that would have a meaning in a pattern if they were not quoted. -/
def isMeaningful (byte : UInt8) : Bool := (Bytes.ofString "!*?[=~:/-]\\").contains byte

/-- Glyphs as the text of a pattern, in which a backslash takes the meaning of the next byte away;
`isFree` tells that no backslash precedes. -/
def patternText (isFree : Bool) : List Glyph → Bytes
  | [] => []
  | .mark :: rest => patternText true rest
  | .byte value quoted :: rest =>
      if quoted && isMeaningful value then
        (if isFree then [0x5C, value] else [value]) ++ patternText true rest
      else value :: patternText (quoted || value ≠ 0x5C) rest

/-- The pattern with a text, in which a backslash takes the meaning of the next byte away. -/
def readPattern : Bytes → Pattern
  | 0x5C :: value :: rest => ⟨value, true⟩ :: readPattern rest
  | value :: rest => ⟨value, value = 0x5C⟩ :: readPattern rest
  | [] => []

/-- Glyphs as a pattern. -/
def pattern (glyphs : List Glyph) : Pattern := readPattern (patternText true glyphs)

end Glyph

/-- How far a row of runs has been split into fields. -/
structure Splitter where
  /-- The finished fields, the latest first. -/
  finished : List (List Glyph)
  /-- The glyphs of the field that is open, the latest first. -/
  current : List Glyph
  /-- How many fields there may still be, if there is a limit. -/
  left : Option Nat
  /-- How much of the last field is kept, where what follows are separators. -/
  kept : Option Nat
  /-- Whether blanks that follow belong to the separator that has been read. -/
  inSeparator : Bool
  splitting : Splitting
  /-- How the run before was split. -/
  former : Splitting

namespace Splitter

/-- Before the first run, with a limit to the number of fields. -/
def start (left : Option Nat) : Splitter where
  finished := []
  current := []
  left := left
  kept := none
  inSeparator := false
  splitting := .never
  former := .never

/-- Whether a byte is a blank that separates fields if nothing else is said. -/
def isBlank (byte : UInt8) : Bool := byte = 0x20 || byte = 0x09 || byte = 0x0A || byte = 0

/-- The splitter with a glyph more in the open field. -/
def keep (splitter : Splitter) (glyph : Glyph) : Splitter :=
  { splitter with current := glyph :: splitter.current }

/-- A glyph behind the limit to the number of fields. -/
def readLast (splitter : Splitter) (glyph : Glyph) (isSeparator isBlank : Bool) : Splitter :=
  let length := splitter.current.length
  if isBlank && isSeparator then
    { splitter.keep glyph with kept := some (splitter.kept.getD length) }
  else
    let kept := if isSeparator && splitter.inSeparator then splitter.kept else none
    { splitter.keep glyph with kept, inSeparator := false }

/-- A glyph that separates fields. -/
def separate (splitter : Splitter) (glyph : Glyph) (isBlank : Bool) : Splitter :=
  let byParameters := splitter.former = .parameters || splitter.splitting = .parameters
  let splitter := if byParameters then splitter else { splitter with inSeparator := isBlank }
  if splitter.current.isEmpty && splitter.inSeparator then { splitter with inSeparator := false }
  else
    match splitter.left with
    | some 1 =>
        { splitter.keep glyph with left := some 0, kept := some splitter.current.length }
    | left =>
        { splitter with
          finished := splitter.current.reverse :: splitter.finished
          current := []
          left := left.map fun count => count - 1 }

/-- A glyph of a run that is split. -/
def read (separators : Bytes) (splitter : Splitter) (glyph : Glyph) : Splitter :=
  match glyph with
  | .mark => splitter.keep glyph
  | .byte value _ =>
      let isSeparator := value = 0 || (splitter.splitting = .fields && separators.contains value)
      let isBlank := isSeparator && isBlank value
      if splitter.left = some 0 then splitter.readLast glyph isSeparator isBlank
      else if splitter.inSeparator then
        if isSeparator then { splitter with inSeparator := isBlank }
        else { splitter.keep glyph with inSeparator := false }
      else if isSeparator then splitter.separate glyph isBlank
      else splitter.keep glyph

/-- A run. -/
def readRun (separators : Bytes) (splitter : Splitter) (run : Run) : Splitter :=
  match run.splitting with
  | .never => run.glyphs.foldl keep splitter
  | splitting =>
      run.glyphs.foldl (read separators)
        { splitter with splitting, former := splitter.splitting, inSeparator := false }

/-- The fields when all runs have been read. -/
def finish (splitter : Splitter) : List (List Glyph) :=
  let last := splitter.current.reverse
  if splitter.splitting = .parameters then (last :: splitter.finished).reverse
  else
    let last := match splitter.kept with
      | some count => last.take count
      | none => last
    if last.isEmpty then splitter.finished.reverse else (last :: splitter.finished).reverse

end Splitter

/-- The fields of a row of runs, at most so many. -/
def fields (separators : Bytes) (limit : Option Nat) (runs : List Run) : List (List Glyph) :=
  (runs.foldl (Splitter.readRun separators) (Splitter.start limit)).finish

end Shell

end HostnameSandbox
