import HostnameSandbox.Host.Shell.Code
import HostnameSandbox.Host.Shell.Field

/-!
# Trimming values

What a pattern matches at one end of a value is taken away from it.  For a value that is one text
this is simple.  Parameters that stand side by side, with a zero byte between any two of them, lie on
a sheet together with the pattern and a copy of the first of them; there a search that begins at the
end of the row may go on in what lies before the copy.
-/

namespace HostnameSandbox

namespace Shell

namespace Trimming

/-- A text without what a pattern matches at one end. -/
def ofText (treatment : Treatment) (pattern : Pattern) (text : Bytes) : Bytes :=
  let places := List.range (text.length + 1)
  let ending (place : Nat) : Bool := Pattern.matchesText pattern (text.drop place)
  match treatment with
  | .withoutBeginning false => text.drop ((Pattern.places pattern text).head?.getD 0)
  | .withoutBeginning true => text.drop ((Pattern.places pattern text).getLast?.getD 0)
  | .withoutEnd false => text.take ((places.reverse.find? ending).getD text.length)
  | .withoutEnd true => text.take ((places.find? ending).getD text.length)
  | _ => text

/-- The byte in front of one that is to be taken as it is. -/
def mark : UInt8 := 0x81

/-- The byte for a place where quotes begin or end. -/
def quoteMark : UInt8 := 0x88

/-- Whether a byte gets a mark. -/
def isMarked (quoted : Bool) (byte : UInt8) : Bool :=
  (mark ≤ byte && byte ≤ quoteMark) || (quoted && Glyph.isMeaningful byte)

/-- A byte with the mark that it gets. -/
def markedByte (quoted : Bool) (byte : UInt8) : Bytes :=
  if isMarked quoted byte then [mark, byte] else [byte]

/-- Bytes without their marks. -/
def withoutMarks : Bytes → Bytes
  | [] => []
  | first :: rest =>
      if first = mark then
        match rest with
        | [] => []
        | byte :: rest => byte :: withoutMarks rest
      else first :: withoutMarks rest

/-- A glyph with the mark that it gets. -/
def markedGlyph : Glyph → Bytes
  | .mark => [quoteMark]
  | .byte value quoted => markedByte quoted value

/-- The pattern as it lies on the sheet: its text, and what it does not cover of the glyphs that it
was made of. -/
def patternBytes (glyphs : List Glyph) : Bytes :=
  let text := Glyph.patternText true glyphs
  text ++ 0 :: (glyphs.flatMap markedGlyph ++ [0]).drop (text.length + 1)

/-- Values that stand side by side, a pattern, and perhaps a copy of the first value. -/
structure Sheet where
  bytes : Array UInt8
  /-- Where the values end; the pattern follows. -/
  ending : Nat
  /-- Where the copy begins, or the values themselves if their first has no marks. -/
  copy : Nat
  /-- Where the copy ends. -/
  copyEnding : Nat

namespace Sheet

/-- The sheet for values and the glyphs of a pattern. -/
def ofValues (quoted : Bool) (values : Bytes) (glyphs : List Glyph) : Sheet :=
  let marked := values.flatMap (markedByte quoted)
  let pattern := patternBytes glyphs
  let first := marked.takeWhile (· != 0)
  let bytes := marked ++ 0 :: pattern
  if first.contains mark then
    let copy := withoutMarks first
    ⟨(bytes ++ copy ++ [0]).toArray, marked.length, bytes.length, bytes.length + copy.length⟩
  else ⟨bytes.toArray, marked.length, 0, marked.length⟩

/-- The bytes from a place up to the next zero byte. -/
def text (bytes : Array UInt8) (place : Nat) : Bytes :=
  (bytes.toList.drop place).takeWhile (· != 0)

/-- Whether the pattern matches the copy up to a place, or what follows that place. -/
def isMatch (sheet : Sheet) (atBeginning : Bool) (place : Nat) : Bool :=
  let bytes := if atBeginning then sheet.bytes.setIfInBounds place 0 else sheet.bytes
  Pattern.matchesText (Glyph.readPattern (text bytes (sheet.ending + 1)))
    (text bytes (if atBeginning then sheet.copy else place))

/-- How many marks stand directly before a place. -/
def marksBefore (sheet : Sheet) : Nat → Nat
  | 0 => 0
  | place + 1 => if sheet.bytes.getD place 0 = mark then sheet.marksBefore place + 1 else 0

/-- Searches from the beginning on, at most so far; `place` is among the values and `other` in the
copy. -/
def searchOn (sheet : Sheet) (atBeginning : Bool) : Nat → Nat → Nat → Option Nat
  | 0, _, _ => none
  | count + 1, place, other =>
      if sheet.isMatch atBeginning other then some place
      else if sheet.bytes.getD other 0 = 0 then none
      else
        let step := if sheet.bytes.getD place 0 = mark then 2 else 1
        sheet.searchOn atBeginning count (place + step) (other + 1)

/-- Searches from the end back, at most so far; `marks` tells how many marks before `place` are known
to be there. -/
def searchBack (sheet : Sheet) (atBeginning : Bool) : Nat → Int → Int → Nat → Option Nat
  | 0, _, _, _ => none
  | count + 1, marks, place, other =>
      if place < 0 then none
      else if sheet.isMatch atBeginning other then some place.toNat
      else
        let before := place - 1
        let known := if marks ≤ 0 then (sheet.marksBefore before.toNat : Int) else marks - 1
        let isMarked := known % 2 = 1
        sheet.searchBack atBeginning count (if isMarked then known - 1 else known)
          (if isMarked then before - 1 else before) (other - 1)

end Sheet

/-- Values that stand side by side without what a pattern matches at one end. -/
def ofValues (treatment : Treatment) (quoted : Bool) (glyphs : List Glyph) (values : Bytes) :
    Bytes :=
  let sheet := Sheet.ofValues quoted values glyphs
  let count := sheet.bytes.size
  let on (atBeginning : Bool) : Option Nat := sheet.searchOn atBeginning count 0 sheet.copy
  let back (atBeginning : Bool) : Option Nat :=
    sheet.searchBack atBeginning count 0 sheet.ending sheet.copyEnding
  let marked := sheet.bytes.toList.take sheet.ending
  withoutMarks
    (match treatment with
    | .withoutBeginning false => marked.drop ((on true).getD 0)
    | .withoutBeginning true => marked.drop ((back true).getD 0)
    | .withoutEnd false => marked.take ((back false).getD marked.length)
    | .withoutEnd true => marked.take ((on false).getD marked.length)
    | _ => marked)

/-- A value without what a pattern matches at one end. -/
def ofValue (treatment : Treatment) (quoted : Bool) (glyphs : List Glyph) (value : Bytes) : Bytes :=
  if value.contains 0 then ofValues treatment quoted glyphs value
  else ofText treatment (Glyph.pattern glyphs) value

end Trimming

end Shell

end HostnameSandbox
