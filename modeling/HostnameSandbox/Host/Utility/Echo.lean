import HostnameSandbox.Host.Numeral.Reading
import HostnameSandbox.Host.Utility.Basic

/-!
# Printing words

`echo` prints its words on one line.  The option `-n` leaves the end of the line out, `-e` gives
backslashes a meaning, and `-E` takes it away again.
-/

namespace HostnameSandbox

namespace Utility.Echo

/-- Which of the options are in force. -/
structure Settings where
  unended : Bool
  escapes : Bool
deriving DecidableEq, Repr

/-- Whether a word consists of options. -/
def isOption : Bytes → Bool
  | 0x2D :: letters => !letters.isEmpty && letters.all (Bytes.ofString "neE").contains
  | _ => false

/-- The settings after the letters of an option. -/
def Settings.choose (settings : Settings) (letters : Bytes) : Settings :=
  letters.foldl
    (fun settings (letter : UInt8) =>
      if letter = 0x6E then { settings with unended := true }
      else { settings with escapes := letter = 0x65 })
    settings

/-- The byte that a letter behind a backslash stands for. -/
def letter? (byte : UInt8) : Option UInt8 :=
  let table : List (Char × UInt8) :=
    [('a', 0x07), ('b', 0x08), ('e', 0x1B), ('f', 0x0C), ('n', 0x0A), ('r', 0x0D), ('t', 0x09),
      ('v', 0x0B), ('\\', 0x5C)]
  (table.find? fun entry => Quoting.ascii entry.1 = byte).map Prod.snd

/-- A number in digits of a base, of which at most so many belong to it, as a byte. -/
def numbered (base limit : Nat) (text : Bytes) : Reading UInt8 :=
  let digits := (text.take limit).takeWhile (Numeral.isDigitOf base)
  ⟨UInt8.ofNat (Numeral.ofDigits base digits), text.drop digits.length⟩

/-- The text with its escapes written out, within so many steps; `false` tells that the output ends
there. -/
def unescaped : Nat → Bytes → Bytes × Bool
  | 0, _ | _, [] => ([], true)
  | _, [byte] => ([byte], true)
  | steps + 1, byte :: next :: rest =>
      let continued (written : Bytes) (rest : Bytes) : Bytes × Bool :=
        let (following, goesOn) := unescaped steps rest
        (written ++ following, goesOn)
      if byte ≠ 0x5C then continued [byte] (next :: rest)
      else
        match letter? next with
        | some written => continued [written] rest
        | none =>
            if next = 0x63 then ([], false)
            else if next = 0x78 && Numeral.beginsWith 16 rest then
              let ⟨written, rest⟩ := numbered 16 2 rest
              continued [written] rest
            else if next = 0x30 then
              let ⟨written, rest⟩ := numbered 8 3 rest
              continued [written] rest
            else if Numeral.isDigitOf 8 next then
              let ⟨written, rest⟩ := numbered 8 3 (next :: rest)
              continued [written] rest
            else continued [byte, next] rest

/-- The words as they are printed. -/
def shown (settings : Settings) (words : List Bytes) : Output :=
  let ending := if settings.unended then [] else [0x0A]
  if settings.escapes then
    let line := joined words
    let (written, goesOn) := unescaped line.length line
    Output.empty.addEach (written ++ if goesOn then ending else [])
  else (Output.ofPieces (words.intersperse [0x20])).add ending

/-- Prints its words. -/
def program : Program := fun start => do
  let options := start.args.takeWhile isOption
  let settings := options.foldl (fun settings word => settings.choose (word.drop 1)) ⟨false, false⟩
  finish start.name (shown settings (start.args.drop options.length)) 0 1

end Utility.Echo

end HostnameSandbox
