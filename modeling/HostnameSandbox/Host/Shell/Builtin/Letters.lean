import HostnameSandbox.Host.Shell.State

/-!
# Options of the shell's own commands

Options are single letters behind a hyphen, some of them with a word.  They end with the first word
that is none of them, or with two hyphens.
-/

namespace HostnameSandbox

namespace Shell

namespace Letters

/-- The options of a command line with their words, and the other words. -/
structure Parsed where
  chosen : List (Char × Bytes)
  operands : List Bytes

/-- Whether an option was given. -/
def Parsed.has (parsed : Parsed) (letter : Char) : Bool :=
  parsed.chosen.any fun entry => entry.1 = letter

/-- The options that a command knows, and whether a word belongs to them. -/
abbrev Known := List (Char × Bool)

/-- The letters of a word, and the words behind it. -/
def readLetters (known : Known) (rest : List Bytes) :
    Bytes → List (Char × Bytes) → Doing (List (Char × Bytes) × List Bytes)
  | [], chosen => return (chosen, rest)
  | byte :: more, chosen => do
      match known.find? fun entry => UInt8.ofNat entry.1.toNat = byte with
      | none => fail (Bytes.ofString "Illegal option -" ++ [byte])
      | some (letter, false) => readLetters known rest more (chosen ++ [(letter, [])])
      | some (letter, true) =>
          match more, rest with
          | [], [] =>
              fail (Bytes.ofString "No arg for -" ++ [byte] ++ Bytes.ofString " option")
          | [], word :: rest => return (chosen ++ [(letter, word)], rest)
          | _, _ => return (chosen ++ [(letter, more)], rest)

/-- Reads the options of a command line, within so many words. -/
def parseWithin (known : Known) : Nat → List (Char × Bytes) → List Bytes → Doing Parsed
  | 0, chosen, words => return ⟨chosen, words⟩
  | count + 1, chosen, words => do
      match words with
      | [0x2D, 0x2D] :: rest => return ⟨chosen, rest⟩
      | (0x2D :: byte :: more) :: rest => do
          let (chosen, rest) ← readLetters known rest (byte :: more) chosen
          parseWithin known count chosen rest
      | _ => return ⟨chosen, words⟩

/-- Reads the options of a command line. -/
def parse (known : Known) (words : List Bytes) : Doing Parsed :=
  parseWithin known words.length [] words

/-- The words of a command line without options. -/
def operands (words : List Bytes) : Doing (List Bytes) := do
  return (← parse [] words).operands

end Letters

end Shell

end HostnameSandbox
