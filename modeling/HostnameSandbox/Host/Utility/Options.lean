import HostnameSandbox.Text.Bytes

/-!
# Options of a command

Options come as single letters behind one hyphen, several of them together if need be, or as words
behind two.  A word may be cut short as long as it stays clear which one is meant.  Two hyphens
alone end the options.
-/

namespace HostnameSandbox

/-- Whether something stands behind an option. -/
inductive Operand where
  | none
  | required
  /-- Only behind an equals sign, or not at all. -/
  | optional
deriving DecidableEq, Repr

/-- The options that a command knows; a long one stands for a letter. -/
structure Options where
  short : List (Char × Operand)
  long : List (String × Operand × Char)
  /-- Whether the first word that is no option ends the options. -/
  ordered : Bool
  /-- The options that end the options. -/
  final : List Char := []

namespace Options

/-- A command line in its parts: the options with what stands behind them, and the other words. -/
structure Parsed where
  chosen : List (Char × Option Bytes)
  operands : List Bytes

/-- What is wrong with an option, and the options before it. -/
structure Fault where
  before : List (Char × Option Bytes)
  message : Bytes

/-- The letter that a byte stands for. -/
def letter (byte : UInt8) : Char := Char.ofNat byte.toNat

/-- The byte between the name of a long option and what stands behind it. -/
def equals : UInt8 := 0x3D

/-- The long options that a word may stand for: the one that it spells, or all that begin so. -/
def candidates (options : Options) (name : Bytes) : List (String × Operand × Char) :=
  match options.long.find? fun entry => Bytes.ofString entry.1 = name with
  | some entry => [entry]
  | none => options.long.filter fun entry => name.isPrefixOf (Bytes.ofString entry.1)

/-- Whether several long options mean the same. -/
def agree : List (String × Operand × Char) → Bool
  | [] => false
  | first :: rest => rest.all fun other => other.2 = first.2

/-- What is read off one word, with the words behind it. -/
abbrev Taken := Except Bytes (List (Char × Option Bytes) × List Bytes)

/-- Reads a long option. -/
def takeLong (options : Options) (word : Bytes) (rest : List Bytes) : Taken :=
  let name := word.takeWhile (· != equals)
  let value := if name.length < word.length then some (word.drop (name.length + 1)) else none
  let quoted (text : Bytes) : Bytes := Bytes.ofString "'--" ++ text ++ Bytes.ofString "'"
  let found := options.candidates name
  match found with
  | [] => .error (Bytes.ofString "unrecognized option " ++ quoted word)
  | (full, operand, short) :: _ =>
      if !agree found then
        .error (Bytes.ofString "option " ++ quoted word ++
          Bytes.ofString " is ambiguous; possibilities:" ++
          found.flatMap fun entry => 0x20 :: quoted (Bytes.ofString entry.1))
      else
        let named := quoted (Bytes.ofString full)
        match operand, value, rest with
        | .none, some _, _ =>
            .error (Bytes.ofString "option " ++ named ++
              Bytes.ofString " doesn't allow an argument")
        | .none, none, _ | .optional, none, _ => .ok ([(short, none)], rest)
        | .required, some value, _ | .optional, some value, _ => .ok ([(short, some value)], rest)
        | .required, none, next :: rest => .ok ([(short, some next)], rest)
        | .required, none, [] =>
            .error (Bytes.ofString "option " ++ named ++ Bytes.ofString " requires an argument")

/-- Reads the letters of a word; `rest` are the words behind it. -/
def takeShort (options : Options) (rest : List Bytes) :
    Bytes → List (Char × Option Bytes) → Except Fault (List (Char × Option Bytes) × List Bytes)
  | [], chosen => .ok (chosen, rest)
  | byte :: more, chosen =>
      match options.short.find? fun entry => entry.1 = letter byte with
      | none => .error ⟨chosen, Bytes.ofString "invalid option -- '" ++ [byte, 0x27]⟩
      | some (short, operand) =>
          match operand, more, rest with
          | .none, _, _ => takeShort options rest more (chosen ++ [(short, none)])
          | .optional, [], _ => .ok (chosen ++ [(short, none)], rest)
          | .optional, _ :: _, _ | .required, _ :: _, _ =>
              .ok (chosen ++ [(short, some more)], rest)
          | .required, [], next :: rest => .ok (chosen ++ [(short, some next)], rest)
          | .required, [], [] =>
              .error ⟨chosen, Bytes.ofString "option requires an argument -- '" ++ [byte, 0x27]⟩

/-- Whether the last option that was read ends the options. -/
def ends (options : Options) (chosen : List (Char × Option Bytes)) : Bool :=
  chosen.getLast?.any fun entry => options.final.contains entry.1

/-- Reads a command line, within so many words. -/
def parseWithin (options : Options) : Nat → List Bytes → Parsed → Except Fault Parsed
  | 0, _, parsed | _, [], parsed => .ok parsed
  | count + 1, word :: rest, parsed =>
      match word with
      | [0x2D, 0x2D] => .ok { parsed with operands := parsed.operands ++ rest }
      | 0x2D :: 0x2D :: long =>
          match options.takeLong long rest with
          | .ok (taken, rest) =>
              let chosen := parsed.chosen ++ taken
              if options.ends chosen then .ok ⟨chosen, parsed.operands ++ rest⟩
              else parseWithin options count rest { parsed with chosen }
          | .error message => .error ⟨parsed.chosen, message⟩
      | 0x2D :: byte :: more =>
          match options.takeShort rest (byte :: more) parsed.chosen with
          | .ok (chosen, rest) =>
              if options.ends chosen then .ok ⟨chosen, parsed.operands ++ rest⟩
              else parseWithin options count rest { parsed with chosen }
          | .error fault => .error fault
      | _ =>
          if options.ordered then .ok { parsed with operands := word :: rest }
          else parseWithin options count rest { parsed with operands := parsed.operands ++ [word] }

/-- Reads a command line. -/
def parse (options : Options) (words : List Bytes) : Except Fault Parsed :=
  options.parseWithin words.length words ⟨[], []⟩

/-- Whether an option was given. -/
def Parsed.has (parsed : Parsed) (short : Char) : Bool :=
  parsed.chosen.any fun entry => entry.1 = short

end Options

end HostnameSandbox
