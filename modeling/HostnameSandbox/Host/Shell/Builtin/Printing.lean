import HostnameSandbox.Host.Numeral.Layout
import HostnameSandbox.Host.Shell.Builtin.Letters

/-!
# Printing by the shell

`echo` prints its words on one line, `printf` prints by a format that is used again until no words
are left.  Backslashes have a meaning in both.
-/

namespace HostnameSandbox

namespace Shell

namespace Printing

/-- The bytes that letters behind a backslash stand for. -/
def letters : List (Char × UInt8) :=
  [('\\', 0x5C), ('a', 0x07), ('b', 0x08), ('e', 0x1B), ('f', 0x0C), ('n', 0x0A), ('r', 0x0D),
    ('t', 0x09), ('v', 0x0B)]

/-- What an escape stands for, and what follows it; `text` follows the backslash. -/
def escape (text : Bytes) : UInt8 × Bytes :=
  match text with
  | [] => (0x5C, [])
  | byte :: rest =>
      let digits := (text.take 3).takeWhile (Numeral.isDigitOf 8)
      if !digits.isEmpty then
        (UInt8.ofNat (Numeral.ofDigits 8 digits), text.drop digits.length)
      else
        match letters.find? fun entry => UInt8.ofNat entry.1.toNat = byte with
        | some entry => (entry.2, rest)
        | none => (0x5C, text)

/-- A text with its escapes written out, within so many steps; `false` tells that all output ends
there. -/
def unescapedWithin : Nat → Bytes → Bytes × Bool
  | 0, _ | _, [] => ([], true)
  | count + 1, 0x5C :: rest =>
      match rest with
      | 0x63 :: _ => ([], false)
      | _ =>
          let escaped := match rest with
            | 0x30 :: digit :: _ => if Numeral.isDigitOf 8 digit then rest.tail else rest
            | _ => rest
          let (byte, rest) := escape escaped
          let (following, goesOn) := unescapedWithin count rest
          (byte :: following, goesOn)
  | count + 1, byte :: rest =>
      let (following, goesOn) := unescapedWithin count rest
      (byte :: following, goesOn)

/-- A text with its escapes written out. -/
def unescaped (text : Bytes) : Bytes × Bool := unescapedWithin text.length text

/-- The words of a line in front of its end. -/
def line (ending : Bytes) : List Bytes → Bytes
  | [] => ending
  | word :: rest =>
      let (text, goesOn) := unescaped word
      if !goesOn then text
      else text ++ (if rest.isEmpty then ending else 0x20 :: line ending rest)

/-- Prints its words. -/
def echo (args : List Bytes) : Doing Nat := do
  match args with
  | [0x2D, 0x6E] :: rest => print (line [] rest)
  | _ => print (line [0x0A] args)
  return 0

/-- How a format goes on being printed: the words that are left, and the status. -/
structure Progress where
  args : List Bytes
  status : Nat

/-- A step of printing a format. -/
abbrev Step := StateT Progress Doing

/-- The next word, if there is one. -/
def next : Step (Option Bytes) :=
  modifyGet fun progress => (progress.args.head?, { progress with args := progress.args.tail })

/-- Complains if a word was not a number as a whole. -/
def verify (arg rest : Bytes) (isNumber isOutside : Bool) : Step Unit := do
  let complaint := if !rest.isEmpty || !isNumber then
      if arg.isEmpty then none
      else some (if isNumber then "not completely converted" else "expected numeric value")
    else if isOutside then some "Numerical result out of range"
    else none
  match complaint with
  | none => pure ()
  | some text => do
      warn (arg ++ Bytes.ofString (": " ++ text))
      modify fun progress => { progress with status := 1 }

/-- The character whose code a word stands for. -/
def constant? : Bytes → Option UInt8
  | mark :: rest => if mark = 0x22 || mark = 0x27 then some (rest.head?.getD 0) else none
  | [] => none

/-- The integer that the next word stands for, fitted by `fit`. -/
def integerArg (fit : Int → Int) (isOutside : Int → Bool) : Step Int := do
  match ← next with
  | none => return 0
  | some arg =>
      match constant? arg with
      | some byte => return byte.toNat
      | none =>
          match Numeral.integer? none arg with
          | none => do
              verify arg arg false false
              return 0
          | some ⟨value, rest⟩ => do
              verify arg rest true (isOutside value)
              return fit value

/-- The signed integer that the next word stands for. -/
def signedArg : Step Int :=
  integerArg Numeral.clampSigned fun value => Numeral.clampSigned value != value

/-- The unsigned integer that the next word stands for. -/
def unsignedArg : Step Nat := do
  let value ← integerArg (fun value => Numeral.wrapUnsigned value)
    fun value => decide (Numeral.greatestUnsigned < value.natAbs)
  return value.toNat

/-- The floating-point number that the next word stands for. -/
def floatingArg : Step Floating := do
  let ofNat (number : Nat) : Floating :=
    (Floating.ofQuotient .double (.finite false number 1)).value
  match ← next with
  | none => return ofNat 0
  | some arg =>
      match constant? arg with
      | some byte => return ofNat byte.toNat
      | none =>
          match Numeral.quotient? arg with
          | none => do
              verify arg arg false false
              return ofNat 0
          | some ⟨quotient, rest⟩ => do
              let rounded := Floating.ofQuotient .double quotient
              verify arg rest true rounded.outOfRange
              return rounded.value

/-- A number in a directive, which may be the next word taken as one of thirty-two bits, and what
follows it. -/
def directiveNumber : Bytes → Step (Option Int × Bytes)
  | 0x2A :: rest => do return (some (Int.bmod (← signedArg) (Nat.pow 2 32)), rest)
  | text =>
      let digits := text.takeWhile Numeral.isDigit
      return (if digits.isEmpty then none else some (Numeral.ofDigits 10 digits),
        text.drop digits.length)

/-- The style of a floating-point conversion. -/
def style : Char → Layout.Style
  | 'f' | 'F' => .fixed
  | 'e' | 'E' => .scientific
  | 'g' | 'G' => .general
  | _ => .hexadecimal

/-- The greatest number that a layout may have. -/
def greatestWidth : Nat := Nat.pow 2 31 - 1

/-- The layout that the flags and numbers of a directive ask for, if there is such a layout. -/
def layout? (flags : Bytes) (width precision : Option Int) : Option Layout :=
  let has (flag : Char) : Bool := flags.contains (UInt8.ofNat flag.toNat)
  let width := width.getD 0
  let places := precision.bind fun precision =>
    if precision < 0 then none else some precision.toNat
  if greatestWidth < width.natAbs || places.any (greatestWidth < ·) then none
  else some ⟨has '-' || decide (width < 0), has '+', has ' ', has '#', has '0', width.natAbs, places⟩

/-- Prints what is shown in a layout, if there is one. -/
def printIn (layout : Option Layout) (shown : Layout → Bytes) : Step Unit :=
  match layout with
  | some layout => print (shown layout)
  | none => failText "xvsnprintf failed"

/-- Prints the next word by a directive; `false` tells that all output ends there. -/
def convert (layout : Option Layout) (conversion : Char) (directive : Bytes) : Step Bool := do
  let put (shown : Layout → Bytes) : Step Bool := do
    printIn layout fun layout =>
      if conversion.isUpper then Layout.capitals (shown layout) else shown layout
    return true
  match conversion with
  | 'b' => do
      let (text, goesOn) := unescaped ((← next).getD [])
      printIn layout fun layout => layout.text text
      return goesOn
  | 'c' => do
      let byte := ((← next).bind List.head?).getD 0
      put fun layout => layout.byte byte
  | 's' => do
      let text := (← next).getD []
      put fun layout => layout.text text
  | 'd' | 'i' => do
      let value ← signedArg
      put fun layout => layout.integer value
  | 'o' => do
      let value ← unsignedArg
      put fun layout => layout.natural 8 value
  | 'u' => do
      let value ← unsignedArg
      put fun layout => layout.natural 10 value
  | 'x' | 'X' => do
      let value ← unsignedArg
      put fun layout => layout.natural 16 value
  | _ =>
      if (['a', 'A', 'e', 'E', 'f', 'F', 'g', 'G'] : List Char).contains conversion then
        let value ← floatingArg
        put fun layout => layout.floating .double (style conversion) value
      else failAbout directive "invalid directive"

/-- Prints a format once, within so many steps; `false` tells that all output ends there. -/
def onceWithin : Nat → Bytes → Step Bool
  | 0, _ | _, [] => return true
  | count + 1, 0x5C :: rest => do
      let (byte, rest) := escape rest
      print [byte]
      onceWithin count rest
  | count + 1, 0x25 :: 0x25 :: rest => do
      print [0x25]
      onceWithin count rest
  | count + 1, text@(0x25 :: rest) => do
      let flags := rest.takeWhile (Bytes.ofString "#-+ 0").contains
      let (width, after) ← directiveNumber (rest.drop flags.length)
      let (precision, after) ← match after with
        | 0x2E :: after => do
            let (precision, after) ← directiveNumber after
            pure (some (precision.getD 0), after)
        | _ => pure (none, after)
      match after with
      | [] => failText "missing format character"
      | byte :: following =>
          let directive := text.take (text.length - following.length)
          if ← convert (layout? flags width precision) (Char.ofNat byte.toNat) directive then onceWithin count following
          else return false
  | count + 1, text => do
      let plain := text.takeWhile fun byte => byte != 0x5C && byte != 0x25
      print plain
      onceWithin count (text.drop plain.length)

/-- Prints a format as often as its words ask for, at most so often. -/
def passes (format : Bytes) : Nat → Step Unit
  | 0 => pure ()
  | count + 1 => do
      let before := (← get).args.length
      let goesOn ← onceWithin (format.length + 1) format
      let after := (← get).args.length
      if goesOn && 0 < after && after < before then passes format count

/-- Prints by a format. -/
def printf (args : List Bytes) : Doing Nat := do
  match ← Letters.operands args with
  | [] => failText "usage: printf format [arg ...]"
  | format :: args => do
      let (_, progress) ← (passes format (args.length + 1)).run ⟨args, 0⟩
      return progress.status

end Printing

end Shell

end HostnameSandbox
