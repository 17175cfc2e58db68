import HostnameSandbox.Host.Numeral.Layout
import HostnameSandbox.Host.Utility.Echo

/-!
# Printing by a format

`printf` writes its format out, and again as long as there are arguments left that it uses up.
Directives begin with a percent sign, escapes with a backslash.
-/

namespace HostnameSandbox

namespace Utility.Printf

/-- A complaint, and what is written in front of it and behind the one before. -/
structure Remark where
  before : Output
  message : Bytes

/-- How a format goes on being written. -/
structure Progress where
  /-- What is written behind the last complaint. -/
  written : Output
  args : List Bytes
  /-- What there is to complain about, in order. -/
  remarks : List Remark
  /-- Whether something was no number. -/
  failed : Bool
  /-- Whether something could not be laid out. -/
  spoilt : Bool

/-- The writing ends early: successfully, or with a last complaint. -/
structure Stop where
  written : Output
  remarks : List Remark
  code : UInt8
  spoilt : Bool

/-- A step of writing a format. -/
abbrev Writing (α : Type) := Progress → Except Stop (α × Progress)

namespace Progress

/-- The progress with a piece more written. -/
def write (progress : Progress) (piece : Bytes) : Progress :=
  { progress with written := progress.written.add piece }

/-- The progress with bytes more written, one by one. -/
def writeEach (progress : Progress) (bytes : Bytes) : Progress :=
  { progress with written := progress.written.addEach bytes }

/-- The progress with a complaint more. -/
def complain (progress : Progress) (message : Bytes) (failed : Bool) : Progress :=
  { progress with
    written := .empty, remarks := progress.remarks ++ [⟨progress.written, message⟩]
    failed := progress.failed || failed }

/-- The end of the writing with a last complaint. -/
def stop (progress : Progress) (message : Bytes) : Stop :=
  ⟨.empty, progress.remarks ++ [⟨progress.written, message⟩], 1, progress.spoilt⟩

/-- The next argument, which is empty if there is none. -/
def next (progress : Progress) : Bytes × Progress :=
  (progress.args.head?.getD [], { progress with args := progress.args.tail })

end Progress

/-- A number of base sixteen in capital letters, with at least so many digits. -/
def capitalHex (count number : Nat) : Bytes :=
  let digits := Layout.capitals (Layout.digits 16 number)
  List.replicate (count - digits.length) 0x30 ++ digits

/-- Whether a number may be named as a character. -/
def isNameable (number : Nat) : Bool :=
  (0x9F < number || number = 0x24 || number = 0x40 || number = 0x60) &&
    !(0xD800 ≤ number && number ≤ 0xDFFF)

/-- What is written for a character by its number: a byte if it is one of ASCII, and its name
otherwise. -/
def character (number : Nat) : Bytes :=
  if number < 0x80 then [UInt8.ofNat number]
  else if number < 0x10000 then Bytes.ofString "\\u" ++ capitalHex 4 number
  else Bytes.ofString "\\U" ++ capitalHex 8 number

/-- Writes an escape; `text` follows the backslash.  In an argument a zero may stand in front of
octal digits. -/
def escape (inArgument : Bool) (text : Bytes) (progress : Progress) :
    Except Stop (Bytes × Progress) :=
  let missing := Bytes.ofString "missing hexadecimal number in escape"
  match text with
  | [] => .ok ([], progress.write [0x5C])
  | byte :: rest =>
      if byte = 0x78 then
        if Numeral.beginsWith 16 rest then
          let ⟨written, rest⟩ := Echo.numbered 16 2 rest
          .ok (rest, progress.write [written])
        else .error (progress.stop missing)
      else if Numeral.isDigitOf 8 byte then
        let ⟨written, rest⟩ := Echo.numbered 8 3 (if inArgument && byte = 0x30 then rest else text)
        .ok (rest, progress.write [written])
      else if byte = 0x22 then .ok (rest, progress.write [byte])
      else if byte = 0x63 then .error ⟨progress.written, progress.remarks, 0, progress.spoilt⟩
      else
        match Echo.letter? byte with
        | some written => .ok (rest, progress.write [written])
        | none =>
            if byte = 0x75 || byte = 0x55 then
              let count := if byte = 0x75 then 4 else 8
              let digits := rest.take count
              if digits.length < count || !digits.all (Numeral.isDigitOf 16) then
                .error (progress.stop missing)
              else
                let number := Numeral.ofDigits 16 digits
                if isNameable number then
                  .ok (rest.drop count, progress.write (character number))
                else
                  .error (progress.stop (Bytes.ofString "invalid universal character name \\" ++
                    byte :: digits.map Numeral.lower))
            else .ok (rest, progress.writeEach [0x5C, byte])

/-- Writes an argument with its escapes, within so many steps. -/
def escapes : Nat → Bytes → Progress → Except Stop Progress
  | 0, _, progress | _, [], progress => .ok progress
  | steps + 1, text@(byte :: rest), progress =>
      if byte = 0x5C then do
        let (rest, progress) ← escape true rest progress
        escapes steps rest progress
      else
        let plain := text.takeWhile (· != 0x5C)
        escapes steps (text.drop plain.length) (progress.writeEach plain)

/-- Complains if an argument was not a number as a whole. -/
def verify (arg rest : Bytes) (isNumber outOfRange : Bool) (progress : Progress) : Progress :=
  let subject := Quoting.always arg
  if outOfRange then
    progress.complain (subject ++ Bytes.ofString ": Numerical result out of range") true
  else if rest.isEmpty then progress
  else if isNumber then
    progress.complain (subject ++ Bytes.ofString ": value not completely converted") true
  else progress.complain (subject ++ Bytes.ofString ": expected a numeric value") true

/-- The character whose code an argument stands for, and what follows it. -/
def constant? : Bytes → Option (UInt8 × Bytes)
  | mark :: byte :: rest => if mark = 0x22 || mark = 0x27 then some (byte, rest) else none
  | _ => none

/-- Complains about what follows the character of a constant. -/
def verifyConstant (rest : Bytes) (progress : Progress) : Progress :=
  if rest.isEmpty then progress
  else
    progress.complain (Bytes.ofString "warning: " ++ rest ++
      Bytes.ofString ": character(s) following character constant have been ignored") false

/-- The integer that an argument stands for. -/
def integer (arg : Bytes) (isTooLarge : Int → Bool) (progress : Progress) : Int × Progress :=
  match constant? arg with
  | some (byte, rest) => (byte.toNat, verifyConstant rest progress)
  | none =>
      match Numeral.integer? none arg with
      | none => (0, verify arg arg false false progress)
      | some ⟨value, rest⟩ => (value, verify arg rest true (isTooLarge value) progress)

/-- The signed integer that an argument stands for. -/
def signed (arg : Bytes) (progress : Progress) : Int × Progress :=
  let (value, progress) := integer arg (fun value => Numeral.clampSigned value != value) progress
  (Numeral.clampSigned value, progress)

/-- The unsigned integer that an argument stands for. -/
def unsigned (arg : Bytes) (progress : Progress) : Nat × Progress :=
  let (value, progress) :=
    integer arg (fun value => decide (Numeral.greatestUnsigned < value.natAbs)) progress
  (Numeral.wrapUnsigned value, progress)

/-- The floating-point number that an argument stands for. -/
def floating (arg : Bytes) (progress : Progress) : Floating × Progress :=
  match constant? arg with
  | some (byte, rest) =>
      ((Floating.ofQuotient .extended (.finite false byte.toNat 1)).value,
        verifyConstant rest progress)
  | none =>
      match Numeral.quotient? arg with
      | none => (.finite false 0 0, verify arg arg false false progress)
      | some ⟨value, rest⟩ =>
          let ⟨rounded, outOfRange⟩ := Floating.ofQuotient .extended value
          (rounded, verify arg rest true outOfRange progress)

/-- The flags of a directive. -/
def isFlag (byte : UInt8) : Bool := (Bytes.ofString "I'-+ #0").contains byte

/-- Letters that tell about the size of a number, which does not matter. -/
def isSize (byte : UInt8) : Bool := (Bytes.ofString "lLhjtz").contains byte

/-- The conversions that go with flags and a precision. -/
def isAllowed (flags : Bytes) (hasPrecision : Bool) (conversion : Char) : Bool :=
  let has (flag : Char) : Bool := flags.contains (Quoting.ascii flag)
  "aAcdeEfFgGiosuxX".toList.contains conversion &&
    !((has 'I' || has '\'') && "aAceEosxX".toList.contains conversion) &&
    !(has '#' && "cdisu".toList.contains conversion) &&
    !(has '0' && "cs".toList.contains conversion) &&
    !(hasPrecision && conversion = 'c')

/-- The greatest width. -/
def greatestWidth : Int := Int.pow 2 31 - 1

/-- A number in a directive: digits, or a star for the next argument. -/
def directiveNumber (what : String) (text : Bytes) (progress : Progress) :
    Except Stop (Option Int × Bytes × Progress) :=
  match text with
  | 0x2A :: rest =>
      if progress.args.isEmpty then .ok (some 0, rest, progress)
      else
        let (arg, progress) := progress.next
        let (value, progress) := signed arg progress
        if greatestWidth < value || (what = "field width" && value < -greatestWidth - 1) then
          .error (progress.stop (Bytes.ofString ("invalid " ++ what ++ ": ") ++ Quoting.always arg))
        else .ok (some value, rest, progress)
  | _ =>
      let digits := text.takeWhile Numeral.isDigit
      .ok (if digits.isEmpty then none else some (Numeral.ofDigits 10 digits),
        text.drop digits.length, progress)

/-- The style of a conversion to a floating-point number. -/
def style : Char → Layout.Style
  | 'e' | 'E' => .scientific
  | 'f' | 'F' => .fixed
  | 'g' | 'G' => .general
  | _ => .hexadecimal

/-- Writes an argument by a conversion. -/
def convert (layout : Layout) (conversion : Char) (arg : Bytes) (progress : Progress) : Progress :=
  match conversion with
  | 'd' | 'i' =>
      let (value, progress) := signed arg progress
      progress.write (layout.integer value)
  | 'u' | 'o' | 'x' | 'X' =>
      let (value, progress) := unsigned arg progress
      let base := if conversion = 'u' then 10 else if conversion = 'o' then 8 else 16
      let shown := layout.natural base value
      progress.write (if conversion = 'X' then Layout.capitals shown else shown)
  | 'c' => progress.write (layout.byte (arg.head?.getD 0))
  | 's' => progress.write (layout.text arg)
  | _ =>
      let (value, progress) := floating arg progress
      let shown := layout.floating .extended (style conversion) value
      progress.write (if conversion.isUpper then Layout.capitals shown else shown)

/-- Writes a directive; `text` follows the percent sign. -/
def directive (text : Bytes) (progress : Progress) : Except Stop (Bytes × Progress) := do
  let flags := text.takeWhile isFlag
  let (width, rest, progress) ← directiveNumber "field width" (text.drop flags.length) progress
  let (hasPrecision, precision, rest, progress) ← match rest with
    | 0x2E :: rest => do
        let (precision, rest, progress) ← directiveNumber "precision" rest progress
        .ok (true, some (precision.getD 0), rest, progress)
    | _ => .ok (false, none, rest, progress)
  let rest := rest.dropWhile isSize
  let conversion := rest.head?.map fun byte => Char.ofNat byte.toNat
  match conversion.filter (isAllowed flags hasPrecision) with
  | none =>
      let shown := text.take (text.length - rest.length + 1)
      .error (progress.stop (0x25 :: shown ++ Bytes.ofString ": invalid conversion specification"))
  | some conversion =>
      let has (flag : Char) : Bool := flags.contains (Quoting.ascii flag)
      let width := width.getD 0
      let places := precision.bind fun precision =>
        if precision < 0 then none else some precision.toNat
      let layout (width : Nat) (places : Option Nat) : Layout :=
        ⟨has '-', has '+', has ' ', has '#', has '0', width, places⟩
      let (arg, progress) := progress.next
      if greatestWidth < width.natAbs || places.any fun places => greatestWidth < places then
        let tried := convert (layout 0 none) conversion arg progress
        let written := if tried.remarks.length = progress.remarks.length then progress.written
          else .empty
        .ok (rest.tail, { tried with written, spoilt := true })
      else
        let layout := layout width.natAbs places
        .ok (rest.tail, convert { layout with left := layout.left || decide (width < 0) } conversion
          arg progress)

/-- Writes a format out once, within so many steps. -/
def once : Nat → Bytes → Progress → Except Stop Progress
  | 0, _, progress | _, [], progress => .ok progress
  | steps + 1, text@(byte :: rest), progress =>
      if byte = 0x5C then do
        let (rest, progress) ← escape false rest progress
        once steps rest progress
      else if byte ≠ 0x25 then
        let plain := text.takeWhile fun byte => byte != 0x5C && byte != 0x25
        once steps (text.drop plain.length) (progress.writeEach plain)
      else
        match rest with
        | 0x25 :: rest => once steps rest (progress.write [0x25])
        | 0x62 :: rest => do
            let (arg, progress) := progress.next
            let progress ← escapes arg.length arg progress
            once steps rest progress
        | 0x71 :: rest =>
            match progress.args with
            | [] => once steps rest progress
            | arg :: args =>
                once steps rest ({ progress with args }.write (Quoting.forShell arg))
        | _ => do
            let (rest, progress) ← directive rest progress
            once steps rest progress

/-- Writes a format out as often as its arguments ask for. -/
def passes (format : Bytes) : Nat → Progress → Except Stop Progress
  | 0, progress => .ok progress
  | count + 1, progress => do
      let passed ← once format.length format progress
      if passed.args.isEmpty then .ok passed
      else if passed.args.length = progress.args.length then
        .ok (passed.complain
          (Bytes.ofString "warning: ignoring excess arguments, starting with " ++
            Quoting.always (passed.args.head?.getD [])) false)
      else passes format count passed

/-- Writes a format with arguments: what is written, the complaints, and the exit code. -/
def run (format : Bytes) (args : List Bytes) : Stop :=
  match passes format (args.length + 1) ⟨.empty, args, [], false, false⟩ with
  | .error stop => stop
  | .ok progress =>
      ⟨progress.written, progress.remarks, if progress.failed then 1 else 0, progress.spoilt⟩

/-- What got lost of what was to be written. -/
structure Lost where
  output : Bool
  complaints : Bool

/-- Complains, each time behind what has been written before. -/
def remark (name : Bytes) : List Remark → Lost → Process Lost
  | [], lost => pure lost
  | first :: others, lost => do
      let refused ← flush first.before
      let isHeard ← note (complaint name first.message)
      remark name others ⟨lost.output || refused.isSome, lost.complaints || !isHeard⟩

/-- Prints by a format. -/
def program : Program := fun start => do
  let words := if start.args.head? = some (Bytes.ofString "--") then start.args.tail else start.args
  match words with
  | [] => refuse start.name (Bytes.ofString "missing operand") 1
  | format :: args =>
      let ended := run format args
      let lost ← remark start.name ended.remarks ⟨ended.spoilt, false⟩
      finishAfter start.name lost.output ended.written (if lost.complaints then 1 else ended.code) 1

end Utility.Printf

end HostnameSandbox
