import HostnameSandbox.Host.Numeral.Layout
import HostnameSandbox.Host.Utility.Basic

/-!
# Copying files

`cat` copies files, or its input, to its output.  Options have it number lines, drop repeated empty
lines, and show what would not be seen.
-/

namespace HostnameSandbox

namespace Utility.Cat

/-- How lines are changed on their way. -/
structure Settings where
  /-- Lines are numbered. -/
  numbers : Bool
  /-- Lines with something on them are numbered. -/
  numbersFilled : Bool
  /-- Of several empty lines one is kept. -/
  squeezes : Bool
  showsEnds : Bool
  showsTabs : Bool
  showsHidden : Bool
deriving DecidableEq, Repr

/-- The options of the program. -/
def options : Options where
  short := "benstuvAET".toList.map fun letter => (letter, .none)
  long := [("number-nonblank", .none, 'b'), ("number", .none, 'n'), ("squeeze-blank", .none, 's'),
    ("show-nonprinting", .none, 'v'), ("show-ends", .none, 'E'), ("show-tabs", .none, 'T'),
    ("show-all", .none, 'A'), ("help", .none, 'h'), ("version", .none, 'V')]
  ordered := false

/-- The settings that options ask for. -/
def Settings.ofOptions (parsed : Options.Parsed) : Settings where
  numbers := parsed.has 'n' && !parsed.has 'b'
  numbersFilled := parsed.has 'b'
  squeezes := parsed.has 's'
  showsEnds := parsed.has 'E' || parsed.has 'e' || parsed.has 'A'
  showsTabs := parsed.has 'T' || parsed.has 't' || parsed.has 'A'
  showsHidden := parsed.has 'v' || parsed.has 'e' || parsed.has 't' || parsed.has 'A'

/-- Whether files are copied as they are. -/
def Settings.isPlain (settings : Settings) : Bool :=
  settings = ⟨false, false, false, false, false, false⟩

/-- Where in the lines the copying is. -/
structure Position where
  /-- The number of the last numbered line. -/
  line : Nat
  /-- How many ends of lines have just been met; none inside a line. -/
  ends : Option Nat
  /-- Whether a carriage return is held back, since it is shown before the end of a line only. -/
  isHeld : Bool
deriving DecidableEq, Repr

/-- A byte below `0x80` as it is shown. -/
def shownLow (byte : UInt8) : Bytes :=
  if byte < 0x20 then [0x5E, byte + 0x40]
  else if byte = 0x7F then [0x5E, 0x3F]
  else [byte]

/-- A byte as it is shown. -/
def Settings.shown (settings : Settings) (byte : UInt8) : Bytes :=
  if byte = 0x09 then if settings.showsTabs then [0x5E, 0x49] else [byte]
  else if !settings.showsHidden then [byte]
  else if byte < 0x80 then shownLow byte
  else Bytes.ofString "M-" ++ shownLow (byte - 0x80)

/-- The number of a line, in front of it. -/
def numberText (line : Nat) : Bytes :=
  ({ Layout.plain with width := 6 }.integer line) ++ [0x09]

/-- The end of a line on its way. -/
def Settings.endLine (settings : Settings) (position : Position) : Bytes × Position :=
  let ends := match position.ends with
    | none => 0
    | some ends => ends + 1
  let kept : Position := ⟨position.line, some (min ends 2), false⟩
  if 2 ≤ ends && settings.squeezes then ([], kept)
  else
    let held := if position.isHeld then [0x5E, 0x4D] else []
    let mark := held ++ if settings.showsEnds then [0x24, 0x0A] else [0x0A]
    if 1 ≤ ends && settings.numbers then
      (numberText (position.line + 1) ++ mark, { kept with line := position.line + 1 })
    else (mark, kept)

/-- The beginning of what stands on a line. -/
def Settings.beginLine (settings : Settings) (position : Position) : Bytes × Position :=
  let held := if position.isHeld then [0x0D] else []
  if position.ends.isSome && (settings.numbers || settings.numbersFilled) then
    (held ++ numberText (position.line + 1), ⟨position.line + 1, none, false⟩)
  else (held, ⟨position.line, none, false⟩)

/-- Bytes on their way. -/
def Settings.convert (settings : Settings) : Position → Bytes → Bytes × Position
  | position, [] => ([], position)
  | position, byte :: rest =>
      let (written, next) :=
        if byte = 0x0A then settings.endLine position
        else
          let (front, next) := settings.beginLine position
          if byte = 0x0D && settings.showsEnds && !settings.showsHidden then
            (front, { next with isHeld := true })
          else (front ++ settings.shown byte, next)
      let (following, last) := settings.convert next rest
      (written ++ following, last)

/-- How a run of the program goes on. -/
structure Progress where
  code : UInt8
  position : Position
  /-- Whether the input was read that the program was started with. -/
  usedInput : Bool

/-- How much is read at a time. -/
def blockSize : Nat := 131072

/-- What came of copying one file. -/
inductive Copied where
  | whole (position : Position)
  | unreadable (errno : Errno)
  | unwritable (errno : Errno)

/-- Copies an open file, within so many blocks. -/
def copy (settings : Settings) (descriptor : Descriptor) : Nat → Position → Process Copied
  | 0, position => pure (.whole position)
  | blocks + 1, position => do
      match (← Process.ask (.read descriptor blockSize) : Except Errno Bytes) with
      | .error errno => pure (.unreadable errno)
      | .ok [] => pure (.whole position)
      | .ok bytes =>
          let (written, position) := if settings.isPlain then (bytes, position)
            else settings.convert position bytes
          match (← Process.ask (.write Descriptor.output written) : Except Errno Unit) with
          | .error errno => pure (.unwritable errno)
          | .ok () => copy settings descriptor blocks position

/-- The most blocks that are copied of one file. -/
def blockLimit : Nat := 1000000

/-- Whether something of a file would be copied onto the file itself. -/
def feedsItself (source target : OpenFacts) : Bool :=
  target.file.kind = .regular && source.file.place = target.file.place &&
    decide (source.offset < source.file.size)

/-- Whether a file has a place among the files. -/
def isPlaced (facts : OpenFacts) : Bool :=
  facts.file.kind = .regular && facts.file.place.head?.any fun name => !name.isEmpty

/-- Whether the system copies a file to another one itself, so that every failure is one of that
file. -/
def copiesDirectly (settings : Settings) (source target : OpenFacts) : Bool :=
  settings.isPlain && isPlaced source && isPlaced target && !target.appends

/-- Copies files one after the other.  `target` is what the program wrote to at first. -/
def copyAll (name : Bytes) (settings : Settings) (target : OpenFacts) :
    List Bytes → Progress → Process (Except UInt8 Progress)
  | [], progress => pure (.ok progress)
  | file :: files, progress => do
      let isInput := decide (file = Bytes.ofString "-")
      let opened : Except Errno Descriptor ←
        if isInput then pure (.ok Descriptor.input)
        else Process.ask (.openFile file .reading)
      let progress := { progress with usedInput := progress.usedInput || isInput }
      let shown := Quoting.fileName file
      match opened with
      | .error errno =>
          complain name (withErrno shown errno)
          copyAll name settings target files { progress with code := 1 }
      | .ok descriptor =>
          let close : Process Unit := do
            if !isInput then let _ ← Process.ask (.close descriptor)
          match (← Process.ask (.inspect descriptor) : Except Errno OpenFacts) with
          | .error errno =>
              complain name (withErrno shown errno)
              copyAll name settings target files { progress with code := 1 }
          | .ok source =>
              let target := (← Process.ask (.inspect Descriptor.output)).toOption.getD target
              if feedsItself source target then
                complain name (shown ++ Bytes.ofString ": input file is output file")
                close
                copyAll name settings target files { progress with code := 1 }
              else
                match ← copy settings descriptor blockLimit progress.position with
                | .whole position =>
                    close
                    copyAll name settings target files { progress with position }
                | .unreadable errno =>
                    complain name (withErrno shown errno)
                    close
                    copyAll name settings target files { progress with code := 1 }
                | .unwritable errno =>
                    if copiesDirectly settings source target then
                      complain name (withErrno shown errno)
                      close
                      copyAll name settings target files { progress with code := 1 }
                    else
                      complain name (withErrno (Bytes.ofString "write error") errno)
                      pure (.error 1)

/-- Copies files, or without any its input. -/
def program : Program := fun start => do
  match options.parse start.args with
  | .error fault => refuse start.name fault.message 1
  | .ok parsed =>
      match (← Process.ask (.inspect Descriptor.output) : Except Errno OpenFacts) with
      | .error errno =>
          complain start.name (withErrno (Bytes.ofString "standard output") errno)
          pure 1
      | .ok target =>
          let files := if parsed.operands.isEmpty then [Bytes.ofString "-"] else parsed.operands
          match ← copyAll start.name (.ofOptions parsed) target files ⟨0, ⟨0, some 0, false⟩, false⟩ with
          | .error code => pure code
          | .ok progress =>
              if progress.position.isHeld then
                Process.write Descriptor.output [0x0D]
              if progress.usedInput then
                match (← Process.ask (.close Descriptor.input) : Except Errno Unit) with
                | .ok () => pure progress.code
                | .error errno =>
                    complain start.name
                      (withErrno (Bytes.ofString "closing standard input") errno)
                    pure 1
              else pure progress.code

end Utility.Cat

end HostnameSandbox
