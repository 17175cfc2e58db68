/-!
# Plain text

A text as a terminal would show it: without control characters and without the sequences by
which a terminal is controlled.  Such a sequence begins with the escape character; the next
characters tell of which kind it is, and the kind tells where it ends.

White space in the middle of a sequence is shown, and so is the run of printed characters that
it begins.  In a text that is written out the run interrupts the sequence and does not end it:
the next control character takes the sequence up again where it stood, unless the run held a
character beyond ASCII.  In a text that is looked at as a whole the sequence ends there.
-/

namespace HostnameSandbox

namespace Plain

/-- Where a reader of a text is. -/
inductive Mode where
  /-- Outside of any sequence. -/
  | text
  /-- After an escape character. -/
  | escape
  /-- In an escape sequence that has gone on with a sign. -/
  | signs
  /-- In a control sequence, which ends with a letter or a similar sign. -/
  | control
  /-- In a command to the system, which ends with the bell. -/
  | command
  /-- At the head of a device control string. -/
  | deviceHead
  /-- Among the parameters at the head of a device control string. -/
  | deviceParameters
  /-- After the signs at the head of a device control string. -/
  | deviceSigns
  /-- In a control string, which ends with the terminator of strings. -/
  | controlString
deriving DecidableEq, Repr

/-- What white space in the middle of a sequence does to the sequence. -/
inductive Spacing where
  | interrupts
  | ends
deriving DecidableEq, Repr

/-- White space that is shown even in the middle of most sequences. -/
def isSpacing (char : Char) : Bool :=
  ['\t', '\n', '\x0c', '\r'].contains char

/-- Whether a character stands for itself outside of sequences. -/
def isPrinted (char : Char) : Bool :=
  isSpacing char || (' ' ≤ char && char != '\x7f')

/-- Whether the byte that ends control strings is one of the bytes of a character. -/
def holdsTerminator (char : Char) : Bool :=
  (String.utf8EncodeChar char).contains 0x9C

/-- What follows an escape character. -/
def afterEscape (char : Char) : Mode :=
  if ' ' ≤ char && char ≤ '/' then .signs
  else if char = '[' then .control
  else if char = ']' then .command
  else if char = 'P' then .deviceHead
  else if ['X', '^', '_'].contains char then .controlString
  else if '0' ≤ char && char ≤ '~' then .text
  else .escape

/-- What follows a character at the head of a device control string.  A private sign may stand
in front of the parameters only. -/
def afterDeviceHead (mode : Mode) (char : Char) : Mode :=
  if ' ' ≤ char && char ≤ '/' then .deviceSigns
  else if char = ':' || ('@' ≤ char && char ≤ '~') then .controlString
  else if '<' ≤ char && char ≤ '?' && mode = .deviceParameters then .controlString
  else if '0' ≤ char && char ≤ '?' then .deviceParameters
  else mode

/-- Reads one character outside of a run: the mode after it, and whether it is shown. -/
def read (mode : Mode) (char : Char) : Mode × Bool :=
  if char = '\x18' || char = '\x1a' then (.text, false)
  else if char = '\x1b' then (.escape, false)
  else
    match mode with
    | .text => (.text, isPrinted char)
    | .escape => if isSpacing char then (.escape, true) else (afterEscape char, false)
    | .signs =>
        if isSpacing char then (.signs, true)
        else (if '0' ≤ char && char ≤ '~' then .text else .signs, false)
    | .control =>
        if isSpacing char then (.control, true)
        else (if '@' ≤ char && char ≤ '~' then .text else .control, false)
    | .command => (if char = '\x07' then .text else .command, false)
    | .deviceHead | .deviceParameters => (afterDeviceHead mode char, false)
    | .deviceSigns =>
        (if '0' ≤ char && char ≤ '~' then .controlString else .deviceSigns, false)
    | .controlString => (if holdsTerminator char then .text else .controlString, false)

/-- Reads one character, which belongs to the run of shown characters before it if there is such
a run and the character is printed. -/
def step (isInRun : Bool) (mode : Mode) (char : Char) : Mode × Bool :=
  if isInRun && isPrinted char then (if char ≤ '\x7f' then mode else .text, true)
  else read mode char

/-- The characters that are shown of a text, read on in a mode after a character that was shown
or was not. -/
def shown (spacing : Spacing) : Bool → Mode → List Char → List Char
  | _, _, [] => []
  | isInRun, mode, char :: rest =>
      let (next, isShown) := step isInRun mode char
      if isShown then
        char :: shown spacing true (if spacing = .ends then .text else next) rest
      else shown spacing false next rest

end Plain

/-- A text without control characters and control sequences. -/
def plain (spacing : Plain.Spacing) (text : String) : String :=
  String.ofList (Plain.shown spacing false .text text.toList)

end HostnameSandbox
