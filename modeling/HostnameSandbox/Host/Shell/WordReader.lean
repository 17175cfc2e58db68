import HostnameSandbox.Host.Shell.Reader

/-!
# Reading words

A word ends at a blank or an operator that is neither quoted nor inside an expansion.  Quotes,
expansions and expressions may be nested; what is open is kept on a stack.  Commands inside a word are
read by a reading that is given.
-/

namespace HostnameSandbox

namespace Shell

namespace WordReader

/-- By which rules bytes are read. -/
inductive Rules where
  | base
  | double
  | single
  | arithmetic
deriving DecidableEq, Repr

/-- The rules in force and what is open by them. -/
structure Frame where
  rules : Rules
  /-- Whether one is between double quotes. -/
  isDouble : Bool
  /-- Whether one is between double quotes inside an expansion. -/
  innerDouble : Bool
  /-- How many expansions are open. -/
  expansions : Nat
  /-- How many of them began between double quotes. -/
  doubleExpansions : Nat
  /-- How many parentheses are open. -/
  parentheses : Nat
  /-- Whether the rules hold for one expansion only. -/
  forExpansion : Bool

/-- The rules alone. -/
def Frame.ofRules (rules : Rules) (isDouble forExpansion : Bool) : Frame where
  rules := rules
  isDouble := isDouble
  innerDouble := false
  expansions := 0
  doubleExpansions := 0
  parentheses := 0
  forExpansion := forExpansion

/-- An expansion that has begun, with the parts before it. -/
inductive Opened where
  | parameter (parameter : Parameter) (before : List Part)
  | arithmetic (before : List Part)

/-- A word that is being read.  Its parts are kept in reverse. -/
structure Draft where
  parts : List Part
  opened : List Opened
  frame : Frame
  outer : List Frame
  quoted : Bool

namespace Draft

/-- The draft of nothing. -/
def ofRules (rules : Rules) : Draft where
  parts := []
  opened := []
  frame := .ofRules rules (rules = .double) false
  outer := []
  quoted := false

/-- The draft with a part more. -/
def add (draft : Draft) (part : Part) : Draft := { draft with parts := part :: draft.parts }

/-- The draft with other rules for what follows. -/
def enter (draft : Draft) (frame : Frame) : Draft :=
  { draft with frame, outer := draft.frame :: draft.outer }

/-- The draft with the rules that were in force before. -/
def leave (draft : Draft) : Draft :=
  match draft.outer with
  | frame :: outer => { draft with frame, outer }
  | [] => draft

/-- The draft with the expansion closed that was opened last. -/
def close (draft : Draft) : Draft :=
  match draft.opened with
  | .parameter parameter before :: opened =>
      { draft with opened, parts := .parameter parameter draft.parts.reverse :: before }
  | .arithmetic before :: opened =>
      { draft with opened, parts := .arithmetic draft.parts.reverse :: before }
  | [] => draft

/-- Whether nothing has been read. -/
def isEmpty (draft : Draft) : Bool := draft.parts.isEmpty

end Draft

/-- What a word is read for. -/
inductive Purpose where
  /-- A word of a command. -/
  | command
  /-- The word that ends a document. -/
  | ending
  /-- The text of a document. -/
  | document (ending : Bytes) (stripsTabs : Bool)
  /-- A text that is expanded like a document. -/
  | text

namespace Purpose

/-- Whether the text of a document is read, or one like it. -/
def isDocument : Purpose → Bool
  | .document _ _ | .text => true
  | _ => false

/-- Whether the word that ends a document is read. -/
def isEnding : Purpose → Bool
  | .ending => true
  | _ => false

end Purpose

/-- What a byte means by the rules. -/
inductive Meaning where
  | endOfText
  | endOfLine
  | backslash
  | singleQuote
  | doubleQuote
  | endQuote
  | backquote
  | dollar
  | endExpansion
  | openParenthesis
  | closeParenthesis
  /-- Ends a word. -/
  | delimiter
  | ordinary
deriving DecidableEq

/-- The bytes that end a word. -/
def isDelimiter (byte : UInt8) : Bool := (Bytes.ofString "<>();&| \t").contains byte

/-- What a byte means by the rules. -/
def meaning (rules : Rules) : Option UInt8 → Meaning
  | none => .endOfText
  | some byte =>
      if byte = 0x0A then .endOfLine
      else
        match rules with
        | .single => if byte = 0x27 then .endQuote else .ordinary
        | .base =>
            if byte = 0x5C then .backslash
            else if byte = 0x27 then .singleQuote
            else if byte = 0x22 then .doubleQuote
            else if byte = 0x60 then .backquote
            else if byte = 0x24 then .dollar
            else if byte = 0x7D then .endExpansion
            else if isDelimiter byte then .delimiter
            else .ordinary
        | .double =>
            if byte = 0x5C then .backslash
            else if byte = 0x22 then .endQuote
            else if byte = 0x60 then .backquote
            else if byte = 0x24 then .dollar
            else if byte = 0x7D then .endExpansion
            else .ordinary
        | .arithmetic =>
            if byte = 0x5C then .backslash
            else if byte = 0x60 then .backquote
            else if byte = 0x24 then .dollar
            else if byte = 0x7D then .endExpansion
            else if byte = 0x28 then .openParenthesis
            else if byte = 0x29 then .closeParenthesis
            else .ordinary

/-- Adds a mark, unless the text of a document is read. -/
def addMark (purpose : Purpose) (draft : Draft) : Draft :=
  if purpose.isDocument then draft else draft.add .mark

/-- Adds a mark for a double quote, which may be one inside an expansion. -/
def addDoubleMark (purpose : Purpose) (draft : Draft) : Draft :=
  addMark purpose (if draft.frame.expansions = 0 then draft
    else { draft with frame := { draft.frame with innerDouble := !draft.frame.innerDouble } })

/-- An ordinary byte. -/
def addOrdinary (draft : Draft) (byte : UInt8) : Draft :=
  draft.add (if draft.frame.rules = .double || draft.frame.rules = .single then .escaped byte
    else .plain byte)

/-- What follows a backslash. -/
def readBackslash (purpose : Purpose) (draft : Draft) : Scan Draft := do
  match ← Scan.peek with
  | none => return draft.add (.escaped 0x5C)
  | some byte =>
      let _ ← Scan.next
      let frame := draft.frame
      let keepsBackslash := frame.isDouble && byte ≠ 0x5C && byte ≠ 0x60 && byte ≠ 0x24 &&
        (byte ≠ 0x22 || (purpose.isDocument && frame.expansions = 0)) &&
        (byte ≠ 0x7D || frame.expansions = 0)
      let draft := if keepsBackslash then draft.add (.escaped 0x5C) else draft
      return { draft.add (.escaped byte) with quoted := true }

/-- The end of quotes. -/
def endQuote (purpose : Purpose) (draft : Draft) (byte : UInt8) : Draft :=
  if purpose.isDocument && draft.frame.expansions = 0 then addOrdinary draft byte
  else
    let frame := if draft.frame.doubleExpansions = 0 then
      { draft.frame with rules := .base, isDouble := false } else draft.frame
    let draft := { draft with frame, quoted := true }
    if byte = 0x22 then addDoubleMark purpose draft else addMark purpose draft

/-- A closing brace. -/
def endExpansion (draft : Draft) : Draft :=
  let frame := draft.frame
  if frame.innerDouble || frame.expansions = 0 then addOrdinary draft 0x7D
  else
    let frame := { frame with expansions := frame.expansions - 1 }
    let draft := { draft with frame }.close
    if frame.expansions = 0 && frame.forExpansion then draft.leave
    else { draft with frame := { frame with doubleExpansions := frame.doubleExpansions - 1 } }

/-- A closing parenthesis in an expression. -/
def closeParenthesis (draft : Draft) : Scan Draft := do
  let frame := draft.frame
  if 0 < frame.parentheses then
    return { draft with frame := { frame with parentheses := frame.parentheses - 1 } }.add
      (.plain 0x29)
  else
    match ← Scan.peekJoined with
    | some 0x29 =>
        let _ ← Scan.next
        return draft.close.leave
    | _ => return draft.add (.plain 0x29)

/-- The names of parameters that are no names. -/
def isSpecial (byte : UInt8) : Bool := (Bytes.ofString "!#$*-?@").contains byte || isDigit byte

/-- Bytes of a kind after joined lines, at most so many; the next one stays there. -/
def takeWhile (keeps : UInt8 → Bool) : Nat → Bytes → Scan Bytes
  | 0, taken => return taken.reverse
  | count + 1, taken => do
      match ← Scan.peekJoined with
      | some byte =>
          if keeps byte then
            let _ ← Scan.next
            takeWhile keeps count (byte :: taken)
          else return taken.reverse
      | none => return taken.reverse

/-- The treatment that a byte announces behind a parameter. -/
def treatment? : Option UInt8 → Option Treatment
  | some 0x7D => some .value
  | some 0x2D => some .otherwise
  | some 0x2B => some .instead
  | some 0x3F => some .demanded
  | some 0x3D => some .assigned
  | _ => none

/-- The treatment behind the name of a parameter in braces. -/
def readTreatment : Scan (Treatment × Bool) := do
  match ← Scan.peekJoined with
  | some 0x3A =>
      let _ ← Scan.next
      match treatment? (← Scan.nextJoined) with
      | some treatment => return (treatment, true)
      | none => return (.malformed, true)
  | some byte =>
      let _ ← Scan.next
      if byte = 0x25 || byte = 0x23 then
        let longest := (← Scan.peekJoined) = some byte
        if longest then let _ ← Scan.next
        return (if byte = 0x25 then .withoutEnd longest else .withoutBeginning longest, false)
      else return ((treatment? (some byte)).getD .malformed, false)
  | none => return (.malformed, false)

/-- Whether a byte is a letter, a digit or an underscore. -/
def isNameOption (byte : Option UInt8) : Bool := byte.any isNameByte

/-- A name, or the number of an argument. -/
def readName : Scan Bytes := do
  match ← Scan.peekJoined with
  | some byte =>
      if isNameStart byte then takeWhile isNameByte Scan.limit []
      else takeWhile isDigit Scan.limit []
  | none => return []

/-- A parameter in braces; the opening brace has been read.  Unless its treatment is its plain value,
a word and a closing brace follow. -/
def readBraced : Scan Parameter := do
  let first ← Scan.peekJoined
  if isNameOption first then
    let name ← readName
    let (treatment, empty) ← readTreatment
    return ⟨name, treatment, empty⟩
  else
    match first with
    | some 0x7D | none => return ⟨[], .malformed, false⟩
    | some byte =>
        let _ ← Scan.next
        if byte ≠ 0x23 then
          if isSpecial byte then
            let (treatment, empty) ← readTreatment
            return ⟨[byte], treatment, empty⟩
          else return ⟨[], .malformed, false⟩
        else
          let second ← Scan.peekJoined
          if isNameOption second then
            let name ← readName
            let ended := (← Scan.peekJoined) = some 0x7D
            return ⟨name, if ended then .length else .malformed, false⟩
          else
            match second with
            | some 0x7D | none =>
                let (treatment, empty) ← readTreatment
                return ⟨[0x23], treatment, empty⟩
            | some special =>
                let reader ← get
                let _ ← Scan.next
                let ended := (← Scan.peekJoined) = some 0x7D
                if ended then
                  return ⟨[special], if isSpecial special then .length else .malformed, false⟩
                else
                  set reader
                  let (treatment, empty) ← readTreatment
                  return ⟨[0x23], treatment, empty⟩

/-- Begins an expansion with a word. -/
def openExpansion (draft : Draft) (parameter : Parameter) : Draft :=
  let trims := match parameter.treatment with
    | .withoutEnd _ | .withoutBeginning _ => true
    | _ => false
  let rules := if trims then .base
    else if draft.frame.rules = .arithmetic then .double else draft.frame.rules
  let entered := if rules ≠ draft.frame.rules || draft.frame.innerDouble then
    draft.enter (.ofRules rules (rules ≠ .base) true) else draft
  let frame := entered.frame
  { entered with
    parts := []
    opened := .parameter parameter draft.parts :: draft.opened
    frame := { frame with
      expansions := frame.expansions + 1
      doubleExpansions := frame.doubleExpansions + if frame.isDouble then 1 else 0 } }

/-- The text between backquotes; the first one has been read.  `isDouble` tells whether a backslash
takes away the meaning of double quotes too. -/
def readBackquoted (isDouble : Bool) : Nat → Bytes → Scan Bytes
  | 0, _ => throw .unendedBackquotes
  | count + 1, taken => do
      match ← Scan.nextJoined with
      | none => throw .unendedBackquotes
      | some 0x60 => return taken.reverse
      | some 0x5C =>
          match ← Scan.next with
          | none => throw .unendedBackquotes
          | some byte =>
              let drops := byte = 0x5C || byte = 0x60 || byte = 0x24 || (isDouble && byte = 0x22)
              readBackquoted isDouble count (byte :: if drops then taken else 0x5C :: taken)
      | some 0x0A =>
          Scan.endLine
          readBackquoted isDouble count (0x0A :: taken)
      | some byte => readBackquoted isDouble count (byte :: taken)

/-- How commands inside words are read. -/
structure Inner where
  /-- Commands up to the end of the text, or to something that cannot belong to them. -/
  commands : Scan Code
  /-- Commands up to a closing parenthesis, which is read too. -/
  parenthesized : Scan Code

/-- Reads what stands between backquotes, as commands of their own. -/
def readBackquotes (inner : Inner) (draft : Draft) : Scan Draft := do
  let text ← readBackquoted draft.frame.isDouble Scan.limit []
  let outside ← get
  set { outside with text, pushed := [], announced := [], line := 1 }
  let code ← inner.commands
  let inside ← get
  set { inside with
    text := outside.text, pushed := outside.pushed, sawEnd := outside.sawEnd, returned := none,
    announced := outside.announced, line := outside.line, lacksEnding := outside.lacksEnding }
  return draft.add (.command code)

/-- Reads commands in parentheses. -/
def readParenthesized (inner : Inner) (draft : Draft) : Scan Draft := do
  let outside ← get
  set { outside with announced := [] }
  let code ← inner.parenthesized
  modify fun inside => { inside with announced := outside.announced }
  return draft.add (.command code)

/-- What follows a dollar sign. -/
def readDollar (inner : Inner) (purpose : Purpose) (draft : Draft) : Scan Draft := do
  let first ← Scan.peekJoined
  if purpose.isEnding then return draft.add (.plain 0x24)
  match first with
  | some 0x28 =>
      let _ ← Scan.next
      match ← Scan.peekJoined with
      | some 0x28 =>
          let _ ← Scan.next
          let entered := draft.enter (.ofRules .arithmetic true false)
          return { entered with parts := [], opened := .arithmetic draft.parts :: draft.opened }
      | _ => readParenthesized inner draft
  | some 0x7B =>
      let _ ← Scan.next
      let parameter ← readBraced
      if parameter.treatment = .value && !parameter.emptyIsNone then
        return draft.add (.parameter parameter [])
      else return openExpansion draft parameter
  | some byte =>
      if isNameStart byte then
        return draft.add (.parameter ⟨← takeWhile isNameByte Scan.limit [], .value, false⟩ [])
      else if isSpecial byte then
        let _ ← Scan.next
        return draft.add (.parameter ⟨[byte], .value, false⟩ [])
      else return draft.add (.plain 0x24)
  | none => return draft.add (.plain 0x24)

/-- Reads as much as there is of a text, and the byte behind it.  Tells whether it was the whole
text, and gives what of it there was behind `found`, and the byte. -/
def readEnding : Bytes → Bytes → Scan (Bool × Bytes × Option UInt8)
  | [], found => return (true, found.reverse, ← Scan.next)
  | expected :: rest, found => do
      match ← Scan.next with
      | some byte =>
          if byte = expected then readEnding rest (byte :: found)
          else return (false, found.reverse, some byte)
      | none => return (false, found.reverse, none)

/-- Drops tabs, at most so many. -/
def dropTabs : Nat → Scan Unit
  | 0 => return ()
  | count + 1 => do
      if (← Scan.peek) = some 0x09 then
        let _ ← Scan.next
        dropTabs count

/-- Whether a document ends with the line that begins here; if so, the line is read.  If the line
only begins like the word that ends the document, a byte outside of ASCII behind that gets lost. -/
def endsDocument : Purpose → Scan Bool
  | .document ending stripsTabs => do
      if stripsTabs then dropTabs Scan.limit
      let (isWhole, found, follows) ← readEnding ending []
      if isWhole && (follows.isNone || follows = some 0x0A) then
        Scan.endLine
        return true
      else
        Scan.returnBytes (found ++ follows.toList.filter fun byte => found.isEmpty || byte < 0x80)
        return false
  | _ => return false

/-- Joins lines, except between single quotes. -/
def joinLines (draft : Draft) : Scan Unit := do
  if draft.frame.rules ≠ .single then Scan.joinLines

/-- What comes of a byte of a word. -/
inductive Step where
  | going (draft : Draft)
  | lineEnded (draft : Draft)
  | wordEnded

/-- Reads one byte of a word, unless the word ends with it. -/
def step (inner : Inner) (purpose : Purpose) (draft : Draft) : Scan Step := do
  let byte ← Scan.peek
  let value := byte.getD 0
  match meaning draft.frame.rules byte with
  | .endOfText => return .wordEnded
  | .endOfLine =>
      if draft.frame.rules = .base && draft.frame.expansions = 0 then return .wordEnded
      else
        let _ ← Scan.next
        Scan.endLine
        return .lineEnded (addOrdinary draft value)
  | .delimiter =>
      if draft.frame.expansions = 0 then return .wordEnded
      else
        let _ ← Scan.next
        return .going (addOrdinary draft value)
  | .ordinary =>
      let _ ← Scan.next
      return .going (addOrdinary draft value)
  | .backslash =>
      let _ ← Scan.next
      return .going (← readBackslash purpose draft)
  | .singleQuote =>
      let _ ← Scan.next
      return .going (addMark purpose { draft with frame := { draft.frame with rules := .single } })
  | .doubleQuote =>
      let _ ← Scan.next
      return .going (addDoubleMark purpose
        { draft with frame := { draft.frame with rules := .double, isDouble := true } })
  | .endQuote =>
      let _ ← Scan.next
      return .going (endQuote purpose draft value)
  | .endExpansion =>
      let _ ← Scan.next
      return .going (endExpansion draft)
  | .openParenthesis =>
      let _ ← Scan.next
      let frame := { draft.frame with parentheses := draft.frame.parentheses + 1 }
      return .going ({ draft with frame }.add (.plain value))
  | .closeParenthesis =>
      let _ ← Scan.next
      return .going (← closeParenthesis draft)
  | .dollar =>
      let _ ← Scan.next
      return .going (← readDollar inner purpose draft)
  | .backquote =>
      let _ ← Scan.next
      if purpose.isEnding then return .going (draft.add (.plain value))
      else return .going (← readBackquotes inner draft)

/-- Reads the rest of a word. -/
def readRest (inner : Inner) (purpose : Purpose) : Nat → Draft → Scan Draft
  | 0, draft => return draft
  | count + 1, draft => do
      match ← step inner purpose draft with
      | .wordEnded => do
          if purpose.isDocument then
            modify fun reader => { reader with lacksEnding := true }
          return draft
      | .going draft =>
          joinLines draft
          readRest inner purpose count draft
      | .lineEnded draft =>
          joinLines draft
          if ← endsDocument purpose then return draft
          else readRest inner purpose count draft

/-- Complains if something is still open at the end of a word. -/
def finish (purpose : Purpose) (draft : Draft) : Scan Unit := do
  if draft.frame.rules = .arithmetic then throw .missingParentheses
  if draft.frame.rules ≠ .base && !purpose.isDocument then throw .unterminatedQuotes
  if draft.frame.expansions ≠ 0 then throw .missingBrace

/-- The descriptor in front of a redirection, if a word is one. -/
def descriptor? (draft : Draft) : Option (Option Nat) :=
  if draft.quoted then none
  else
    match draft.parts with
    | [] => some none
    | [.plain byte] => if isDigit byte then some (some (byte - 0x30).toNat) else none
    | _ => none

/-- Reads the sign of a redirection. -/
def readRedirection (given : Option Nat) : Scan Token := do
  let sign ← Scan.next
  let follows ← Scan.peekJoined
  let take (start : RedirectionStart) : Scan RedirectionStart := do
    let _ ← Scan.next
    return start
  if sign = some 0x3E then
    let start ← match follows with
      | some 0x3E => take (.file .append)
      | some 0x7C => take (.file .overwrite)
      | some 0x26 => take .copy
      | _ => pure (.file .write)
    return .redirection (given.getD 1) start
  else
    let start ← match follows with
      | some 0x3C => do
          let _ ← Scan.next
          if (← Scan.peekJoined) = some 0x2D then take (.document true) else pure (.document false)
      | some 0x26 => take .copy
      | some 0x3E => take (.file .readWrite)
      | _ => pure (.file .read)
    return .redirection (given.getD 0) start

/-- Reads a word, or a redirection with the descriptor in front of it. -/
def readWord (inner : Inner) (purpose : Purpose) : Scan Token := do
  Scan.joinLines
  let draft ← readRest inner purpose Scan.limit (.ofRules .base)
  finish purpose draft
  let follows ← Scan.peek
  match descriptor? draft, follows with
  | some given, some 0x3E | some given, some 0x3C => readRedirection given
  | _, _ => return .word draft.parts.reverse draft.quoted

/-- Reads the text of a document. -/
def readDocument (inner : Inner) (announced : Announced) : Scan Document := do
  let purpose := Purpose.document announced.ending announced.stripsTabs
  let start := Draft.ofRules (if announced.expands then .double else .single)
  joinLines start
  if ← endsDocument purpose then return ⟨[], announced.expands⟩
  let draft ← readRest inner purpose Scan.limit start
  finish purpose draft
  return ⟨draft.parts.reverse, announced.expands⟩

/-- Reads a text to its end, as if it stood between double quotes. -/
def readText (inner : Inner) : Scan Word := do
  let draft ← readRest inner .text Scan.limit (.ofRules .double)
  finish .text draft
  return draft.parts.reverse

end WordReader

end Shell

end HostnameSandbox
