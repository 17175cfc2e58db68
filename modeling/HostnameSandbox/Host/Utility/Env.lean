import HostnameSandbox.Host.Utility.Search
import HostnameSandbox.Host.Utility.SignalPlan

/-!
# Changing the environment of a program

`env` turns into a program with a changed environment, or tells the environment.  With the option
`-S` one word is split into several, so that an interpreter line can hold them.
-/

namespace HostnameSandbox

namespace Utility.Env

/-- The options of the program. -/
def options : Options where
  short := "iv0".toList.map (fun letter => (letter, .none)) ++
    "CSu".toList.map fun letter => (letter, .required)
  long := [("ignore-environment", .none, 'i'), ("null", .none, '0'), ("unset", .required, 'u'),
    ("chdir", .required, 'C'), ("default-signal", .optional, 'D'),
    ("ignore-signal", .optional, 'I'), ("block-signal", .optional, 'B'),
    ("list-signal-handling", .none, 'L'), ("debug", .none, 'v'), ("split-string", .required, 'S'),
    ("help", .none, 'h'), ("version", .none, 'V')]
  ordered := true
  final := ['S']

/-- The exit code of a run that does not come to a program. -/
def canceled : UInt8 := 125

/-- Whether a byte is a blank. -/
def isBlank (byte : UInt8) : Bool := byte = 0x20 || (0x09 ≤ byte && byte ≤ 0x0D)

/-- A word that is being split: the words so far, what there is to tell, and whether the next byte
begins a word. -/
structure Splitting where
  /-- The words, the last one first, and each with its last byte first. -/
  reversed : List Bytes
  remarks : List Bytes
  apart : Bool

/-- Which quotes are open. -/
inductive Quotes where
  | none
  | single
  | double
deriving DecidableEq

namespace Splitting

/-- The splitting where a word has begun. -/
def opened (splitting : Splitting) : Splitting :=
  if splitting.apart then { splitting with reversed := [] :: splitting.reversed, apart := false }
  else splitting

/-- The words so far. -/
def words (splitting : Splitting) : List Bytes := (splitting.reversed.map List.reverse).reverse

/-- The splitting with bytes added to the word. -/
def add (splitting : Splitting) (bytes : Bytes) : Splitting :=
  let splitting := splitting.opened
  { splitting with
    reversed := (bytes.reverse ++ splitting.reversed.head?.getD []) :: splitting.reversed.tail }

/-- The splitting with a remark more. -/
def remark (splitting : Splitting) (text : Bytes) : Splitting :=
  { splitting with remarks := splitting.remarks ++ [text] }

end Splitting

/-- The name in braces behind a dollar sign, and what follows it. -/
def named? : Bytes → Option (Bytes × Bytes)
  | 0x7B :: text =>
      let isFirst (byte : UInt8) : Bool := byte = 0x5F || (0x41 ≤ byte && byte ≤ 0x5A) ||
        (0x61 ≤ byte && byte ≤ 0x7A)
      let name := text.takeWhile fun byte => isFirst byte || Numeral.isDigit byte
      let rest := text.drop name.length
      if name.head?.any isFirst && rest.head? = some 0x7D then some (name, rest.tail) else none
  | _ => none

/-- Where a splitting stands: which quotes are open, what has been split, and the text that is
left. -/
structure Place where
  quotes : Quotes
  splitting : Splitting
  text : Bytes

/-- What follows a backslash; a splitting may end there.  The place is the one at the backslash, and
`rest` the text behind it. -/
def escape (place : Place) (rest : Bytes) : Except Bytes (Option Place) :=
  let quotes := place.quotes
  match rest with
  | [] =>
      if quotes = .single then .ok (some ⟨quotes, place.splitting.add [0x5C], rest⟩)
      else .error (Bytes.ofString "invalid backslash at end of string in -S")
  | next :: following =>
      let taken (written : UInt8) : Except Bytes (Option Place) :=
        .ok (some ⟨quotes, place.splitting.add [written], following⟩)
      if quotes = .single && next ≠ 0x5C && next ≠ 0x27 then
        .ok (some ⟨quotes, place.splitting.add [0x5C], rest⟩)
      else
        match Char.ofNat next.toNat with
        | '"' | '#' | '$' | '\'' | '\\' => taken next
        | '_' =>
            if quotes = .double then taken 0x20
            else .ok (some ⟨quotes, { place.splitting with apart := true }, following⟩)
        | 'c' =>
            if quotes = .double then
              .error (Bytes.ofString "'\\c' must not appear in double-quoted -S string")
            else .ok none
        | 'f' => taken 0x0C
        | 'n' => taken 0x0A
        | 'r' => taken 0x0D
        | 't' => taken 0x09
        | 'v' => taken 0x0B
        | _ =>
            .error (Bytes.ofString "invalid sequence '\\" ++ next :: Bytes.ofString "' in -S")

/-- What follows a dollar sign: the value of a variable is put in.  The place is the one at the dollar
sign, and `rest` the text behind it. -/
def substitute (environment : Environment) (place : Place) (rest : Bytes) :
    Except Bytes (Option Place) :=
  match named? rest with
  | none =>
      .error (Bytes.ofString
        "only $\x7bVARNAME\x7d expansion is supported, error at: " ++ place.text)
  | some (name, rest) =>
      let shown := Bytes.ofString "$\x7b" ++ name ++ Bytes.ofString "\x7d"
      match environment.find? fun entry => entry.1 = name with
      | some (_, value) =>
          let remarked := place.splitting.remark
            (Bytes.ofString "expanding " ++ shown ++ Bytes.ofString " into " ++
              Quoting.always value)
          .ok (some ⟨place.quotes, remarked.add value, rest⟩)
      | none =>
          let remarked := place.splitting.remark
            (Bytes.ofString "replacing " ++ shown ++ Bytes.ofString " with null string")
          .ok (some ⟨place.quotes, remarked, rest⟩)

/-- Splits a text up to the next place where something new may begin, unless the splitting ends. -/
def splitStep (environment : Environment) (place : Place) : Except Bytes (Option Place) :=
  let quotes := place.quotes
  let splitting := place.splitting
  match place.text with
  | [] =>
      if quotes = .none then .ok none
      else .error (Bytes.ofString "no terminating quote in -S string")
  | byte :: rest =>
      if byte = 0x27 && quotes ≠ .double then
        .ok (some ⟨if quotes = .single then .none else .single, splitting.opened, rest⟩)
      else if byte = 0x22 && quotes ≠ .single then
        .ok (some ⟨if quotes = .double then .none else .double, splitting.opened, rest⟩)
      else if isBlank byte && quotes = .none then
        .ok (some ⟨quotes, { splitting with apart := true }, rest.dropWhile isBlank⟩)
      else if byte = 0x23 && splitting.apart && quotes = .none then .ok none
      else if byte = 0x5C then escape place rest
      else if byte = 0x24 && quotes ≠ .single then substitute environment place rest
      else .ok (some ⟨quotes, splitting.add [byte], rest⟩)

/-- Splits a text into words, within so many steps. -/
def split (environment : Environment) : Nat → Place → Except Bytes Splitting
  | 0, place => .ok place.splitting
  | steps + 1, place =>
      match splitStep environment place with
      | .error complaint => .error complaint
      | .ok none => .ok place.splitting
      | .ok (some place) => split environment steps place

/-- A command line whose splits are done. -/
structure Ready where
  chosen : List (Char × Option Bytes)
  operands : List Bytes
  remarks : List Bytes

/-- What ends a run before it begins: a complaint, with a hint if the use was wrong. -/
structure Refused where
  complaints : List Bytes
  hinted : Bool
  remarks : List Bytes

/-- The remarks on a split: the text and the words that it became. -/
def splitRemarks (text : Bytes) (words : List Bytes) : List Bytes :=
  match words with
  | [] => []
  | first :: rest =>
      [Bytes.ofString "split -S:  " ++ Quoting.always text,
        Bytes.ofString " into:    " ++ Quoting.always first] ++
      rest.map fun word => Bytes.ofString "     &    " ++ Quoting.always word

/-- What is to happen about signals, by the options. -/
def plan? (chosen : List (Char × Option Bytes)) : Except Bytes SignalPlan :=
  chosen.foldlM
    (fun (plan : SignalPlan) (letter, words) =>
      match letter with
      | 'D' => do (← plan.react .standard words).release words
      | 'I' => plan.react .ignored words
      | 'B' => plan.hold words
      | _ => .ok plan)
    SignalPlan.nothing

/-- Refuses options that name a signal which does not exist. -/
def checkSignals (chosen : List (Char × Option Bytes)) (remarks : List Bytes) :
    Except Refused Unit :=
  match plan? chosen with
  | .error signal =>
      .error ⟨[Quoting.always signal ++ Bytes.ofString ": invalid signal"], true, remarks⟩
  | .ok _ => .ok ()

/-- The complaints about an option, with a hint if it may be meant for a split. -/
def complaints (message : Bytes) : List Bytes :=
  let isBlankOption := match message.reverse with
    | _ :: byte :: _ => (Bytes.ofString "invalid option").isPrefixOf message && isBlank byte
    | _ => false
  message :: (if isBlankOption then
    [Bytes.ofString "use -[v]S to pass options in shebang lines"] else [])

/-- Reads a command line with its splits, of which there are at most so many. -/
def read (environment : Environment) : Nat → List Bytes → Ready → Except Refused Ready
  | 0, words, ready => .ok { ready with operands := words }
  | splits + 1, words, ready =>
      match options.parse words with
      | .error fault => do
          checkSignals (ready.chosen ++ fault.before) ready.remarks
          .error ⟨complaints fault.message, true, ready.remarks⟩
      | .ok parsed => do
          let chosen := ready.chosen ++ parsed.chosen
          checkSignals chosen ready.remarks
          match parsed.chosen.getLast? with
          | some ('S', some text) =>
              match split environment (text.length + 1) ⟨.none, ⟨[], [], true⟩, text⟩ with
              | .error complaint => .error ⟨[complaint], false, ready.remarks⟩
              | .ok splitting =>
                  let remarks := if chosen.any fun entry => entry.1 = 'v' then
                    splitting.remarks ++ splitRemarks text splitting.words else []
                  read environment splits (splitting.words ++ parsed.operands)
                    ⟨chosen.dropLast, [], ready.remarks ++ remarks⟩
          | _ => .ok ⟨chosen, parsed.operands, ready.remarks⟩

/-- The environment with a variable set, in its place or at the end. -/
def set (environment : Environment) (name value : Bytes) : Environment :=
  if environment.any fun entry => entry.1 = name then
    environment.map fun entry => if entry.1 = name then (name, value) else entry
  else environment ++ [(name, value)]

/-- Turns into a program, perhaps in another directory; `remark` tells about it. -/
def start (name : Bytes) (remark : Bytes → Process Unit) (program : Bytes) (args : List Bytes)
    (directory : Option Bytes) (environment : Environment) : Process UInt8 := do
  let entered : Except Errno Unit ← match directory with
    | none => pure (.ok ())
    | some directory => do
        remark (Bytes.ofString "chdir:    " ++ Quoting.always directory)
        Process.ask (.enterDirectory directory)
  match entered, directory with
  | .error errno, some directory =>
      complain name (withErrno
        (Bytes.ofString "cannot change directory to " ++ Quoting.always directory) errno)
      pure canceled
  | _, _ =>
      remark (Bytes.ofString "executing: " ++ program)
      (program :: args).zipIdx.forM fun (word, index) =>
        remark (Bytes.ofString ("   arg[" ++ toString index ++ "]= ") ++ Quoting.always word)
      let errno ← Search.become program (program :: args) environment
      let isHeard ← note (complaint name (withErrno (Quoting.always program) errno))
      if errno = .noEntry && program.any isBlank then
        complain name (Bytes.ofString "use -[v]S to pass options in shebang lines")
      pure (if !isHeard then canceled else if errno = .noEntry then 127 else 126)

/-- Turns into a program, or tells the environment. -/
def perform (name : Bytes) (environment : Environment) (ready : Ready) : Process UInt8 := do
  let isVerbose := ready.chosen.any fun entry => entry.1 = 'v'
  let remarkAll (lines : List Bytes) : Process Bool :=
    if isVerbose then noteAll lines else pure true
  let remark (text : Bytes) : Process Unit := do
    let _ ← remarkAll [text]
  let isHeard ← noteAll ready.remarks
  let has (letter : Char) : Bool := ready.chosen.any fun entry => entry.1 = letter
  let values (letter : Char) : List Bytes := ready.chosen.filterMap fun entry =>
    if entry.1 = letter then entry.2 else none
  match plan? ready.chosen with
  | .error signal =>
      refuse name (Quoting.always signal ++ Bytes.ofString ": invalid signal") canceled
  | .ok plan =>
      let isBare := has 'i' || ready.operands.head? = some (Bytes.ofString "-")
      let operands := if ready.operands.head? = some (Bytes.ofString "-") then ready.operands.tail
        else ready.operands
      let unset := if isBare then [] else values 'u'
      let namesNothing (word : Bytes) : Bool := word.isEmpty || word.contains Options.equals
      let unsetting := unset.takeWhile (fun word => !namesNothing word) ++
        (unset.find? namesNothing).toList
      let isHeard := (← remarkAll (
        (if isBare then [Bytes.ofString "cleaning environ"] else []) ++
        unsetting.map fun word => Bytes.ofString "unset:    " ++ word)) && isHeard
      match unset.find? namesNothing with
      | some word =>
          complain name (withErrno (Bytes.ofString "cannot unset " ++ Quoting.always word)
            .invalidArgument)
          pure canceled
      | none =>
          let assignments := operands.takeWhile (·.contains Options.equals)
          let isHeard := (← remarkAll (
            assignments.map fun word => Bytes.ofString "setenv:   " ++ word)) && isHeard
          let kept := if isBare then [] else environment.filter fun entry => !unset.contains entry.1
          let environment := assignments.foldl
            (fun environment (word : Bytes) =>
              let assigned := word.takeWhile (· != Options.equals)
              set environment assigned (word.drop (assigned.length + 1)))
            kept
          match operands.drop assignments.length, (values 'C').getLast? with
          | [], some _ =>
              refuse name (Bytes.ofString "must specify command with --chdir (-C)") canceled
          | [], none =>
              let ending : UInt8 := if has '0' then 0 else 0x0A
              finish name (.ofPieces (environment.map fun entry =>
                entry.1 ++ Options.equals :: entry.2 ++ [ending])) (if isHeard then 0 else canceled)
                canceled
          | program :: args, directory =>
              if has '0' then
                refuse name (Bytes.ofString "cannot specify --null (-0) with command") canceled
              else
                match ← plan.chooseReactions (fun text => remark (Bytes.ofString text))
                    SignalPlan.all with
                | some signal =>
                    let text := "failed to set signal action for signal " ++ toString signal.number
                    complain name (withErrno (Bytes.ofString text) .invalidArgument)
                    pure canceled
                | none =>
                    plan.chooseHeld fun text => remark (Bytes.ofString text)
                    if has 'L' then SignalPlan.tell
                    start name remark program args directory environment

/-- Changes the environment and turns into a program. -/
def program : Program := fun start => do
  let limit := start.args.foldl (fun total arg => total + arg.length) 1
  match read start.environment limit start.args ⟨[], [], []⟩ with
  | .error refused =>
      let _ ← noteAll refused.remarks
      refused.complaints.forM (complain start.name)
      if refused.hinted then hint start.name
      pure canceled
  | .ok ready => perform start.name start.environment ready

end Utility.Env

end HostnameSandbox
