import HostnameSandbox.Host.Shell.Trap

/-!
# Switching settings

Settings are switched on behind a hyphen and off behind a plus sign, by letters or, behind the letter
`o`, by a name.  When a shell starts, the letter `c` announces a script as the first word.
-/

namespace HostnameSandbox

namespace Shell

namespace Settings

/-- What has been read of a row of words. -/
structure Progress where
  rest : List Bytes
  /-- Whether a script has been announced. -/
  hasScript : Bool
  /-- Whether the parameters are to be dropped. -/
  drops : Bool

/-- Switches a setting by its name, or shows all settings if there is no name. -/
def switchNamed (isOn : Bool) : Option Bytes → Doing Unit
  | none => do
      let settings := (← get).settings
      printText (if isOn then Setting.shown settings else Setting.asCommands settings)
  | some name =>
      match Setting.ofName? name with
      | some setting =>
          modify fun state => { state with settings := Setting.switch state.settings setting isOn }
      | none => fail (Bytes.ofString "Illegal option -o " ++ name)

/-- Switches settings by their letters. -/
def switchLetters (isStart isOn : Bool) : Bytes → Progress → Doing Progress
  | [], progress => return progress
  | byte :: letters, progress => do
      if byte = 0x63 && isStart then
        switchLetters isStart isOn letters { progress with hasScript := true }
      else if byte = 0x6C && isStart then switchLetters isStart isOn letters progress
      else if byte = 0x6F then
        switchNamed isOn progress.rest.head?
        switchLetters isStart isOn letters { progress with rest := progress.rest.tail }
      else
        match Setting.ofLetter? byte with
        | some setting =>
            modify fun state =>
              { state with settings := Setting.switchLetter state.settings setting isOn }
            switchLetters isStart isOn letters progress
        | none => fail (Bytes.ofString "Illegal option -" ++ [byte])

/-- Switches settings as words ask for, at most so many. -/
def switchWithin (isStart : Bool) : Nat → Progress → Doing Progress
  | 0, progress => return progress
  | count + 1, progress => do
      match progress.rest with
      | (sign :: letters) :: rest =>
          if sign = 0x2D && (letters.isEmpty || letters = [0x2D]) then
            if letters.isEmpty && !isStart then
              modify fun state =>
                { state with
                  settings := Setting.switch (Setting.switch state.settings .traces false)
                    .verbose false }
            return { progress with rest, drops := !letters.isEmpty && rest.isEmpty }
          else if sign = 0x2D || sign = 0x2B then
            let progress ← switchLetters isStart (sign = 0x2D) letters { progress with rest }
            switchWithin isStart count progress
          else return progress
      | _ => return progress

/-- Switches settings as words ask for. -/
def switch (isStart : Bool) (words : List Bytes) : Doing Progress :=
  switchWithin isStart words.length ⟨words, false, false⟩

/-- Lets settings take effect: a shell that talks to somebody minds other signals, and without a
terminal there is no control over jobs. -/
def takeEffect : Doing Unit := do
  [Signal.interrupt, Signal.quit, Signal.terminate].forM fun signal => Trap.settle signal.number
  let state ← get
  if state.has .monitors && !state.isInner then
    warn (Bytes.ofString "can't access tty; job control turned off")
    set { state with settings := Setting.switch state.settings .monitors false }

/-- Takes words as the parameters. -/
def setParameters (parameters : List Bytes) : Doing Unit :=
  modify fun state => { state with parameters, optionIndex := 1, optionOffset := none }

/-- Shows variables, behind a word if there is one, with their values. -/
def showVariables (word : Bytes) (shows : Variable → Bool) : Doing Unit := do
  (← get).store.sorted.forM fun found =>
    if shows found then
      print (word ++ (if word.isEmpty then [] else [0x20]) ++ found.name ++
        (found.value.elim [] fun value => 0x3D :: quoted value) ++ [0x0A])
    else pure ()

/-- Switches settings and takes the words behind them as the parameters, or shows all variables. -/
def set (args : List Bytes) : Doing Nat := do
  if args.isEmpty then showVariables [] fun found => found.value.isSome
  else
    let progress ← switch false args
    takeEffect
    if !progress.rest.isEmpty || progress.drops then setParameters progress.rest
  return 0

end Settings

end Shell

end HostnameSandbox
