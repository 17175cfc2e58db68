import HostnameSandbox.Host.Shell.State

/-!
# Signals that a shell gets

A shell notes the signals for which it has an action, and carries the actions out between commands,
in the order of the signals' numbers.  A signal that was ignored when the shell started stays ignored.
-/

namespace HostnameSandbox

namespace Shell

namespace Trap

/-- How signals are called, by their numbers: the end of the shell comes first, and some have only
their numbers. -/
def name (number : Nat) : String :=
  let named := (Signal.names.find? fun entry => entry.2.number = number && number ≠ 16).map Prod.fst
  if number = 0 then "EXIT"
  else
    match named with
    | some name => name
    | none =>
        if number = 34 then "RTMIN"
        else if number = Signal.greatest then "RTMAX"
        else if 34 < number && number < 50 then "RTMIN+" ++ toString (number - 34)
        else if 50 ≤ number then "RTMAX-" ++ toString (Signal.greatest - number)
        else toString number

/-- A capital letter in place of a small one. -/
def capital (byte : UInt8) : UInt8 := if 0x61 ≤ byte && byte ≤ 0x7A then byte - 0x20 else byte

/-- The signal that a word names, by its number or from `least` on by its name. -/
def signal? (word : Bytes) (least : Nat) : Option Nat :=
  match (Bytes.decimal? word).filter fun number => decide (number ≤ Signal.greatest) with
  | some number => some number
  | none =>
      (List.range (Signal.greatest + 1)).find? fun number =>
        decide (least ≤ number) && Bytes.ofString (name number) = word.map capital

/-- What the shell does about a signal: what its action asks for, unless a shell has to notice the
signal anyway. -/
def reaction (state : State) (number : Nat) : Reaction :=
  match state.trap? number with
  | some action =>
      if action.isEmpty && number ≠ Signal.childEnded.number then .ignored else .caught
  | none =>
      let isInteractive := state.has .interactive
      if state.isInner then .standard
      else if number = Signal.interrupt.number then
        if isInteractive || !state.has .standardInput then .caught else .standard
      else if isInteractive &&
          (number = Signal.quit.number || number = Signal.terminate.number) then .ignored
      else .standard

/-- Tells the system what is done about a signal. -/
def settle (number : Nat) : Doing Unit := do
  let state ← get
  if !state.ignored.contains number && number ≠ 0 then
    let former : Reaction ← Doing.ask (.react ⟨number⟩ (reaction state number))
    if !state.settled.contains number then
      modify fun state => { state with settled := number :: state.settled }
      if former = .ignored then
        let _ : Reaction ← Doing.ask (.react ⟨number⟩ .ignored)
        modify fun state => { state with ignored := number :: state.ignored }

/-- Ignores a signal for good. -/
def ignore (number : Nat) : Doing Unit := do
  let _ : Reaction ← Doing.ask (.react ⟨number⟩ .ignored)
  modify fun state => { state with ignored := number :: state.ignored }

/-- Whether there are actions on signals. -/
def listens (state : State) : Bool := state.traps.any fun entry => entry.1 ≠ 0

/-- Whether there are actions at all, be it that something is ignored. -/
def isAny (state : State) : Bool := state.traps.any fun entry => !entry.2.isEmpty

/-- Forgets all actions, as a shell does that comes out of another one; what is ignored stays
ignored. -/
def forget : Doing Unit := do
  let state ← get
  let forgotten := state.traps.filter fun entry => !entry.2.isEmpty
  set { state with traps := state.traps.filter fun entry => entry.2.isEmpty }
  forgotten.forM fun entry => settle entry.1

/-- What an interruption without an action does: it ends the shell, or in a conversation only the
command. -/
def interrupt : Doing Unit := do
  let state ← get
  if state.has .interactive && !state.isInner then
    set { state with status := 128 + Signal.interrupt.number }
    throw .interrupted
  else
    let _ : Reaction ← Doing.ask (.react .interrupt .standard)
    let pid : Pid ← Doing.ask .ownPid
    let _ ← Doing.ask (.send pid .interrupt)

/-- Notes the signals that have arrived, and deals with an interruption without an action. -/
def note : Doing Unit := do
  let noted : List Signal ← Doing.ask .takeCaught
  if !noted.isEmpty then
    let state ← get
    let numbers := noted.map Signal.number
    set { state with
      arrived := state.arrived ++ numbers.filter fun number => !state.arrived.contains number
      isAlerted := true }
    if numbers.contains Signal.interrupt.number &&
        (state.trap? Signal.interrupt.number).isNone then interrupt

/-- Carries the actions out for those of the given signals that have arrived; `run` carries out a
script.  While commands are being skipped, the signals are left for later. -/
def runEach (run : Bytes → Doing Nat) (status : Nat) : List Nat → Doing Unit
  | [] => pure ()
  | number :: rest => do
      let state ← get
      if !state.arrived.contains number then runEach run status rest
      else if state.skip ≠ .nothing then modify fun state => { state with isAlerted := true }
      else
        set { state with arrived := state.arrived.filter (· != number) }
        match state.trap? number with
        | none => pure ()
        | some action =>
            let _ ← run action
            if (← get).skip ≠ .returning true then
              modify fun state => { state with status }
        runEach run status rest

/-- Carries out what is to be done about the signals that have arrived, unless that is being done
already and no other has arrived since. -/
def run (run : Bytes → Doing Nat) : Doing Unit := do
  if listens (← get) then note
  let state ← get
  if state.isAlerted then
    let status := state.keptStatus.getD state.status
    set { state with keptStatus := some status, isAlerted := false }
    runEach run status (List.range (Signal.greatest + 1))
    modify fun state' => { state' with keptStatus := state.keptStatus }

end Trap

end Shell

end HostnameSandbox
