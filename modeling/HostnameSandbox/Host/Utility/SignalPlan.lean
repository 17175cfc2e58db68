import HostnameSandbox.Host.Numeral.Reading
import HostnameSandbox.Host.Utility.Basic

/-!
# Plans about signals

What a program is to do about signals from its start on: the reactions to them, and which of them
have to wait.  A plan is made from lists of signals, which are given by names or numbers.
-/

namespace HostnameSandbox

namespace Utility

namespace SignalPlan

/-! ### Signals by name -/

/-- The other names of some signals, and the name for no signal. -/
def otherNames : List (String × Signal) :=
  [("POLL", ⟨29⟩), ("CLD", ⟨17⟩), ("IOT", ⟨6⟩), ("EXIT", ⟨0⟩)]

/-- The number in the middle of the signals that have numbers only; those up to it count from the
first one, the others from the last. -/
def middle : Nat := Signal.firstNumbered + (Signal.greatest - Signal.firstNumbered) / 2

/-- What a signal is called; two have no name. -/
def name? (signal : Signal) : Option String :=
  let number := signal.number
  if number = 29 then some "POLL"
  else
    match Signal.names.find? fun entry => entry.2 = signal with
    | some entry => some entry.1
    | none =>
        let numbered (base : String) (sign : String) (distance : Nat) : Option String :=
          some (if distance = 0 then base else base ++ sign ++ toString distance)
        if number < Signal.firstNumbered || Signal.greatest < number then none
        else if number ≤ middle then numbered "RTMIN" "+" (number - Signal.firstNumbered)
        else numbered "RTMAX" "-" (Signal.greatest - number)

/-- The signals that have a name, by their numbers. -/
def all : List Signal :=
  ((List.range Signal.greatest).map fun number => ⟨number + 1⟩).filter fun signal =>
    (name? signal).isSome

/-- The integer that a text consists of; an empty text stands for zero. -/
def offset? (text : Bytes) : Option Int :=
  if text.isEmpty then some 0
  else
    match Numeral.integer? (some 10) text with
    | some ⟨value, []⟩ => some value
    | _ => none

/-- The signal with a name in capital letters, or with a number. -/
def named? (name : Bytes) : Option Signal :=
  let span : Int := Signal.greatest - Signal.firstNumbered
  if name.head?.any Numeral.isDigit then
    (Bytes.decimal? name).bind fun number =>
      if number ≤ Signal.greatest then some ⟨number⟩ else none
  else
    match (Signal.names ++ otherNames).find? fun entry => Bytes.ofString entry.1 = name with
    | some entry => some entry.2
    | none =>
        let (base, rest) := (name.take 5, name.drop 5)
        match offset? rest with
        | none => none
        | some distance =>
            if base = Bytes.ofString "RTMIN" && 0 ≤ distance && distance ≤ span then
              some ⟨Signal.firstNumbered + distance.toNat⟩
            else if base = Bytes.ofString "RTMAX" && -span ≤ distance && distance ≤ 0 then
              some ⟨Signal.greatest - distance.natAbs⟩
            else none

/-- A capital letter in place of a small one. -/
def capital (byte : UInt8) : UInt8 := if 0x61 ≤ byte && byte ≤ 0x7A then byte - 0x20 else byte

/-- The signal that a word stands for.  Of a greater number, as in a status, some bits count. -/
def signal? (word : Bytes) : Option Signal :=
  let found : Option Signal :=
    if word.head?.any Numeral.isDigit then
      (Bytes.decimal? word).bind fun number =>
        if Nat.pow 2 31 ≤ number then none
        else some ⟨number % (if 0xFF ≤ number then 0x100 else 0x80)⟩
    else
      let capitals := word.map capital
      match named? capitals with
      | some signal => some signal
      | none =>
          if (Bytes.ofString "SIG").isPrefixOf capitals then named? (capitals.drop 3) else none
  found.filter fun signal => (name? signal).isSome

/-- The signals in a list of words with commas between them, or the first word that stands for
none. -/
def signals? (words : Bytes) : Except Bytes (List Signal) :=
  ((words.splitOn 0x2C).filter fun word => !word.isEmpty).mapM fun word =>
    match signal? word with
    | some signal => .ok signal
    | none => .error word

end SignalPlan

/-- A plan about signals. -/
structure SignalPlan where
  /-- What is to happen on signals, the latest choice first, and whether it is all the same if that
  cannot be chosen. -/
  reactions : List (Signal × Reaction × Bool)
  /-- The signals that have to wait, and those that do not have to wait any more. -/
  held : List Signal
  released : List Signal
deriving DecidableEq

namespace SignalPlan

/-- The plan to leave everything as it is. -/
def nothing : SignalPlan := ⟨[], [], []⟩

/-- The plan with reactions chosen, to the signals in a list or to all. -/
def react (plan : SignalPlan) (reaction : Reaction) (words : Option Bytes) :
    Except Bytes SignalPlan := do
  let signals ← match words with
    | none => pure all
    | some words => signals? words
  .ok { plan with
    reactions := (signals.map fun signal => (signal, reaction, words.isNone)) ++ plan.reactions }

/-- The plan to let the signals in a list wait, or all. -/
def hold (plan : SignalPlan) (words : Option Bytes) : Except Bytes SignalPlan :=
  match words with
  | none => .ok { plan with held := all, released := [] }
  | some words => do
      let signals ← signals? words
      .ok { plan with
        held := plan.held ++ signals
        released := plan.released.filter fun signal => !signals.contains signal }

/-- The plan not to let the signals in a list wait, or none at all. -/
def release (plan : SignalPlan) (words : Option Bytes) : Except Bytes SignalPlan :=
  match words with
  | none => .ok { plan with held := [], released := all }
  | some words => do
      let signals ← signals? words
      .ok { plan with
        held := plan.held.filter fun signal => !signals.contains signal
        released := plan.released ++ signals }

/-- How a remark calls a signal. -/
def called (signal : Signal) : String :=
  (name? signal).getD "" ++ " (" ++ toString signal.number ++ ")"

/-- Chooses the reactions to signals; `remark` tells about each.  The signal is returned about which
that cannot be done, if it matters. -/
def chooseReactions (plan : SignalPlan) (remark : String → Process Unit) :
    List Signal → Process (Option Signal)
  | [] => pure none
  | signal :: signals => do
      match plan.reactions.find? fun entry => entry.1 = signal with
      | none => chooseReactions plan remark signals
      | some (_, reaction, isOptional) =>
          if !signal.canBeHandled && !isOptional then pure (some signal)
          else
            if signal.canBeHandled then Process.react signal reaction
            let chosen := if reaction = .ignored then "IGNORE" else "DEFAULT"
            let failed := if signal.canBeHandled then "" else " (failure ignored)"
            remark ("Reset signal " ++ called signal ++ " to " ++ chosen ++ failed)
            chooseReactions plan remark signals

/-- Chooses the signals that have to wait; `remark` tells about each. -/
def chooseHeld (plan : SignalPlan) (remark : String → Process Unit) : Process Unit := do
  if !(plan.held.isEmpty && plan.released.isEmpty) then
    let before : List Signal ← Process.ask .held
    all.forM fun signal =>
      if plan.held.contains signal then
        remark ("signal " ++ called signal ++ " mask set to BLOCK")
      else if plan.released.contains signal then
        remark ("signal " ++ called signal ++ " mask set to UNBLOCK")
      else pure ()
    let after := (before.filter fun signal => !plan.released.contains signal) ++ plan.held
    Process.ask (.hold after)

/-- Writes what happens on signals, as far as that is not the usual. -/
def tell : Process Unit := do
  let held : List Signal ← Process.ask .held
  all.forM fun signal => do
    let reaction : Reaction ← Process.ask (.reactionTo signal)
    let marks := (if held.contains signal && signal.canBeHandled then ["BLOCK"] else []) ++
      if reaction = .ignored then ["IGNORE"] else []
    if !marks.isEmpty then
      let name := (name? signal).getD ""
      let number := toString signal.number
      Process.writeText Descriptor.error
        (name ++ String.ofList (List.replicate (10 - name.length) ' ') ++ " (" ++
          String.ofList (List.replicate (2 - number.length) ' ') ++ number ++ "): " ++
          ",".intercalate marks ++ "\n")

end SignalPlan

end Utility

end HostnameSandbox
