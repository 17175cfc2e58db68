import HostnameSandbox.Host.Numeral.Floating
import HostnameSandbox.Host.Utility.Basic

/-!
# Letting time pass

`sleep` waits for the sum of its times, which are numbers of seconds, or of minutes, hours or days
if a letter says so.
-/

namespace HostnameSandbox

namespace Utility.Sleep

/-- The options of the program. -/
def options : Options where
  short := []
  long := [("help", .none, 'h'), ("version", .none, 'V')]
  ordered := false

/-- The seconds that a unit stands for. -/
def unit? : Bytes → Option Nat
  | [] => some 1
  | [0x73] => some 1
  | [0x6D] => some 60
  | [0x68] => some 3600
  | [0x64] => some 86400
  | _ => none

/-- A time that no run lasts for, in microseconds. -/
def forever : Nat := Nat.pow 10 18

/-- The microseconds that a word stands for. -/
def duration? (word : Bytes) : Option Nat := do
  let ⟨value, rest⟩ ← Numeral.quotient? word
  let unit ← unit? rest
  match value with
  | .undefined _ => none
  | .infinite negative => if negative then none else some forever
  | .finite negative numerator denominator =>
      if negative && numerator ≠ 0 then none
      else some (min forever ((numerator * unit * 1000000 + denominator - 1) / denominator))

/-- Waits. -/
def program : Program := fun start => do
  match options.parse start.args with
  | .error fault => refuse start.name fault.message 1
  | .ok ⟨_, words⟩ =>
      let wrong := words.filter fun word => (duration? word).isNone
      if start.args.isEmpty then refuse start.name (Bytes.ofString "missing operand") 1
      else if wrong.isEmpty then
        let times := words.filterMap duration?
        Process.ask (.pause (times.foldl (· + ·) 0))
        pure 0
      else
        wrong.forM fun word =>
          complain start.name (Bytes.ofString "invalid time interval " ++ Quoting.always word)
        hint start.name
        pure 1

end Utility.Sleep

end HostnameSandbox
