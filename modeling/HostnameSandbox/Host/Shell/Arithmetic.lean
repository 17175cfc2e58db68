import HostnameSandbox.Host.Numeral.Reading
import HostnameSandbox.Host.Shell.Code

/-!
# Arithmetic of the shell

Expressions are evaluated while they are read, in words of sixty-four bits that wrap around.  They
may assign to variables; what is assigned before something goes wrong stays assigned.
-/

namespace HostnameSandbox

namespace Shell

namespace Arithmetic

/-- What joins two numbers. -/
inductive Operator where
  | times
  | divided
  | remainder
  | plus
  | minus
  | leftShift
  | rightShift
  | less
  | lessOrEqual
  | greater
  | greaterOrEqual
  | equal
  | unequal
  | bitAnd
  | bitXor
  | bitOr
deriving DecidableEq, Repr

namespace Operator

/-- How loosely an operator binds, at most `levels`. -/
def level : Operator → Nat
  | .times | .divided | .remainder => 1
  | .plus | .minus => 2
  | .leftShift | .rightShift => 3
  | .less | .lessOrEqual | .greater | .greaterOrEqual => 4
  | .equal | .unequal => 5
  | .bitAnd => 6
  | .bitXor => 7
  | .bitOr => 8

/-- The number of levels. -/
def levels : Nat := 8

end Operator

/-- The pieces of an expression. -/
inductive Token where
  | ending
  | unknown
  | number (value : Int)
  | name (name : Bytes)
  | open
  | close
  | operator (operator : Operator)
  /-- An assignment, perhaps of the result of an operator. -/
  | assign (operator : Option Operator)
  | not
  | complement
  | and
  | or
  | question
  | colon
deriving DecidableEq, Repr

/-- What is wrong with an expression. -/
inductive Fault where
  | expected (what : String)
  | divisionByZero
  | notNumber (text : Bytes)
  | readOnly (name : Bytes)
  /-- The result of a division is no number that a word holds. -/
  | overflow
deriving DecidableEq, Repr

/-- The variables that an expression sees. -/
structure Scope where
  value? : Bytes → Option Bytes
  isReadOnly : Bytes → Bool

/-- How far an expression has been read, and what it has assigned, the latest first. -/
structure Progress where
  rest : Bytes
  token : Token
  assigned : List (Bytes × Int)

/-- An evaluation, which comes to a value or finds a fault. -/
abbrev Evaluation := ExceptT Fault (StateM Progress)

/-- The operators that are written with one byte. -/
def simple? (byte : UInt8) : Option Operator :=
  let table : List (Char × Operator) :=
    [('*', .times), ('/', .divided), ('%', .remainder), ('+', .plus), ('-', .minus),
      ('&', .bitAnd), ('^', .bitXor), ('|', .bitOr)]
  (table.find? fun entry => UInt8.ofNat entry.1.toNat = byte).map Prod.snd

/-- The other pieces that are written with one byte. -/
def single? (byte : UInt8) : Option Token :=
  let table : List (Char × Token) :=
    [('(', .open), (')', .close), ('~', .complement), ('?', .question), (':', .colon)]
  (table.find? fun entry => UInt8.ofNat entry.1.toNat = byte).map Prod.snd

/-- An operator, or an assignment with it if an equals sign follows. -/
def assignable (operator : Operator) : Bytes → Token × Bytes
  | 0x3D :: rest => (.assign (some operator), rest)
  | rest => (.operator operator, rest)

/-- The first piece of a text, and what follows it. -/
def scan (text : Bytes) : Token × Bytes :=
  let text := text.dropWhile fun byte => byte = 0x20 || byte = 0x09 || byte = 0x0A
  match text with
  | [] => (.ending, [])
  | 0x3C :: 0x3C :: rest => assignable .leftShift rest
  | 0x3C :: 0x3D :: rest => (.operator .lessOrEqual, rest)
  | 0x3C :: rest => (.operator .less, rest)
  | 0x3E :: 0x3E :: rest => assignable .rightShift rest
  | 0x3E :: 0x3D :: rest => (.operator .greaterOrEqual, rest)
  | 0x3E :: rest => (.operator .greater, rest)
  | 0x26 :: 0x26 :: rest => (.and, rest)
  | 0x7C :: 0x7C :: rest => (.or, rest)
  | 0x3D :: 0x3D :: rest => (.operator .equal, rest)
  | 0x3D :: rest => (.assign none, rest)
  | 0x21 :: 0x3D :: rest => (.operator .unequal, rest)
  | 0x21 :: rest => (.not, rest)
  | byte :: rest =>
      match simple? byte, single? byte with
      | some operator, _ => assignable operator rest
      | none, some token => (token, rest)
      | none, none =>
          if isNameStart byte then
            let name := leadingName text
            (.name name, text.drop name.length)
          else if isDigit byte then
            match Numeral.integer? none text with
            | some ⟨value, rest⟩ => (.number (Numeral.clampSigned value), rest)
            | none => (.unknown, text)
          else (.unknown, text)

/-- Goes on to the next piece. -/
def advance : Evaluation Unit :=
  modify fun progress =>
    let (token, rest) := scan progress.rest
    { progress with token, rest }

/-- The piece that is looked at. -/
def current : Evaluation Token := do
  return (← get).token

/-- The number that the value of a variable spells. -/
def number (value : Bytes) : Except Fault Int :=
  if value.isEmpty then .ok 0
  else
    match Numeral.integer? none value with
    | none => if value.all Numeral.isBlank then .ok 0 else .error (.notNumber value)
    | some ⟨number, rest⟩ =>
        if Numeral.clampSigned number = number && rest.all Numeral.isBlank then .ok number
        else .error (.notNumber value)

/-- The value of a variable. -/
def lookUp (scope : Scope) (name : Bytes) : Evaluation Int := do
  match (← get).assigned.find? fun entry => entry.1 = name with
  | some entry => return entry.2
  | none =>
      match number ((scope.value? name).getD []) with
      | .ok value => return value
      | .error fault => throw fault

/-- Assigns to a variable. -/
def assign (scope : Scope) (name : Bytes) (value : Int) : Evaluation Unit := do
  if scope.isReadOnly name then throw (.readOnly name)
  modify fun progress => { progress with assigned := (name, value) :: progress.assigned }

/-- The number that stands for a truth value. -/
def truth (holds : Bool) : Int := if holds then 1 else 0

/-- The bits of a number as a natural one. -/
def bits (value : Int) : Nat := (value % Int.pow 2 64).toNat

/-- The number that an operator makes of two. -/
def apply (operator : Operator) (left right : Int) : Except Fault Int :=
  let wrapped (value : Int) : Except Fault Int := .ok (Numeral.wrapSigned value)
  let divide (result : Int → Int → Int) : Except Fault Int :=
    if right = 0 then .error .divisionByZero
    else if left = Numeral.leastSigned && right = -1 then .error .overflow
    else .ok (result left right)
  let distance : Nat := (right % 64).toNat
  match operator with
  | .times => wrapped (left * right)
  | .divided => divide Int.tdiv
  | .remainder => divide Int.tmod
  | .plus => wrapped (left + right)
  | .minus => wrapped (left - right)
  | .leftShift => wrapped (left * Int.pow 2 distance)
  | .rightShift => .ok (left / Int.pow 2 distance)
  | .less => .ok (truth (decide (left < right)))
  | .lessOrEqual => .ok (truth (decide (left ≤ right)))
  | .greater => .ok (truth (decide (right < left)))
  | .greaterOrEqual => .ok (truth (decide (right ≤ left)))
  | .equal => .ok (truth (left == right))
  | .unequal => .ok (truth (left != right))
  | .bitAnd => wrapped (bits left &&& bits right)
  | .bitXor => wrapped (bits left ^^^ bits right)
  | .bitOr => wrapped (bits left ||| bits right)

/-- Applies an operator, unless the result does not matter. -/
def join (skips : Bool) (operator : Operator) (left right : Int) : Evaluation Int :=
  if skips then return right
  else
    match apply operator left right with
    | .ok value => return value
    | .error fault => throw fault

section

variable (scope : Scope)

/-- Reads an operand; `expression` is how one in parentheses is read, and `depth` limits the signs
in front of it. -/
def operand (expression : Bool → Evaluation Int) (skips : Bool) : Nat → Evaluation Int
  | 0 => throw (.expected "primary")
  | depth + 1 => do
      match ← current with
      | .open => do
          advance
          let value ← expression skips
          if (← current) ≠ .close then throw (.expected "')'")
          advance
          return value
      | .number value => do
          advance
          return value
      | .name name => do
          advance
          if skips then return 0 else lookUp scope name
      | .operator .plus => do
          advance
          operand expression skips depth
      | .operator .minus => do
          advance
          return Numeral.wrapSigned (-(← operand expression skips depth))
      | .not => do
          advance
          return truth ((← operand expression skips depth) == 0)
      | .complement => do
          advance
          return -(← operand expression skips depth) - 1
      | _ => throw (.expected "primary")

/-- Goes on with operators of a level behind a value, at most so many. -/
def chain (tighter : Evaluation Int) (skips : Bool) (level : Nat) : Nat → Int → Evaluation Int
  | 0, value => return value
  | count + 1, value => do
      match ← current with
      | .operator operator =>
          if operator.level = level then
            advance
            let right ← tighter
            chain tighter skips level count (← join skips operator value right)
          else return value
      | _ => return value

/-- Reads operands joined by operators of at most a level. -/
def joined (expression : Bool → Evaluation Int) (skips : Bool) (count : Nat) :
    Nat → Evaluation Int
  | 0 => operand scope expression skips count
  | level + 1 => do
      let tighter := joined expression skips count level
      chain tighter skips (level + 1) count (← tighter)

/-- Reads what has to hold together. -/
def conjunction (expression : Bool → Evaluation Int) (count : Nat) :
    Nat → Bool → Evaluation Int
  | 0, _ => throw (.expected "primary")
  | depth + 1, skips => do
      let left ← joined scope expression skips count Operator.levels
      if (← current) ≠ .and then return left
      else
        advance
        let right ← conjunction expression count depth (skips || left == 0)
        return truth (left != 0 && right != 0)

/-- Reads of what one has to hold. -/
def disjunction (expression : Bool → Evaluation Int) (count : Nat) :
    Nat → Bool → Evaluation Int
  | 0, _ => throw (.expected "primary")
  | depth + 1, skips => do
      let left ← conjunction scope expression count count skips
      if (← current) ≠ .or then return left
      else
        advance
        let right ← disjunction expression count depth (skips || left != 0)
        return truth (left != 0 || right != 0)

/-- Reads a choice. -/
def choice (expression : Bool → Evaluation Int) (count : Nat) : Nat → Bool → Evaluation Int
  | 0, _ => throw (.expected "primary")
  | depth + 1, skips => do
      let test ← disjunction scope expression count count skips
      if (← current) ≠ .question then return test
      else
        advance
        let whenTrue ← expression (skips || test == 0)
        if (← current) ≠ .colon then throw (.expected "':'")
        advance
        let whenFalse ← choice expression count depth (skips || test != 0)
        return if test != 0 then whenTrue else whenFalse

/-- Reads an expression, nested at most so deep. -/
def expressionAt (count : Nat) : Nat → Bool → Evaluation Int
  | 0, _ => throw (.expected "primary")
  | depth + 1, skips => do
      let progress ← get
      let following := scan progress.rest
      match progress.token, following with
      | .name name, (.assign operator, _) => do
          advance
          advance
          let value ← expressionAt count depth skips
          if skips then return value
          else
            let result ← match operator with
              | none => pure value
              | some operator => do
                  let before ← lookUp scope name
                  join false operator before value
            assign scope name result
            return result
      | _, _ => choice scope (expressionAt count depth) count count skips

end

/-- The value of an expression, or what is wrong with it, and what it has assigned in order. -/
def evaluate (scope : Scope) (text : Bytes) : Except Fault Int × List (Bytes × Int) :=
  let count := text.length + 1
  let evaluation : Evaluation Int := do
    advance
    let value ← expressionAt scope count count false
    if (← current) ≠ .ending then throw (.expected "EOF")
    return value
  let (result, progress) := evaluation.run ⟨text, .ending, []⟩
  (result, progress.assigned.reverse)

/-- The text of a complaint about an expression. -/
def Fault.message (text : Bytes) : Fault → Bytes
  | .expected what =>
      Bytes.ofString ("arithmetic expression: expecting " ++ what ++ ": \"") ++ text ++ [0x22]
  | .divisionByZero =>
      Bytes.ofString "arithmetic expression: division by zero: \"" ++ text ++ [0x22]
  | .notNumber value => Bytes.ofString "Illegal number: " ++ value
  | .readOnly name => name ++ Bytes.ofString ": is read only"
  | .overflow => []

end Arithmetic

end Shell

end HostnameSandbox
