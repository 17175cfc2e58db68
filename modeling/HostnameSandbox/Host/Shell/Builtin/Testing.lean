import HostnameSandbox.Host.Condition
import HostnameSandbox.Host.Shell.State

/-!
# Tests of the shell

`test` tells by its status whether a condition holds: one about a file, about words, or about
numbers, or a combination of these.
-/

namespace HostnameSandbox

namespace Shell

namespace Testing

/-- What is asked of two words. -/
inductive PairQuestion where
  | same
  | different
  | before
  | after
  | numbers (comparison : Comparison)
  | newer
  | older
  | sameFile
deriving DecidableEq, Repr

/-- What is asked of one word. -/
inductive WordQuestion where
  | isEmpty
  | isFull
  /-- Whether an open file is a terminal. -/
  | isTerminal
  | file (question : FileQuestion)
deriving DecidableEq, Repr

/-- The words with a meaning in a condition. -/
inductive Operator where
  | word (question : WordQuestion)
  | pair (question : PairQuestion)
  | not
  | and
  | or
  | open
  | close
deriving DecidableEq, Repr

/-- The operators as they are written. -/
def operators : List (String × Operator) :=
  let files := FileQuestion.letters.map fun (letter, question) =>
    (String.ofList ['-', letter], Operator.word (.file question))
  let numbers := Comparison.words.map fun (word, comparison) =>
    (word, Operator.pair (.numbers comparison))
  files ++ numbers ++
    [("-t", .word .isTerminal), ("-z", .word .isEmpty), ("-n", .word .isFull),
      ("=", .pair .same), ("!=", .pair .different), ("<", .pair .before), (">", .pair .after),
      ("-nt", .pair .newer), ("-ot", .pair .older), ("-ef", .pair .sameFile), ("!", .not),
      ("-a", .and), ("-o", .or), ("(", .open), (")", .close)]

/-- The operator that a word is. -/
def operator? (word : Bytes) : Option Operator :=
  (operators.find? fun entry => Bytes.ofString entry.1 = word).map Prod.snd

/-- Whether a word asks something of two words. -/
def pair? (word : Bytes) : Option PairQuestion :=
  match operator? word with
  | some (.pair question) => some question
  | _ => none

/-- Whether the words behind one that asks something of a word make that one an operand. -/
def isOperand : List Bytes → Bool
  | [] => true
  | [_] => false
  | next :: _ => (pair? next).isSome

/-- What the first word of a condition is: an operator, or an operand. -/
def lexeme (words : List Bytes) : Option Operator :=
  match words with
  | [] => none
  | word :: rest =>
      match operator? word with
      | some (.word question) => if isOperand rest then none else some (.word question)
      | some .open => if rest.isEmpty then none else some .open
      | found => found

/-- Complains about a condition. -/
def complain {α : Type} (word : Bytes) (message : String) : Doing α :=
  if word.isEmpty then failText message else failAbout word message

/-- The answer to a question about a word. -/
def askWord (question : WordQuestion) (word : Bytes) : Doing Bool := do
  match question with
  | .isEmpty => return word.isEmpty
  | .isFull => return !word.isEmpty
  | .isTerminal =>
      let _ ← integer word
      return false
  | .file question => (question.ask word : Process Bool)

/-- The answer to a question about two words. -/
def askPair (question : PairQuestion) (left right : Bytes) : Doing Bool := do
  let files (holds : FileFacts → FileFacts → Bool) : Doing Bool := do
    match (← Doing.ask (.examine left true) : Except Errno FileFacts),
        (← Doing.ask (.examine right true) : Except Errno FileFacts) with
    | .ok one, .ok other => return holds one other
    | _, _ => return false
  match question with
  | .same => return left == right
  | .different => return left != right
  | .before => return decide (left < right)
  | .after => return decide (right < left)
  | .numbers comparison => do
      let left ← integer left
      let right ← integer right
      return comparison.holds left right
  | .newer => files fun one other => decide (other.changed < one.changed)
  | .older => files fun one other => decide (one.changed < other.changed)
  | .sameFile => files fun one other => one.place == other.place

/-- The answer to a condition, with the words behind it, the first of which is the last of the
condition. -/
abbrev Answer := Bool × List Bytes

/-- The answer to a simple condition; `whole` is how one in parentheses is read. -/
def primary (whole : Option Operator → List Bytes → Doing Answer) (first : Option Operator)
    (words : List Bytes) : Doing Answer := do
  match words with
  | [] => return (false, [])
  | word :: rest =>
      match first with
      | some .open =>
          match lexeme rest with
          | some .close => return (false, rest)
          | next => do
              let (answer, words) ← whole next rest
              if lexeme words.tail = some .close then return (answer, words.tail)
              else failText "closing paren expected"
      | some (.word question) =>
          match rest with
          | [] => complain word "argument expected"
          | operand :: _ => return (← askWord question operand, rest)
      | _ =>
          match lexeme rest, rest with
          | some (.pair question), operator :: behind =>
              match behind with
              | [] => complain operator "argument expected"
              | right :: _ => return (← askPair question word right, behind)
          | _, _ => return (!word.isEmpty, words)

/-- The answer to a condition that may be denied, at most so often. -/
def denied (whole : Option Operator → List Bytes → Doing Answer) :
    Nat → Option Operator → List Bytes → Doing Answer
  | 0, _, words => return (false, words)
  | count + 1, first, words => do
      if first = some .not then
        let (answer, rest) ← denied whole count (lexeme words.tail) words.tail
        return (!answer, rest)
      else primary whole first words

/-- The answer to conditions that all have to hold, at most so many. -/
def all (whole : Option Operator → List Bytes → Doing Answer) (depth : Nat) :
    Nat → Option Operator → List Bytes → Doing Answer
  | 0, _, words => return (false, words)
  | count + 1, first, words => do
      let (answer, rest) ← denied whole depth first words
      if lexeme rest.tail = some .and then
        let following := rest.tail.tail
        let (others, rest) ← all whole depth count (lexeme following) following
        return (answer && others, rest)
      else return (answer, rest)

/-- The answer to conditions of which one has to hold, at most so many. -/
def any (whole : Option Operator → List Bytes → Doing Answer) (depth : Nat) :
    Nat → Option Operator → List Bytes → Doing Answer
  | 0, _, words => return (false, words)
  | count + 1, first, words => do
      let (answer, rest) ← all whole depth depth first words
      if lexeme rest.tail = some .or then
        let following := rest.tail.tail
        let (others, rest) ← any whole depth count (lexeme following) following
        return (answer || others, rest)
      else return (answer, rest)

/-- The answer to a condition, nested at most so deep. -/
def wholeAt (count : Nat) : Nat → Option Operator → List Bytes → Doing Answer
  | 0, _, words => return (false, words)
  | depth + 1, first, words => any (wholeAt count depth) count count first words

/-- The answer to the words of a condition.  Three words with an operator in the middle ask that,
whatever the others are; parentheses and a denial around few words are taken off. -/
def answer : Nat → List Bytes → Doing Bool
  | _, [] => return false
  | count, words => do
      let evaluate (first : Option Operator) (words : List Bytes) : Doing Bool := do
        let depth := words.length + 1
        let (answer, rest) ← wholeAt depth depth first words
        match rest with
        | latest :: _ :: _ => complain latest "unexpected operator"
        | _ => return answer
      let isPair := match words with
        | [_, operator, _] => (pair? operator).isSome
        | _ => false
      let isShort := words.length = 3 || words.length = 4
      let isEnclosed := words.head? = some [0x28] && words.getLast? = some [0x29]
      match count, words with
      | count + 1, first :: rest =>
          if isPair then evaluate none words
          else if isShort && isEnclosed then
            let inside := rest.dropLast
            evaluate (lexeme inside) inside
          else if isShort && first = [0x21] then return !(← answer count rest)
          else evaluate (lexeme words) words
      | _, _ => evaluate (lexeme words) words

/-- Tests a condition. -/
def test (args : List Bytes) : Doing Nat := do
  return if ← answer args.length args then 0 else 1

/-- Tests a condition in brackets.  Only the first byte of the word that closes them matters. -/
def bracketed (args : List Bytes) : Doing Nat := do
  if args.getLast?.any fun word => word.head? = some 0x5D then test args.dropLast
  else failText "missing ]"

end Testing

end Shell

end HostnameSandbox
