import HostnameSandbox.Host.Condition
import HostnameSandbox.Host.Numeral.Reading
import HostnameSandbox.Host.Utility.Basic

/-!
# Testing conditions

`test` tells by its exit code whether a condition holds.  How few words are understood depends on
how many there are; more of them are read as conditions that are denied, put in parentheses, and
joined.  Every part of a condition is looked at, even if the answer is clear before.
-/

namespace HostnameSandbox

namespace Utility.Test

/-- A condition that is being looked at.  The last words may not belong to it. -/
structure Inquiry where
  words : Array Bytes
  /-- How many words belong to the condition. -/
  count : Nat
  /-- How many of them have been looked at. -/
  position : Nat

/-- What is asked has an answer, or something is wrong with the condition. -/
abbrev Asking := ExceptT Bytes (StateT Inquiry Process)

/-- The opening parenthesis. -/
def opening : Bytes := [0x28]

/-- The closing parenthesis. -/
def closing : Bytes := [0x29]

/-- The word that denies a condition. -/
def denial : Bytes := [0x21]

/-- The word in front of one whose length is meant. -/
def lengthMark : Bytes := Bytes.ofString "-l"

/-- The word so far behind the place that has been reached. -/
def ahead (distance : Nat) : Asking Bytes := do
  let inquiry ← get
  return inquiry.words.getD (inquiry.position + distance) []

/-- How many words of the condition are left. -/
def remaining : Asking Nat := do
  let inquiry ← get
  return inquiry.count - inquiry.position

/-- Complains about a word. -/
def wrong {α : Type} (word : Bytes) (problem : String) : Asking α :=
  throw (Quoting.always word ++ Bytes.ofString problem)

/-- Complains that words are missing at the end. -/
def missing {α : Type} : Asking α := do
  let inquiry ← get
  throw (Bytes.ofString "missing argument after " ++
    Quoting.always (inquiry.words.getD (inquiry.count - 1) []))

/-- Goes on by so many words. -/
def skip (count : Nat) : Asking Unit :=
  modify fun inquiry => { inquiry with position := inquiry.position + count }

/-- Goes on to the next word, which has to be there. -/
def goOn : Asking Unit := do
  skip 1
  if (← remaining) = 0 then missing

/-- The number that a word spells. -/
def number (word : Bytes) : Asking Int :=
  match Numeral.integer? (some 10) word with
  | some ⟨value, rest⟩ =>
      if rest.all Numeral.isBlank then return value
      else throw (Bytes.ofString "invalid integer " ++ Quoting.always word)
  | none => throw (Bytes.ofString "invalid integer " ++ Quoting.always word)

/-- What is asked of one word. -/
inductive WordQuestion where
  | isEmpty
  | isFull
  /-- Whether an open file is a terminal. -/
  | isTerminal
  /-- Whether a file has been changed since it was read. -/
  | isUnread
  | file (question : FileQuestion)

/-- What a word of a hyphen and a letter asks of the next word. -/
def question? : Bytes → Option WordQuestion
  | [0x2D, letter] =>
      let char := Char.ofNat letter.toNat
      if char = 'z' then some .isEmpty
      else if char = 'n' then some .isFull
      else if char = 't' then some .isTerminal
      else if char = 'N' then some .isUnread
      else (FileQuestion.letters.find? fun entry => entry.1 = char).map fun entry => .file entry.2
  | _ => none

/-- Whether a word has the form of one that asks something of the next word. -/
def mayAsk (word : Bytes) : Bool := word.length = 2 && word.head? = some 0x2D

/-- The answer to a question about one word. -/
def askWord : Asking Bool := do
  let asking ← ahead 0
  match question? asking with
  | none => wrong asking ": unary operator expected"
  | some question => do
      goOn
      let word ← ahead 0
      skip 1
      match question with
      | .isEmpty => return word.isEmpty
      | .isFull => return !word.isEmpty
      | .isTerminal => do
          let _ ← number word
          return false
      | .isUnread => return false
      | .file question => (question.ask word : Process Bool)

/-- What is asked of two words. -/
inductive PairQuestion where
  | same
  | different
  | numbers (comparison : Comparison)
  | newer
  | older
  | sameFile

/-- What a word asks of the words around it. -/
def pair? (word : Bytes) : Option PairQuestion :=
  let others : List (String × PairQuestion) :=
    [("=", .same), ("==", .same), ("!=", .different), ("-nt", .newer), ("-ot", .older),
      ("-ef", .sameFile)]
  let all := others ++ Comparison.words.map fun entry => (entry.1, .numbers entry.2)
  (all.find? fun entry => Bytes.ofString entry.1 = word).map Prod.snd

/-- What a file tells, if it is there. -/
def facts? (path : Bytes) : Asking (Option FileFacts) := do
  match (← (Process.ask (.examine path true) : Process (Except Errno FileFacts))) with
  | .ok facts => return some facts
  | .error _ => return none

/-- The answer for two files, if no length is meant. -/
def askFiles (name : String) (measures : Bool) (one other : Bytes)
    (holds : Option FileFacts → Option FileFacts → Bool) : Asking Bool := do
  if measures then throw (Bytes.ofString (name ++ " does not accept -l"))
  else return holds (← facts? one) (← facts? other)

/-- Whether the first of two files was changed later, a missing one being the oldest. -/
def isNewer : Option FileFacts → Option FileFacts → Bool
  | some one, some other => decide (other.changed < one.changed)
  | some _, none => true
  | none, _ => false

/-- The number that a word spells, or its length if that is meant. -/
def measure (isLength : Bool) (word : Bytes) : Asking Int :=
  if isLength then return word.length else number word

/-- The answer to a question about two words.  A word in front of one of them says that its length
is meant; where words are only compared, the one in front of the second makes the question itself
the first of them. -/
def askPair (measuresLeft : Bool) : Asking Bool := do
  if measuresLeft then skip 1
  let left ← ahead 0
  let asking ← ahead 1
  let measuresRight := 3 < (← remaining) && (← ahead 2) = lengthMark
  if measuresRight then skip 1
  let compared ← ahead 0
  let right ← ahead 2
  skip 3
  let measures := measuresLeft || measuresRight
  match pair? asking with
  | some (.numbers comparison) => do
      return comparison.holds (← measure measuresLeft left) (← measure measuresRight right)
  | some .newer => askFiles "-nt" measures left right isNewer
  | some .older => askFiles "-ot" measures left right fun one other => isNewer other one
  | some .sameFile =>
      askFiles "-ef" measures left right fun one other =>
        one.any fun one => other.any fun other => one.place == other.place
  | some .same => return compared == right
  | some .different => return compared != right
  | none => return false

/-- The answer for one word. -/
def one : Asking Bool := do
  let word ← ahead 0
  skip 1
  return !word.isEmpty

/-- The answer for two words. -/
def two : Asking Bool := do
  let word ← ahead 0
  if word = denial then
    skip 1
    return !(← one)
  else if mayAsk word then askWord
  else missing

/-- The answer for three words; `joined` reads conditions that are joined. -/
def three (joined : Asking Bool) : Asking Bool := do
  let first ← ahead 0
  let middle ← ahead 1
  if (pair? middle).isSome then askPair false
  else if first = denial then
    goOn
    return !(← two)
  else if first = opening && (← ahead 2) = closing then
    skip 1
    let answer ← one
    skip 1
    return answer
  else if middle = Bytes.ofString "-a" || middle = Bytes.ofString "-o" then joined
  else wrong middle ": binary operator expected"

/-- The answer for so many words; `joined` reads conditions that are joined. -/
def several (joined : Asking Bool) : Nat → Asking Bool
  | 1 => one
  | 2 => two
  | 3 => three joined
  | 4 => do
      let first ← ahead 0
      if first = denial then
        goOn
        return !(← three joined)
      else if first = opening && (← ahead 3) = closing then
        skip 1
        let answer ← two
        skip 1
        return answer
      else joined
  | _ => joined

/-- How many words stand before the next closing parenthesis; if that is far away, all words up to
the end. -/
def enclosed : Asking Nat := do
  let inquiry ← get
  let rest := inquiry.words.toList.take inquiry.count |>.drop inquiry.position
  let inside := (rest.drop 1).takeWhile (· ≠ closing)
  return if inside.length < 4 then inside.length + 1 else rest.length

/-- The answer to a condition that nothing is joined to, denied at most so often; `joined` reads
conditions that are joined. -/
def simple (joined : Asking Bool) : Nat → Asking Bool
  | 0 => return false
  | count + 1 => do
      if (← remaining) = 0 then missing
      let word ← ahead 0
      if word = denial then
        goOn
        return !(← simple joined count)
      else if word = opening then
        goOn
        let answer ← several joined (← enclosed)
        let inquiry ← get
        match inquiry.words[inquiry.position]? with
        | none => wrong closing " expected"
        | some word => do
            if word = closing then
              skip 1
              return answer
            else
              throw (Quoting.always closing ++ Bytes.ofString " expected, found " ++
                Quoting.always word)
      else if 3 < (← remaining) && word = lengthMark && (pair? (← ahead 2)).isSome then askPair true
      else if 2 < (← remaining) && (pair? (← ahead 1)).isSome then askPair false
      else if mayAsk word then askWord
      else one

/-- The answers to conditions with a word between any two of them, at most so many. -/
def chain (link : String) (part : Asking Bool) (join : Bool → Bool → Bool) : Nat → Asking Bool
  | 0 => return false
  | count + 1 => do
      let answer ← part
      if 0 < (← remaining) && (← ahead 0) = Bytes.ofString link then
        skip 1
        return join answer (← chain link part join count)
      else return answer

/-- The answer to conditions that are joined, nested at most so deep. -/
def joined (count : Nat) : Nat → Asking Bool
  | 0 => return false
  | depth + 1 => do
      if (← remaining) = 0 then missing
      chain "-o" (chain "-a" (simple (joined count depth) count) and count) or count

/-- The answer to a whole condition. -/
def whole : Asking Bool := do
  let count ← remaining
  if count = 0 then return false
  else
    let answer ← several (joined (count + 1) (count + 1)) count
    if (← remaining) = 0 then return answer
    else throw (Bytes.ofString "extra argument " ++ Quoting.always (← ahead 0))

/-- Tests the condition that the first words are, `count` of them. -/
def test (start : Start) (count : Nat) : Process UInt8 := do
  match ← (whole.run.run' ⟨start.args.toArray, count, 0⟩) with
  | .ok answer => pure (if answer then 0 else 1)
  | .error message => do
      complain start.name message
      pure 2

/-- Tests a condition. -/
def program : Program := fun start => test start start.args.length

/-- Tests a condition that a bracket ends. -/
def bracketed : Program := fun start => do
  if start.args.getLast? = some [0x5D] then test start (start.args.length - 1)
  else
    complain start.name (Bytes.ofString "missing ']'")
    pure 2

end Utility.Test

end HostnameSandbox
