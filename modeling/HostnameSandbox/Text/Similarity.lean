/-!
# Likeness of words

The Jaro similarity of two words counts the characters that they share at nearby places and
the shared characters that stand in another order.  It is computed in double precision, in a
fixed order of operations, so that equal likeness means equal numbers.
-/

namespace HostnameSandbox

namespace Similarity

/-- The first unused place of `char` in `word` between `low` and `high`, with `used` telling
which places are taken.  `place` is the place of the list's head. -/
def findUnused (char : Char) (low high : Nat) : Nat → List Char → List Bool → Option Nat
  | place, other :: word, taken :: used =>
      if low ≤ place ∧ place < high ∧ other = char ∧ taken = false then some place
      else findUnused char low high (place + 1) word used
  | _, _, _ => none

/-- The characters of `left` that find a partner in `right` within `range` places, in order,
with the places of `right` that are used up. -/
def pair (range : Nat) (right : List Char) :
    Nat → List Char → List Bool → List Char × List Bool
  | _, [], used => ([], used)
  | place, char :: left, used =>
      match findUnused char (place - range) (place + range + 1) 0 right used with
      | none => pair range right (place + 1) left used
      | some found =>
          let (shared, used) := pair range right (place + 1) left (used.set found true)
          (char :: shared, used)

/-- The members of a list at the places that are marked. -/
def marked (word : List Char) (marks : List Bool) : List Char :=
  (word.zip marks).filterMap fun (char, mark) => if mark then some char else none

/-- The Jaro similarity of two words: 0 for nothing in common, 1 for equal words. -/
def jaro (left right : String) : Float :=
  let lefts := left.toList
  let rights := right.toList
  let leftCount := lefts.length
  let rightCount := rights.length
  if leftCount = 0 ∧ rightCount = 0 then 1.0
  else if leftCount = 0 ∨ rightCount = 0 then 0.0
  else
    let range := max leftCount rightCount / 2 - 1
    let (shared, used) := pair range rights 0 lefts (List.replicate rightCount false)
    let matched := shared.length
    if matched = 0 then 0.0
    else
      let displaced :=
        ((shared.zip (marked rights used)).filter fun (one, other) => one != other).length
      let swapped := displaced / 2
      let count := matched.toFloat
      (count / leftCount.toFloat + count / rightCount.toFloat
        + (count - swapped.toFloat) / count) / 3.0

/-- The candidates that resemble a word, the most similar last; of two that are equally
similar the later candidate comes later. -/
def suggestions (word : String) (candidates : List String) : List String :=
  let insert (entry : Float × String) (sorted : List (Float × String)) :=
    sorted.takeWhile (fun other => other.1 <= entry.1) ++
      entry :: sorted.dropWhile (fun other => other.1 <= entry.1)
  let similar := candidates.filterMap fun candidate =>
    let likeness := jaro word candidate
    if likeness > 0.7 then some (likeness, candidate) else none
  (similar.foldl (fun sorted entry => insert entry sorted) []).map Prod.snd

end Similarity

end HostnameSandbox
