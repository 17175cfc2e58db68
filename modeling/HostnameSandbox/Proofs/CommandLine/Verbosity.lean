import HostnameSandbox.Proofs.CommandLine.Malformed
import HostnameSandbox.Proofs.CommandLine.Verbatim

/-!
# Command lines that differ in verbosity

The verbose flag, in front of the stage or behind it, decides nothing but verbosity: command lines
that differ only there and are both accepted ask for the same invocation, and what the inner stage
makes of its arguments does not depend on whether the flag stands in front of it.
-/

namespace HostnameSandbox

namespace CommandLine

/-- Two command lines are understood in the same way but for verbosity. -/
inductive ReadAlike : Except Refusal Request → Except Refusal Request → Prop
  | refused (refusal : Refusal) : ReadAlike (.error refusal) (.error refusal)
  | read (verbose other : Bool) (stage : Stage) (words : List Bytes) :
      ReadAlike (.ok ⟨verbose, stage, words⟩) (.ok ⟨other, stage, words⟩)

theorem ReadAlike.invocation {one two : Except Refusal Request} (alike : ReadAlike one two)
    {request other : Request} (first : one = .ok request) (second : two = .ok other) :
    request.invocation = other.invocation := by
  cases alike with
  | refused refusal => cases first
  | read verbose also stage words =>
      cases first
      cases second
      rfl

theorem ReadAlike.symm {one two : Except Refusal Request} (alike : ReadAlike one two) :
    ReadAlike two one := by
  cases alike with
  | refused refusal => exact .refused refusal
  | read verbose other stage words => exact .read other verbose stage words

theorem ReadAlike.trans {one two three : Except Refusal Request} (first : ReadAlike one two)
    (second : ReadAlike two three) : ReadAlike one three := by
  cases first with
  | refused refusal => exact second
  | read verbose other stage words =>
      cases second with
      | read _ another _ _ => exact .read verbose another stage words

theorem readAlike_bind {α : Type} (first : Except Refusal α)
    {next goOn : α → Except Refusal Request} (alike : ∀ value, ReadAlike (next value) (goOn value)) :
    ReadAlike (first >>= next) (first >>= goOn) := by
  cases first with
  | error refusal => exact .refused refusal
  | ok value => exact alike value

/-- A flag in front of the stage makes no difference to what is made of the words behind it. -/
theorem readAlike_parseStage (stage : Stage) (before other verbose : Bool) (words : List Bytes) :
    ReadAlike (parseStage stage before verbose words) (parseStage stage other verbose words) := by
  induction words generalizing verbose with
  | nil => exact .refused _
  | cons word rest hypothesis =>
      unfold parseStage
      dsimp only
      split
      · cases rest with
        | nil => exact .refused _
        | cons word rest => exact .read _ _ stage (word :: rest)
      · split
        · split
          · split
            · exact .read _ _ stage (word :: rest)
            · exact .refused _
          · exact .refused _
          · exact readAlike_bind _ hypothesis
        · split
          · exact .read _ _ stage (word :: rest)
          · split
            · exact readAlike_bind _ hypothesis
            · exact .read _ _ stage (word :: rest)

/-- Two command lines differ at most in the verbose flags in front of the stage and behind it. -/
inductive DifferInFlags : List Bytes → List Bytes → Prop
  | flags {before other after behind : List Bytes} (isBefore : IsVerbosity before)
      (isOther : IsVerbosity other) (isAfter : IsVerbosity after) (isBehind : IsVerbosity behind)
      (stage : Stage) (rest : List Bytes) :
      DifferInFlags (before ++ Bytes.ofString stage.word :: (after ++ rest))
        (other ++ Bytes.ofString stage.word :: (behind ++ rest))

theorem parse_flags {before after : List Bytes} (isBefore : IsVerbosity before)
    (isAfter : IsVerbosity after) (stage : Stage) (rest : List Bytes) :
    parse (before ++ Bytes.ofString stage.word :: (after ++ rest)) =
      parseStage stage (!before.isEmpty) (!after.isEmpty) rest := by
  rw [parse, parseFrom_verbosity isBefore, parseFrom_stage, parseStage_verbosity isAfter]

/-- Where the flag has been given behind the stage, no other one is read there, and the command is
the same as without the flag. -/
theorem parseStage_unset {stage : Stage} {before : Bool} {words : List Bytes} {request : Request}
    (read : parseStage stage before true words = .ok request) :
    parseStage stage before false words = .ok { request with verbose := before } := by
  obtain ⟨after, mark, follows⟩ := exists_follows read
  have nonempty : request.words ≠ [] := words_ne_nil_of_parseStage read
  have whole := follows.words
  rw [follows.once rfl, List.nil_append] at whole
  rw [whole, parseStage_mark follows.isMark nonempty follows.begins, Bool.or_false]
  obtain ⟨_, _, _⟩ := request
  obtain rfl := follows.played
  rfl

/-- Command lines that differ only in verbose flags and are both read are read alike. -/
theorem DifferInFlags.readAlike {one two : List Bytes} (differ : DifferInFlags one two)
    {request other : Request} (first : parse one = .ok request) (second : parse two = .ok other) :
    ReadAlike (parse one) (parse two) := by
  obtain ⟨isBefore, isOther, isAfter, isBehind, stage, rest⟩ := differ
  rw [parse_flags isBefore isAfter] at first ⊢
  rw [parse_flags isOther isBehind] at second ⊢
  -- a flag behind the stage can be left out on both sides
  have bare {before after : Bool} {request : Request}
      (read : parseStage stage before after rest = .ok request) :
      ReadAlike (parseStage stage before after rest) (parseStage stage before false rest) := by
    cases after with
    | false => exact read ▸ .read _ _ _ _
    | true =>
        rw [parseStage_unset read, read]
        exact .read _ _ _ _
  exact (bare first).trans
    ((readAlike_parseStage stage _ _ false rest).trans (bare second).symm)

end CommandLine

end HostnameSandbox
