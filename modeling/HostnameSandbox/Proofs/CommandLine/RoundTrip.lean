import HostnameSandbox.CommandLine
import HostnameSandbox.OuterStage
import Mathlib.Data.List.TakeWhile

/-!
# Reading back the command line of the inner stage

The outer stage writes a command line for the inner one, and the inner one reads it.  A word
that a stage takes for itself, such as a flag, never becomes the first word of a command.  The
command line is therefore read back as the command it was written for exactly if the name of
the program is no such word.
-/

namespace HostnameSandbox

theorem except_bind_eq_ok_iff {ε α β : Type} {first : Except ε α} {next : α → Except ε β}
    {value : β} :
    first >>= next = .ok value ↔ ∃ between, first = .ok between ∧ next between = .ok value := by
  cases first with
  | error fault =>
      constructor
      · intro failed
        cases failed
      · rintro ⟨between, failed, -⟩
        cases failed
  | ok between =>
      constructor
      · intro came
        exact ⟨between, rfl, came⟩
      · rintro ⟨between, same, came⟩
        cases same
        exact came

namespace CommandLine

/-- The word `--name` or `--name=value`. -/
def longWord (name : Bytes) (value : Option Bytes) : Bytes :=
  escape ++ name ++ value.elim [] (equalsSign :: ·)

/-- The words that a stage takes for itself where a command may begin: the end of the options,
the long flags with a name of the stage or with one that is no text, and the groups of short
flags of the stage. -/
inductive IsOwnWord (stage : Stage) : Bytes → Prop
  | escape : IsOwnWord stage escape
  | long (name : Bytes) (value : Option Bytes) (plain : equalsSign ∉ name)
      (taken : (∃ flag ∈ Flag.known stage, name = Bytes.ofString flag.word) ∨
        name.exact? = none) :
      IsOwnWord stage (longWord name value)
  | short (letters : Bytes) (nonempty : letters ≠ [])
      (taken : ∀ letter ∈ letters, ∃ flag ∈ Flag.known stage, Flag.short? letter = some flag) :
      IsOwnWord stage (0x2D :: letters)

theorem long?_longWord {name : Bytes} (plain : equalsSign ∉ name) (value : Option Bytes) :
    long? (longWord name value) = some (name, value) := by
  have notSign : ∀ byte ∈ name, (byte != equalsSign) = true := by
    intro byte member
    simp only [bne_iff_ne, ne_eq]
    rintro rfl
    exact plain member
  have word : longWord name value =
      0x2D :: 0x2D :: (name ++ value.elim [] (equalsSign :: ·)) := by
    rw [longWord, List.append_assoc]
    rfl
  rw [word]
  simp only [long?]
  rw [List.takeWhile_append_of_pos notSign, List.dropWhile_append_of_pos notSign]
  cases value with
  | none => simp
  | some value => simp

theorem eq_longWord_of_long? {word name : Bytes} {value : Option Bytes}
    (read : long? word = some (name, value)) :
    equalsSign ∉ name ∧ word = longWord name value := by
  unfold long? at read
  split at read
  · next rest =>
      obtain ⟨nameEq, valueEq⟩ := Prod.mk.inj (Option.some.inj read)
      subst nameEq
      refine ⟨fun member => by simpa using List.mem_takeWhile_imp member, ?_⟩
      have parts : rest = rest.takeWhile (· != equalsSign) ++ rest.dropWhile (· != equalsSign) :=
        List.takeWhile_append_dropWhile.symm
      have signFirst := List.head?_dropWhile_not (· != equalsSign) rest
      change escape ++ rest = _
      rw [longWord, List.append_assoc]
      congr 1
      cases remaining : rest.dropWhile (· != equalsSign) with
      | nil =>
          rw [remaining] at parts valueEq
          subst valueEq
          exact parts
      | cons sign value =>
          rw [remaining] at parts valueEq signFirst
          obtain rfl : sign = equalsSign := by simpa using signFirst
          subst valueEq
          exact parts
  · simp at read

theorem isOwnWord_of_isStageCluster {stage : Stage} {word letters : Bytes}
    (read : cluster? word = some letters) (own : isStageCluster stage letters = true) :
    IsOwnWord stage word := by
  unfold cluster? at read
  split at read
  · next first rest =>
      split at read
      · cases read
      · cases read
        refine .short _ (by simp) fun letter member => ?_
        have known := List.all_eq_true.1 own letter member
        cases isFlag : Flag.short? letter with
        | none => simp [isFlag] at known
        | some flag => exact ⟨flag, by simpa [isFlag] using known, rfl⟩
  · cases read

theorem cluster?_of_short {stage : Stage} {letters : Bytes} (nonempty : letters ≠ [])
    (taken : ∀ letter ∈ letters, ∃ flag ∈ Flag.known stage, Flag.short? letter = some flag) :
    cluster? (0x2D :: letters) = some letters ∧ isStageCluster stage letters = true := by
  constructor
  · cases letters with
    | nil => exact absurd rfl nonempty
    | cons first rest =>
        have notDash : first ≠ 0x2D := by
          rintro rfl
          obtain ⟨flag, -, isFlag⟩ := taken 0x2D (by simp)
          cases isFlag
        simp [cluster?, notDash]
  · refine List.all_eq_true.2 fun letter member => ?_
    obtain ⟨flag, known, isFlag⟩ := taken letter member
    simpa [isFlag] using known

/-- What follows a stage is read for that stage, and the command is what is left of it. -/
theorem suffix_of_parseStage {stage : Stage} {before verbose : Bool} {words : List Bytes}
    {request : Request} (read : parseStage stage before verbose words = .ok request) :
    request.stage = stage ∧ request.words <:+ words := by
  induction words generalizing verbose with
  | nil => simp [parseStage] at read
  | cons word rest hypothesis =>
      have later {verbose : Bool} (read : parseStage stage before verbose rest = .ok request) :
          request.stage = stage ∧ request.words <:+ word :: rest :=
        ⟨(hypothesis read).1, (hypothesis read).2.trans (List.suffix_cons word rest)⟩
      have whole (begins : Except.ok ⟨before || verbose, stage, word :: rest⟩ =
          (.ok request : Except Refusal Request)) :
          request.stage = stage ∧ request.words <:+ word :: rest := by
        cases begins
        exact ⟨rfl, List.suffix_rfl⟩
      unfold parseStage at read
      simp only at read
      split at read
      · split at read
        · cases read
        · cases read
          exact ⟨rfl, List.suffix_cons word _⟩
      · split at read
        · split at read
          · split at read
            · exact whole read
            · cases read
          · cases read
          · obtain ⟨verbose, -, read⟩ := except_bind_eq_ok_iff.1 read
            exact later read
        · split at read
          · exact whole read
          · split at read
            · obtain ⟨verbose, -, read⟩ := except_bind_eq_ok_iff.1 read
              exact later read
            · exact whole read

theorem length_words_lt_of_parseFrom {verbose : Bool} {words : List Bytes} {request : Request}
    (read : parseFrom verbose words = .ok request) : request.words.length < words.length := by
  induction words generalizing verbose with
  | nil => simp [parseFrom] at read
  | cons word rest hypothesis =>
      have later {verbose : Bool} (read : parseFrom verbose rest = .ok request) :
          request.words.length < (word :: rest).length :=
        Nat.lt_succ_of_lt (hypothesis read)
      unfold parseFrom at read
      split at read
      · cases read
      · split at read
        · exact Nat.lt_succ_of_le (suffix_of_parseStage read).2.length_le
        · split at read
          · exact Nat.lt_succ_of_le (suffix_of_parseStage read).2.length_le
          · split at read
            · cases read
            · split at read
              · split at read
                · cases read
                · cases read
                · obtain ⟨verbose, -, read⟩ := except_bind_eq_ok_iff.1 read
                  exact later read
              · split at read
                · cases read
                · obtain ⟨verbose, -, read⟩ := except_bind_eq_ok_iff.1 read
                  exact later read

theorem parseStage_of_not_isOwnWord {stage : Stage} {word : Bytes}
    (foreign : ¬ IsOwnWord stage word) (before verbose : Bool) (rest : List Bytes) :
    parseStage stage before verbose (word :: rest) =
      .ok ⟨before || verbose, stage, word :: rest⟩ := by
  have notEscape : word ≠ escape := by
    rintro rfl
    exact foreign .escape
  unfold parseStage
  simp only [if_neg notEscape]
  cases isLong : long? word with
  | some parts =>
      obtain ⟨name, value⟩ := parts
      obtain ⟨plain, rfl⟩ := eq_longWord_of_long? isLong
      have unknown : Flag.named? (Flag.known stage) name = none := by
        refine List.find?_eq_none.2 fun flag member => ?_
        simp only [decide_eq_true_eq]
        intro same
        exact foreign (.long name value plain (.inl ⟨flag, member, same.symm⟩))
      have isText : name.exact?.isSome := by
        rw [Option.isSome_iff_ne_none]
        intro noText
        exact foreign (.long name value plain (.inr noText))
      simp only [unknown, if_pos isText]
  | none =>
      cases isCluster : cluster? word with
      | none => rfl
      | some letters =>
          have notOwn : isStageCluster stage letters = false := by
            rw [Bool.eq_false_iff]
            intro own
            exact foreign (isOwnWord_of_isStageCluster isCluster own)
          simp only [notOwn, Bool.false_eq_true, if_false]

/-- A stage's own word is left behind when the command begins. -/
theorem length_words_le_of_isOwnWord {stage : Stage} {word : Bytes} (own : IsOwnWord stage word)
    {before verbose : Bool} {rest : List Bytes} {request : Request}
    (read : parseStage stage before verbose (word :: rest) = .ok request) :
    request.words.length ≤ rest.length := by
  unfold parseStage at read
  simp only at read
  by_cases isEscape : word = escape
  · rw [if_pos isEscape] at read
    cases rest with
    | nil => cases read
    | cons first rest =>
        cases read
        exact Nat.le_refl _
  rw [if_neg isEscape] at read
  cases own with
  | escape => exact absurd rfl isEscape
  | long name value plain taken =>
      rw [long?_longWord plain] at read
      simp only at read
      split at read
      · next unknown =>
          split at read
          · next isText =>
              exfalso
              rcases taken with ⟨flag, known, rfl⟩ | noText
              · exact List.find?_eq_none.1 unknown flag known (by simp)
              · simp [noText] at isText
          · cases read
      · cases read
      · obtain ⟨verbose, -, read⟩ := except_bind_eq_ok_iff.1 read
        exact (suffix_of_parseStage read).2.length_le
  | short letters nonempty taken =>
      obtain ⟨isCluster, isOwn⟩ := cluster?_of_short nonempty taken
      have notLong : long? (0x2D :: letters) = none := by
        unfold long?
        split
        · next rest same =>
            cases same
            simp [cluster?] at isCluster
        · rfl
      simp only [notLong, isCluster, isOwn, if_true] at read
      obtain ⟨verbose, -, read⟩ := except_bind_eq_ok_iff.1 read
      exact (suffix_of_parseStage read).2.length_le

/-- A word begins the command exactly if it is not a word of the stage's own. -/
theorem parseStage_eq_begins_iff {stage : Stage} {before verbose : Bool} {word : Bytes}
    {rest : List Bytes} :
    parseStage stage before verbose (word :: rest) =
        .ok ⟨before || verbose, stage, word :: rest⟩ ↔ ¬ IsOwnWord stage word := by
  constructor
  · intro begins own
    exact absurd (length_words_le_of_isOwnWord own begins) (by simp)
  · intro foreign
    exact parseStage_of_not_isOwnWord foreign before verbose rest

theorem invocation_eq_ok_iff {request : Request} {invocation : Invocation} :
    request.invocation = .ok invocation ↔
      request.stage = invocation.stage ∧ invocation.command.words = request.words := by
  obtain ⟨stage, command⟩ := invocation
  unfold Request.invocation
  cases made : Command.ofWords request.words with
  | error fault =>
      simp only [reduceCtorEq, false_iff, not_and]
      intro _ same
      rw [← Command.ofWords_eq_ok_iff, made] at same
      cases same
  | ok other =>
      rw [← Command.ofWords_eq_ok_iff, made]
      simp

end CommandLine

namespace OuterStage

/-- The inner stage reads its arguments as the outer stage meant them: as its own stage, for
the same command, word by word, and with the same verbosity. -/
def ReadsBack (stage : OuterStage) (command : Command) : Prop :=
  ∃ request, CommandLine.parse (stage.arguments command) = .ok request ∧
    request.verbose = stage.verbose ∧ request.invocation = .ok ⟨.inner, command⟩

theorem parse_arguments (stage : OuterStage) (command : Command) :
    CommandLine.parse (stage.arguments command) =
      CommandLine.parseStage .inner stage.verbose false command.words := by
  cases verbose : stage.verbose with
  | false => simp only [arguments, verbose]; rfl
  | true => simp only [arguments, verbose]; rfl

theorem readsBack_of_not_isOwnWord (stage : OuterStage) {command : Command}
    (foreign : ¬ CommandLine.IsOwnWord .inner command.program) : stage.ReadsBack command := by
  refine ⟨⟨stage.verbose || false, .inner, command.words⟩, ?_, ?_, ?_⟩
  · rw [parse_arguments]
    exact CommandLine.parseStage_of_not_isOwnWord foreign stage.verbose false command.args
  · exact Bool.or_false stage.verbose
  · exact CommandLine.invocation_eq_ok_iff.2 ⟨rfl, rfl⟩

theorem not_isOwnWord_of_readsBack {stage : OuterStage} {command : Command}
    (back : stage.ReadsBack command) : ¬ CommandLine.IsOwnWord .inner command.program := by
  obtain ⟨⟨verbose, played, words⟩, read, sameVerbose, invoked⟩ := back
  obtain ⟨samePlayed, sameWords⟩ := CommandLine.invocation_eq_ok_iff.1 invoked
  simp only at sameVerbose samePlayed sameWords
  subst sameVerbose samePlayed sameWords
  rw [parse_arguments] at read
  refine CommandLine.parseStage_eq_begins_iff.1 (read.trans ?_)
  rw [Bool.or_false]
  rfl

theorem ReadsBack.of_stage {stage : OuterStage} {command : Command}
    (back : stage.ReadsBack command) (other : OuterStage) : other.ReadsBack command :=
  readsBack_of_not_isOwnWord other (not_isOwnWord_of_readsBack back)

/-- The inner stage reads its arguments as the outer stage meant them, with every byte of the
program and of the arguments unchanged, exactly if the name of the program is not a word that
the inner stage takes for itself. -/
theorem readsBack_iff (stage : OuterStage) (command : Command) :
    stage.ReadsBack command ↔ ¬ CommandLine.IsOwnWord .inner command.program :=
  ⟨not_isOwnWord_of_readsBack, readsBack_of_not_isOwnWord stage⟩

/-- A command whose program is called by the verbose flag is not read back. -/
theorem not_readsBack_verboseWord :
    ¬ ofRunning.ReadsBack ⟨verboseWord, [Bytes.ofString "x"], by decide, by decide⟩ := by
  intro back
  refine not_isOwnWord_of_readsBack back (.short [0x76] (by decide) ?_)
  simp [CommandLine.Flag.known, CommandLine.Flag.short?]

end OuterStage

end HostnameSandbox
