import HostnameSandbox.Proofs.CommandLine.RoundTrip

/-!
# What a command line is made of

A command line that is accepted is a stage, perhaps with the verbose flag before and after it,
perhaps the end of the options, and then the words of the command, which are taken as they
stand.  Every command line of that form is accepted whose command does not begin with a word
that the stage takes for itself.
-/

namespace HostnameSandbox

namespace CommandLine

/-- The verbose flag in full. -/
def verboseLong : Bytes := Bytes.ofString "--verbose"

/-- How verbosity may be asked for at one place, or not. -/
inductive IsVerbosity : List Bytes → Prop
  | absent : IsVerbosity []
  | short : IsVerbosity [OuterStage.verboseWord]
  | long : IsVerbosity [verboseLong]

/-- What may stand between the flags and the command. -/
inductive IsMark : List Bytes → Prop
  | absent : IsMark []
  | escape : IsMark [escape]

/-- The parts of a command line. -/
structure Phrase where
  stage : Stage
  before : List Bytes
  after : List Bytes
  mark : List Bytes
  command : List Bytes
  isVerbosity_before : IsVerbosity before
  isVerbosity_after : IsVerbosity after
  isMark : IsMark mark

namespace Phrase

def words (phrase : Phrase) : List Bytes :=
  phrase.before ++ Bytes.ofString phrase.stage.word ::
    (phrase.after ++ (phrase.mark ++ phrase.command))

/-- Whether verbosity is asked for anywhere. -/
def verbose (phrase : Phrase) : Bool :=
  !phrase.before.isEmpty || !phrase.after.isEmpty

/-- Nothing after the flags is taken for another one. -/
def Begins (phrase : Phrase) : Prop :=
  phrase.mark = [] → ∀ word ∈ phrase.command.head?, ¬ IsOwnWord phrase.stage word

end Phrase

/-- A command line is accepted as an invocation, with or without verbosity. -/
def Accepts (words : List Bytes) (verbose : Bool) (invocation : Invocation) : Prop :=
  ∃ request, parse words = .ok request ∧ request.verbose = verbose ∧
    request.invocation = .ok invocation

/-! ### Flags -/

/-- The only flag after which reading goes on is the first verbose flag of its place. -/
theorem apply_eq_ok_iff {flag : Flag} {stage : Option Stage} {verbose later : Bool} :
    flag.apply stage verbose = .ok later ↔
      flag = .verbose ∧ verbose = false ∧ later = true := by
  cases flag with
  | verbose => cases verbose <;> simp [Flag.apply, eq_comm]
  | help => simp [Flag.apply]
  | version => simp [Flag.apply]

theorem short?_eq_verbose_iff {letter : UInt8} :
    Flag.short? letter = some .verbose ↔ letter = 0x76 := by
  unfold Flag.short?
  split <;> simp_all

/-- The only group of short flags after which reading goes on is the verbose flag alone. -/
theorem eq_verbose_of_applyCluster {stage : Option Stage} {verbose later : Bool}
    {letters : Bytes} (nonempty : letters ≠ [])
    (applied : applyCluster stage verbose letters = .ok later) :
    letters = [0x76] ∧ verbose = false ∧ later = true := by
  cases letters with
  | nil => exact absurd rfl nonempty
  | cons letter rest =>
      unfold applyCluster at applied
      cases isFlag : Flag.short? letter with
      | none => simp [isFlag] at applied
      | some flag =>
          simp only [isFlag] at applied
          obtain ⟨between, isFirst, applied⟩ := except_bind_eq_ok_iff.1 applied
          obtain ⟨rfl, rfl, rfl⟩ := apply_eq_ok_iff.1 isFirst
          obtain rfl := short?_eq_verbose_iff.1 isFlag
          cases rest with
          | nil =>
              cases applied
              exact ⟨rfl, rfl, rfl⟩
          | cons second rest =>
              unfold applyCluster at applied
              cases isSecond : Flag.short? second with
              | none => simp [isSecond] at applied
              | some other =>
                  simp only [isSecond] at applied
                  obtain ⟨last, again, -⟩ := except_bind_eq_ok_iff.1 applied
                  exact absurd (apply_eq_ok_iff.1 again).2.1 (by simp)

theorem nonempty_of_cluster? {word letters : Bytes} (read : cluster? word = some letters) :
    letters ≠ [] ∧ word = 0x2D :: letters := by
  unfold cluster? at read
  split at read
  · split at read
    · cases read
    · cases read
      exact ⟨List.cons_ne_nil _ _, rfl⟩
  · cases read

theorem isVerbosity_of_long {word name : Bytes} {stage : Option Stage} {flag : Flag}
    {verbose later : Bool} (read : long? word = some (name, none))
    (named : Flag.named? (Flag.known stage) name = some flag)
    (applied : flag.apply stage verbose = .ok later) :
    IsVerbosity [word] ∧ verbose = false ∧ later = true := by
  obtain ⟨rfl, rfl, rfl⟩ := apply_eq_ok_iff.1 applied
  have isName : Bytes.ofString Flag.verbose.word = name := by
    simpa using List.find?_some named
  obtain ⟨-, rfl⟩ := eq_longWord_of_long? read
  have isLong : longWord name none = verboseLong := by
    rw [← isName]
    rfl
  rw [isLong]
  exact ⟨.long, rfl, rfl⟩

theorem isVerbosity_of_short {word letters : Bytes} {stage : Option Stage}
    {verbose later : Bool} (read : cluster? word = some letters)
    (applied : applyCluster stage verbose letters = .ok later) :
    IsVerbosity [word] ∧ verbose = false ∧ later = true := by
  obtain ⟨nonempty, rfl⟩ := nonempty_of_cluster? read
  obtain ⟨rfl, rfl, rfl⟩ := eq_verbose_of_applyCluster nonempty applied
  exact ⟨.short, rfl, rfl⟩

/-! ### Reading after a stage -/

/-- What stands after a stage on a command line that is read as a request. -/
structure Follows (stage : Stage) (before verbose : Bool) (words : List Bytes)
    (request : Request) (after mark : List Bytes) : Prop where
  played : request.stage = stage
  words : words = after ++ (mark ++ request.words)
  isVerbosity : IsVerbosity after
  once : verbose = true → after = []
  isMark : IsMark mark
  verbose : request.verbose = (before || (verbose || !after.isEmpty))
  begins : mark = [] → ∀ word ∈ request.words.head?, ¬ IsOwnWord stage word

/-- A flag in front of what follows a stage is part of that. -/
theorem Follows.flag {stage : Stage} {before : Bool} {word : Bytes} {rest : List Bytes}
    {request : Request} {after mark : List Bytes} (isVerbosity : IsVerbosity [word])
    (follows : Follows stage before true rest request after mark) :
    Follows stage before false (word :: rest) request [word] mark where
  played := follows.played
  words := by
    have whole := follows.words
    rw [follows.once rfl] at whole
    rw [whole]
    rfl
  isVerbosity := isVerbosity
  once := nofun
  isMark := follows.isMark
  verbose := by rw [follows.verbose, follows.once rfl]; rfl
  begins := follows.begins

theorem follows_of_begins {stage : Stage} {before verbose : Bool} {word : Bytes}
    {rest : List Bytes} {request : Request}
    (begins : .ok ⟨before || verbose, stage, word :: rest⟩ = (.ok request : Except Refusal Request))
    (read : parseStage stage before verbose (word :: rest) = .ok request) :
    Follows stage before verbose (word :: rest) request [] [] := by
  cases begins
  refine ⟨rfl, rfl, .absent, fun _ => rfl, .absent, ?_, fun _ other first => ?_⟩
  · simp
  · obtain rfl : word = other := Option.some.inj first
    exact parseStage_eq_begins_iff.1 read

/-- What follows a stage is read as the verbose flag or nothing, the end of the options or
nothing, and the command. -/
theorem exists_follows {stage : Stage} {before verbose : Bool} {words : List Bytes}
    {request : Request} (read : parseStage stage before verbose words = .ok request) :
    ∃ after mark, Follows stage before verbose words request after mark := by
  induction words generalizing verbose with
  | nil => simp [parseStage] at read
  | cons word rest hypothesis =>
      have whole := read
      have later {between : Bool} (isVerbosity : IsVerbosity [word])
          (same : verbose = false ∧ between = true)
          (read : parseStage stage before between rest = .ok request) :
          ∃ after mark, Follows stage before verbose (word :: rest) request after mark := by
        obtain ⟨rfl, rfl⟩ := same
        obtain ⟨after, mark, follows⟩ := hypothesis read
        exact ⟨[word], mark, follows.flag isVerbosity⟩
      unfold parseStage at read
      simp only at read
      split at read
      · next isEscape =>
          subst isEscape
          cases rest with
          | nil => cases read
          | cons first rest =>
              cases read
              exact ⟨[], [escape], rfl, rfl, .absent, fun _ => rfl, .escape, by simp, nofun⟩
      · split at read
        · next isLong =>
            split at read
            · split at read
              · exact ⟨[], [], follows_of_begins read whole⟩
              · cases read
            · cases read
            · next named =>
                obtain ⟨between, applied, read⟩ := except_bind_eq_ok_iff.1 read
                obtain ⟨isVerbosity, same⟩ := isVerbosity_of_long isLong named applied
                exact later isVerbosity same read
        · split at read
          · exact ⟨[], [], follows_of_begins read whole⟩
          · next isCluster =>
              split at read
              · obtain ⟨between, applied, read⟩ := except_bind_eq_ok_iff.1 read
                obtain ⟨isVerbosity, same⟩ := isVerbosity_of_short isCluster applied
                exact later isVerbosity same read
              · exact ⟨[], [], follows_of_begins read whole⟩

/-- After a stage, verbosity is read as such. -/
theorem parseStage_verbosity {after : List Bytes} (isVerbosity : IsVerbosity after)
    (stage : Stage) (before : Bool) (rest : List Bytes) :
    parseStage stage before false (after ++ rest) =
      parseStage stage before (!after.isEmpty) rest := by
  cases isVerbosity with
  | absent => rfl
  | short => cases stage <;> rfl
  | long => cases stage <;> rfl

/-- What is left after the flags is the command, unless it begins with a word of the stage's
own. -/
theorem parseStage_mark {stage : Stage} {mark command : List Bytes} (isMark : IsMark mark)
    (nonempty : command ≠ [])
    (begins : mark = [] → ∀ word ∈ command.head?, ¬ IsOwnWord stage word) (before verbose : Bool) :
    parseStage stage before verbose (mark ++ command) =
      .ok ⟨before || verbose, stage, command⟩ := by
  cases command with
  | nil => exact absurd rfl nonempty
  | cons word rest =>
      cases isMark with
      | absent =>
          exact parseStage_of_not_isOwnWord (begins rfl word rfl) before verbose rest
      | escape => rfl

/-! ### Whole command lines -/

theorem parseFrom_stage (verbose : Bool) (stage : Stage) (rest : List Bytes) :
    parseFrom verbose (Bytes.ofString stage.word :: rest) =
      parseStage stage verbose false rest := by
  cases stage <;> rfl

theorem parseFrom_verbosity {before : List Bytes} (isVerbosity : IsVerbosity before)
    (rest : List Bytes) :
    parseFrom false (before ++ rest) = parseFrom (!before.isEmpty) rest := by
  cases isVerbosity with
  | absent => rfl
  | short => rfl
  | long => rfl

/-- A phrase is read as its own parts say. -/
theorem parse_words {phrase : Phrase} (begins : phrase.Begins) (nonempty : phrase.command ≠ []) :
    parse phrase.words = .ok ⟨phrase.verbose, phrase.stage, phrase.command⟩ := by
  rw [parse, Phrase.words, parseFrom_verbosity phrase.isVerbosity_before, parseFrom_stage,
    parseStage_verbosity phrase.isVerbosity_after, parseStage_mark phrase.isMark nonempty begins]
  rfl

/-- Up to the stage, what is read is verbosity. -/
theorem exists_stage_of_parseFrom {verbose : Bool} {words : List Bytes} {request : Request}
    (read : parseFrom verbose words = .ok request) :
    ∃ before stage rest, words = before ++ Bytes.ofString stage.word :: rest ∧
      IsVerbosity before ∧ (verbose = true → before = []) ∧
      parseStage stage (verbose || !before.isEmpty) false rest = .ok request := by
  induction words generalizing verbose with
  | nil => simp [parseFrom] at read
  | cons word rest hypothesis =>
      have later {between : Bool} (isVerbosity : IsVerbosity [word])
          (same : verbose = false ∧ between = true)
          (read : parseFrom between rest = .ok request) :
          ∃ before stage after, word :: rest = before ++ Bytes.ofString stage.word :: after ∧
            IsVerbosity before ∧ (verbose = true → before = []) ∧
            parseStage stage (verbose || !before.isEmpty) false after = .ok request := by
        obtain ⟨rfl, rfl⟩ := same
        obtain ⟨before, stage, after, rfl, -, once, read⟩ := hypothesis read
        rw [once rfl] at read ⊢
        exact ⟨[word], stage, after, rfl, isVerbosity, (absurd · Bool.false_ne_true), read⟩
      unfold parseFrom at read
      split at read
      · cases read
      · split at read
        · next isOuter =>
            exact ⟨[], .outer, rest, by rw [isOuter]; rfl, .absent, fun _ => rfl,
              by simpa using read⟩
        · split at read
          · next isInner =>
              exact ⟨[], .inner, rest, by rw [isInner]; rfl, .absent, fun _ => rfl,
                by simpa using read⟩
          · split at read
            · cases read
            · split at read
              · next isLong =>
                  split at read
                  · cases read
                  · cases read
                  · next named =>
                      obtain ⟨between, applied, read⟩ := except_bind_eq_ok_iff.1 read
                      obtain ⟨isVerbosity, same⟩ := isVerbosity_of_long isLong named applied
                      exact later isVerbosity same read
              · split at read
                · cases read
                · next isCluster =>
                    obtain ⟨between, applied, read⟩ := except_bind_eq_ok_iff.1 read
                    obtain ⟨isVerbosity, same⟩ := isVerbosity_of_short isCluster applied
                    exact later isVerbosity same read

/-- Every command line that is read is a phrase. -/
theorem exists_phrase_of_parse {words : List Bytes} {request : Request}
    (read : parse words = .ok request) :
    ∃ phrase : Phrase, words = phrase.words ∧ phrase.Begins ∧ request.stage = phrase.stage ∧
      request.verbose = phrase.verbose ∧ request.words = phrase.command := by
  obtain ⟨before, stage, rest, rfl, isBefore, -, read⟩ := exists_stage_of_parseFrom read
  obtain ⟨after, mark, played, rfl, isAfter, -, isMark, verbose, begins⟩ := exists_follows read
  refine ⟨⟨stage, before, after, mark, request.words, isBefore, isAfter, isMark⟩, rfl, begins,
    played, ?_, rfl⟩
  rw [verbose, Bool.false_or, Bool.false_or]
  rfl

/-- A command line is accepted exactly if it is a phrase whose command does not begin with a
word of the stage's own, and then as the phrase says. -/
theorem accepts_iff {words : List Bytes} {verbose : Bool} {invocation : Invocation} :
    Accepts words verbose invocation ↔
      ∃ phrase : Phrase, words = phrase.words ∧ phrase.Begins ∧ verbose = phrase.verbose ∧
        invocation.stage = phrase.stage ∧ invocation.command.words = phrase.command := by
  constructor
  · rintro ⟨request, read, rfl, invoked⟩
    obtain ⟨sameStage, sameWords⟩ := invocation_eq_ok_iff.1 invoked
    obtain ⟨phrase, whole, begins, stage, verbose, command⟩ := exists_phrase_of_parse read
    exact ⟨phrase, whole, begins, verbose, sameStage.symm.trans stage, sameWords.trans command⟩
  · rintro ⟨phrase, rfl, begins, rfl, stage, command⟩
    have nonempty : phrase.command ≠ [] := by
      rw [← command]
      exact List.cons_ne_nil _ _
    exact ⟨_, parse_words begins nonempty, rfl, invocation_eq_ok_iff.2 ⟨stage.symm, command⟩⟩

/-- A word that does not begin with a dash is not a word of the stage's own. -/
theorem head?_eq_dash_of_isOwnWord {stage : Stage} {word : Bytes} (own : IsOwnWord stage word) :
    word.head? = some 0x2D := by
  cases own with
  | escape => rfl
  | long name value plain taken => rfl
  | short letters nonempty taken => rfl

theorem Accepts.unique {words : List Bytes} {verbose other : Bool}
    {invocation another : Invocation} (accepts : Accepts words verbose invocation)
    (acceptsToo : Accepts words other another) : verbose = other ∧ invocation = another := by
  obtain ⟨request, read, rfl, invoked⟩ := accepts
  obtain ⟨requestToo, readToo, rfl, invokedToo⟩ := acceptsToo
  obtain rfl := Except.ok.inj (read.symm.trans readToo)
  exact ⟨rfl, Except.ok.inj (invoked.symm.trans invokedToo)⟩

/-- The command line is taken verbatim.  What is accepted is a phrase that ends with the words of
the command, and every phrase is accepted as it stands whose command has a program that may be
run and that stands behind the end of the options or does not begin with a dash. -/
theorem taken_verbatim :
    (∀ words verbose invocation, Accepts words verbose invocation →
      ∃ (phrase : Phrase) (program : Bytes) (args : List Bytes),
        words = phrase.words ∧ phrase.command = program :: args ∧
          program ≠ [] ∧ (0 : UInt8) ∉ program ∧
          (verbose = true ↔ phrase.before ≠ [] ∨ phrase.after ≠ []) ∧
          invocation.stage = phrase.stage ∧ invocation.command.program = program ∧
          invocation.command.args = args) ∧
    ∀ (phrase : Phrase) (program : Bytes) (args : List Bytes),
      phrase.command = program :: args → program ≠ [] → (0 : UInt8) ∉ program →
        (phrase.mark = [escape] ∨ program.head? ≠ some 0x2D) →
        ∃ command : Command, command.program = program ∧ command.args = args ∧
          ∀ verbose invocation, Accepts phrase.words verbose invocation ↔
            verbose = phrase.verbose ∧ invocation = ⟨phrase.stage, command⟩ := by
  constructor
  · intro words verbose invocation accepts
    obtain ⟨phrase, whole, -, rfl, stage, command⟩ := accepts_iff.1 accepts
    refine ⟨phrase, invocation.command.program, invocation.command.args, whole, command.symm,
      invocation.command.program_ne_nil, invocation.command.nul_notMem_program, ?_, stage, rfl,
      rfl⟩
    simp [Phrase.verbose]
  · intro phrase program args isCommand nonempty noNul foreign
    refine ⟨⟨program, args, nonempty, noNul⟩, rfl, rfl, fun verbose invocation => ?_⟩
    have begins : phrase.Begins := by
      intro unmarked word first own
      rw [isCommand] at first
      obtain rfl : program = word := Option.some.inj first
      rcases foreign with marked | foreign
      · simp [unmarked] at marked
      · exact foreign (head?_eq_dash_of_isOwnWord own)
    have accepted : Accepts phrase.words phrase.verbose
        ⟨phrase.stage, ⟨program, args, nonempty, noNul⟩⟩ :=
      accepts_iff.2 ⟨phrase, rfl, begins, rfl, rfl, isCommand.symm⟩
    constructor
    · intro accepts
      exact accepts.unique accepted
    · rintro ⟨rfl, rfl⟩
      exact accepted

/-- Behind the end of the options, the word that asks for help is the program, and later words
are arguments whatever they look like. -/
def helpPhrase : Phrase where
  stage := .outer
  before := [OuterStage.verboseWord]
  after := [verboseLong]
  mark := [escape]
  command := [Bytes.ofString "--help", escape, OuterStage.verboseWord, [], [0xFF]]
  isVerbosity_before := .short
  isVerbosity_after := .long
  isMark := .escape

theorem accepts_helpPhrase : ∃ command : Command,
    command.words = helpPhrase.command ∧ Accepts helpPhrase.words true ⟨.outer, command⟩ ∧
      ∃ phrase : Phrase, helpPhrase.words = phrase.words ∧ phrase.command = command.words := by
  obtain ⟨command, program, args, accepts⟩ := taken_verbatim.2 helpPhrase
    (Bytes.ofString "--help") [escape, OuterStage.verboseWord, [], [0xFF]] rfl (by decide)
    (by decide) (.inl rfl)
  have accepted := (accepts true ⟨.outer, command⟩).2 ⟨rfl, rfl⟩
  obtain ⟨phrase, name, rest, whole, isCommand, -, -, -, -, sameName, sameRest⟩ :=
    taken_verbatim.1 _ _ _ accepted
  have words : command.words = helpPhrase.command := by
    rw [Command.words, program, args]
    rfl
  refine ⟨command, words, accepted, phrase, whole, ?_⟩
  rw [isCommand, Command.words, sameName, sameRest]

end CommandLine

end HostnameSandbox
