import HostnameSandbox.Proofs.Logging.Paths

/-!
# Loading beside what is logged

The file that things are logged to is open for writing, so that nobody runs it; whatever else is
looked up is found in the same way on hosts that differ only in what is logged.
-/

namespace HostnameSandbox

namespace FileTree

variable {sink : Channel} {one two : FileTree}

/-- File trees that differ only in what is in the file that things are logged to, and hold the same
programs. -/
structure Alike (sink : Channel) (one two : FileTree) : Prop where
  places : SamePlaces sink one two
  programs : ∀ data, one.programOf? data = two.programOf? data

theorem programOf?_append {data : Data} {entries others : List (Place × Node)} :
    programOf? ⟨entries ++ others⟩ data =
      (programOf? ⟨entries⟩ data).or (programOf? ⟨others⟩ data) := by
  unfold programOf?
  split
  · simp only [List.findSome?_append]
  · rfl

theorem programOf?_muted {tree : FileTree} (textual : tree.Textual sink) (data : Data) :
    (tree.muted sink).programOf? data = tree.programOf? data := by
  unfold programOf?
  split
  · refine findSome?_muted textual fun entry result chosen => ?_
    obtain ⟨place, node⟩ := entry
    dsimp only at chosen
    split at chosen
    · exact ⟨_, _, rfl⟩
    · cases chosen
  · rfl

end FileTree

namespace Loading

/-- Loads a file, where `interpret` goes on with the interpreter that a text names. -/
def loadWith (files : FileTree) (luggage : Luggage) (origin : Place)
    (interpret : Bytes → Option Bytes → Except Errno Loaded) (path : Bytes)
    (words : List Bytes) : Except Errno Loaded := do
  match ← files.resolve origin path with
  | (place, .file mode content) =>
      luggage.admit place mode
      match content with
      | .program program => .ok ⟨lastName path, FileTree.pathOf place, program, words⟩
      | .text data =>
          match interpreter? (data.piece 0 lineLimit) with
          | none =>
              match files.programOf? data with
              | some program => .ok ⟨lastName path, FileTree.pathOf place, program, words⟩
              | none => .error .badFormat
          | some (name, argument) => interpret name argument
  | _ => .error .accessDenied

/-- An interpreter that may not be a text itself. -/
def loadLast (files : FileTree) (luggage : Luggage) (origin : Place) (name : Bytes) :
    Except Errno Loaded := do
  match ← files.resolve origin name with
  | (place, .file mode _) =>
      luggage.admit place mode
      .error .linkLoop
  | _ => .error .accessDenied

section

variable (files : FileTree) (luggage : Luggage) (origin : Place) (path : Bytes)
  (words : List Bytes)

theorem loadNested_zero :
    loadNested files luggage origin 0 path words =
      loadWith files luggage origin (fun name _ => loadLast files luggage origin name) path
        words := by
  delta loadNested loadWith loadLast
  change (files.resolve origin path >>= _) = (files.resolve origin path >>= _)
  congr 1
  funext entry
  obtain ⟨place, node⟩ := entry
  cases node with
  | file mode content =>
      cases content with
      | program program => rfl
      | text data =>
          change ( luggage.admit place mode >>= _) = ( luggage.admit place mode >>= _)
          congr 1
          funext _
          cases read : interpreter? (data.piece 0 lineLimit) <;> simp only [read] <;> rfl
  | _ => rfl

theorem loadNested_succ (nesting : Nat) :
    loadNested files luggage origin (nesting + 1) path words =
      loadWith files luggage origin
        (fun name argument =>
          if name.isEmpty then .error .accessDenied
          else loadNested files luggage origin nesting name
            (name :: argument.toList ++ path :: words.tail))
        path words := by
  conv => lhs; delta loadNested
  delta loadWith
  change (files.resolve origin path >>= _) = (files.resolve origin path >>= _)
  congr 1
  funext entry
  obtain ⟨place, node⟩ := entry
  cases node with
  | file mode content =>
      cases content with
      | program program => rfl
      | text data =>
          change ( luggage.admit place mode >>= _) = ( luggage.admit place mode >>= _)
          congr 1
          funext _
          cases read : interpreter? (data.piece 0 lineLimit) with
          | none => simp only [read] <;> rfl
          | some named =>
              simp only [read]
              delta loadNested
              rfl
  | _ => rfl

end

/-- What comes of loading is the same but for the words, which are related. -/
inductive Matches (related : List Bytes → List Bytes → Prop) :
    Except Errno Loaded → Except Errno Loaded → Prop
  | error (errno : Errno) : Matches related (.error errno) (.error errno)
  | ok (name path : Bytes) (program : Program) {words others : List Bytes}
      (same : related words others) :
      Matches related (.ok ⟨name, path, program, words⟩) (.ok ⟨name, path, program, others⟩)

/-- Words stay related when what they begin with is replaced. -/
def Carries (related : List Bytes → List Bytes → Prop) : Prop :=
  ∀ (before : List Bytes) (path : Bytes) (words others : List Bytes), related words others →
    related (before ++ path :: words.tail) (before ++ path :: others.tail)

theorem carries_eq : Carries (· = ·) :=
  fun _ _ _ _ same => by rw [same]

variable {sink : Channel} {one two : FileTree} {luggage other : Luggage}
  {related : List Bytes → List Bytes → Prop}

/-- Nobody may run what things are logged to. -/
def Luggage.Guards (luggage : Luggage) (sink : Channel) : Prop :=
  ∀ place, Channel.file place = sink → luggage.written.contains place

theorem Luggage.admit_congr (same : luggage.written = other.written) (place : Place) (mode : Nat) :
    luggage.admit place mode = other.admit place mode := by
  unfold Luggage.admit
  rw [same]

theorem Luggage.Guards.admit (guards : luggage.Guards sink) {place : Place}
    (is : Channel.file place = sink) (mode : Nat) : ∃ errno, luggage.admit place mode = .error errno := by
  unfold Luggage.admit
  split
  · exact ⟨_, rfl⟩
  · rw [guards place is]
    exact ⟨_, rfl⟩

/-- The words of one program fit as well as those of the other. -/
def Fit (one two : FileTree) (luggage other : Luggage) (origin : Place) (path : Bytes)
    (words others : List Bytes) : Prop :=
  (load one luggage origin path words ≠ .error .argumentsTooLong ∧
      load two other origin path others ≠ .error .argumentsTooLong) ∨
    luggage.isExceeded path words = other.isExceeded path others

section

variable (alike : FileTree.Alike sink one two) (same : luggage.written = other.written)
  (guards : luggage.Guards sink)
include alike same guards

theorem loadWith_matches (origin : Place) {interpret goOn : Bytes → Option Bytes → Except Errno Loaded}
    (interprets : ∀ name argument, Matches related (interpret name argument) (goOn name argument))
    (path : Bytes) {words others : List Bytes} (relates : related words others) :
    Matches related (loadWith one luggage origin interpret path words)
      (loadWith two other origin goOn path others) := by
  unfold loadWith
  rcases alike.places.resolve origin path with found | ⟨place, mode, content, second, is, first, second⟩
  · rw [found]
    cases two.resolve origin path with
    | error errno => exact .error errno
    | ok entry =>
        obtain ⟨place, node⟩ := entry
        cases node with
        | file mode content =>
            simp only [bind, Except.bind, Luggage.admit_congr same]
            cases other.admit place mode with
            | error errno => exact .error errno
            | ok _ =>
                cases content with
                | program program => exact .ok _ _ program relates
                | text data =>
                    dsimp only
                    cases interpreter? (data.piece 0 lineLimit) with
                    | some named => exact interprets named.1 named.2
                    | none =>
                        dsimp only
                        rw [alike.programs]
                        cases two.programOf? data with
                        | none => exact .error .badFormat
                        | some program => exact .ok _ _ program relates
        | _ => exact .error .accessDenied
  · obtain ⟨errno, refused⟩ := guards.admit is mode
    simp only [first, second, bind, Except.bind, ← Luggage.admit_congr same, refused]
    exact .error errno

theorem loadLast_matches (origin : Place) (name : Bytes) :
    Matches related (loadLast one luggage origin name) (loadLast two other origin name) := by
  unfold loadLast
  rcases alike.places.resolve origin name with found | ⟨place, mode, content, second, is, first, second⟩
  · rw [found]
    cases two.resolve origin name with
    | error errno => exact .error errno
    | ok entry =>
        obtain ⟨place, node⟩ := entry
        cases node with
        | file mode content =>
            simp only [bind, Except.bind, Luggage.admit_congr same]
            cases other.admit place mode with
            | error errno => exact .error errno
            | ok _ => exact .error .linkLoop
        | _ => exact .error .accessDenied
  · obtain ⟨errno, refused⟩ := guards.admit is mode
    simp only [first, second, bind, Except.bind, ← Luggage.admit_congr same, refused]
    exact .error errno

theorem loadNested_matches (carries : Carries related) (origin : Place) (nesting : Nat)
    (path : Bytes) {words others : List Bytes} (relates : related words others) :
    Matches related (loadNested one luggage origin nesting path words)
      (loadNested two other origin nesting path others) := by
  induction nesting generalizing path words others with
  | zero =>
      rw [loadNested_zero, loadNested_zero]
      exact loadWith_matches alike same guards origin
        (fun name _ => loadLast_matches alike same guards origin name) path relates
  | succ nesting hypothesis =>
      rw [loadNested_succ, loadNested_succ]
      refine loadWith_matches alike same guards origin (fun name argument => ?_) path relates
      split
      · exact .error .accessDenied
      · exact hypothesis name (carries _ path words others relates)

theorem load_matches (carries : Carries related) (origin : Place) (path : Bytes)
    {words others : List Bytes} (relates : related words others)
    (fit : Fit one two luggage other origin path words others) :
    Matches related (load one luggage origin path words) (load two other origin path others) := by
  unfold Fit load at fit
  unfold load
  rcases alike.places.resolve origin path with
    found | ⟨place, mode, content, second, is, first, second⟩
  · rw [found] at fit ⊢
    cases resolved : two.resolve origin path with
    | error errno => exact .error errno
    | ok entry =>
        obtain ⟨place, node⟩ := entry
        cases node with
        | file mode content =>
            simp only [resolved, bind, Except.bind, Luggage.admit_congr same] at fit ⊢
            cases admitted : other.admit place mode with
            | error errno => exact .error errno
            | ok _ =>
                simp only [admitted] at fit ⊢
                have even : luggage.isExceeded path words = other.isExceeded path others := by
                  rcases fit with ⟨fits, fitsToo⟩ | even
                  · have short : luggage.isExceeded path words = false :=
                      Bool.eq_false_iff.2 fun long => fits (if_pos long)
                    have shortToo : other.isExceeded path others = false :=
                      Bool.eq_false_iff.2 fun long => fitsToo (if_pos long)
                    rw [short, shortToo]
                  · exact even
                rw [even]
                split
                · exact .error _
                · have loads := loadNested_matches alike same guards carries origin
                    nestingLimit path relates
                  generalize loadNested one luggage origin nestingLimit path words = loaded
                    at loads
                  generalize loadNested two other origin nestingLimit path others = loadedToo
                    at loads
                  cases loads with
                  | error errno => exact .error errno
                  | ok name path program relates => exact .ok _ _ program relates
        | _ => exact .error .accessDenied
  · obtain ⟨errno, refused⟩ := guards.admit is mode
    simp only [first, second, bind, Except.bind, ← Luggage.admit_congr same, refused]
    exact .error errno

theorem loadOrInterpret_matches (carries : Carries related) (origin : Place) (path : Bytes)
    {words others : List Bytes} (relates : related words others)
    (fits : loadOrInterpret one luggage origin path words ≠ .error .argumentsTooLong)
    (fitsToo : loadOrInterpret two other origin path others ≠ .error .argumentsTooLong) :
    Matches related (loadOrInterpret one luggage origin path words)
      (loadOrInterpret two other origin path others) := by
  have loadsFirst {files : FileTree} {luggage : Luggage} {words : List Bytes}
      (fits : loadOrInterpret files luggage origin path words ≠ .error .argumentsTooLong) :
      load files luggage origin path words ≠ .error .argumentsTooLong := fun long => by
    simp only [loadOrInterpret, long] at fits
    exact fits rfl
  have loads := load_matches alike same guards carries origin path relates
    (.inl ⟨loadsFirst fits, loadsFirst fitsToo⟩)
  unfold loadOrInterpret at fits fitsToo ⊢
  generalize load one luggage origin path words = loaded at loads fits ⊢
  generalize load two other origin path others = loadedToo at loads fitsToo ⊢
  cases loads with
  | ok name path program relates => exact .ok name path program relates
  | error errno =>
      dsimp only at fits fitsToo ⊢
      split
      · next unformed =>
          rw [if_pos unformed] at fits fitsToo
          exact load_matches alike same guards carries origin shellPath
            (carries [shellPath] path words others relates) (.inl ⟨fits, fitsToo⟩)
      · exact .error errno

end

section

variable {attempt tries : Bytes → Except Errno Loaded}
  (attempts : ∀ path, attempt path ≠ .error .argumentsTooLong →
    tries path ≠ .error .argumentsTooLong → Matches related (attempt path) (tries path))
include attempts

theorem search_matches (name : Bytes) (denied : Bool) (latest : Errno) (directories : List Bytes)
    (fits : search attempt name denied latest directories ≠ .error .argumentsTooLong)
    (fitsToo : search tries name denied latest directories ≠ .error .argumentsTooLong) :
    Matches related (search attempt name denied latest directories)
      (search tries name denied latest directories) := by
  have stops : ¬ isPassedOver .argumentsTooLong := by decide
  induction directories generalizing denied latest with
  | nil => exact .error _
  | cons directory rest hypothesis =>
      simp only [search] at fits fitsToo ⊢
      generalize (if directory.isEmpty then name else directory ++ FileTree.slash :: name) = path
        at fits fitsToo ⊢
      have found := attempts path (fun long => by simp [long, stops] at fits)
        (fun long => by simp [long, stops] at fitsToo)
      generalize attempt path = first at found fits ⊢
      generalize tries path = second at found fitsToo ⊢
      cases found with
      | ok name path program relates => exact .ok name path program relates
      | error errno =>
          dsimp only at fits fitsToo ⊢
          split
          · next passed =>
              rw [if_pos passed] at fits fitsToo
              exact hypothesis _ _ fits fitsToo
          · exact .error errno

theorem locate_matches (directories : List Bytes) (name : Bytes)
    (fits : locate attempt directories name ≠ .error .argumentsTooLong)
    (fitsToo : locate tries directories name ≠ .error .argumentsTooLong) :
    Matches related (locate attempt directories name) (locate tries directories name) := by
  unfold locate at fits fitsToo ⊢
  split
  · exact .error .noEntry
  · next named =>
      rw [if_neg named] at fits fitsToo
      split
      · next slashed =>
          rw [if_pos slashed] at fits fitsToo
          exact attempts name fits fitsToo
      · next plain =>
          rw [if_neg plain] at fits fitsToo
          split
          · exact .error .nameTooLong
          · next short =>
              rw [if_neg short] at fits fitsToo
              exact search_matches attempts name false .noEntry directories fits fitsToo

end

end Loading

end HostnameSandbox
