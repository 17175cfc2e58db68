import HostnameSandbox.Proofs.Logging.Sink

/-!
# Paths beside what is logged

What stands at a place is the same on hosts that differ only in what is logged, but for what is in
the file that things are logged to.  So every path leads to the same place on them, and a file that
is opened or created by a path is the same one.
-/

namespace HostnameSandbox

namespace FileTree

variable {sink : Channel} {one two : FileTree} {place : Place}

/-! ### Looking up -/

/-- The same stands everywhere, but for what is in the file that things are logged to. -/
def SamePlaces (sink : Channel) (one two : FileTree) : Prop :=
  ∀ place, one.find? place = two.find? place ∨
    Channel.file place = sink ∧ ∃ mode content other,
      one.find? place = some (.file mode content) ∧ two.find? place = some (.file mode other)

theorem find?_append (entries others : List (Place × Node)) (place : Place) :
    find? ⟨entries ++ others⟩ place = (find? ⟨entries⟩ place).or (find? ⟨others⟩ place) := by
  unfold find?
  split
  · rfl
  · simp only [List.find?_append, Option.map_or]

theorem samePlaces_of_muted (same : one.muted sink = two.muted sink) : SamePlaces sink one two := by
  intro place
  have found := find?_muted one sink place
  rw [same, find?_muted] at found
  by_cases is : Channel.file place = sink
  · cases first : one.find? place with
    | none =>
        rw [first, Option.map_none, Option.map_eq_none_iff] at found
        exact .inl found.symm
    | some node =>
        rw [first, Option.map_some, Option.map_eq_some_iff] at found
        obtain ⟨other, second, found⟩ := found
        cases node with
        | file mode content =>
            cases other with
            | file same other =>
                simp only [Node.muted, is, if_true, Node.file.injEq, and_true] at found
                obtain rfl : same = mode := found
                exact .inr ⟨is, same, content, other, rfl, second⟩
            | _ => cases found
        | _ =>
            cases other <;> cases found
            exact .inl second.symm
  · simp only [Node.muted_of_ne is, Option.map_id'] at found
    exact .inl found.symm

namespace SamePlaces

theorem walkWith (places : SamePlaces sink one two) (last : Bool)
    {follow goOn : Place → List Bytes → Except Errno Place}
    (same : ∀ place names, follow place names = goOn place names) (names : List Bytes)
    (place : Place) :
    one.walkWith last follow place names = two.walkWith last goOn place names := by
  induction names generalizing place with
  | nil => rfl
  | cons name rest hypothesis =>
      unfold FileTree.walkWith
      rcases places place with here | ⟨-, mode, content, other, first, second⟩
      · simp only [here, hypothesis, same]
        rcases places (place ++ [name]) with there | ⟨-, mode, content, other, first, second⟩
        · rw [there]
        · rw [first, second]
      · rw [first, second]

theorem walk (places : SamePlaces sink one two) (last : Bool) (links : Nat) (place : Place)
    (names : List Bytes) : one.walk last links place names = two.walk last links place names := by
  induction links generalizing place names with
  | zero => exact places.walkWith last (fun _ _ => rfl) names place
  | succ links hypothesis => exact places.walkWith last hypothesis names place

/-- What is looked up is the same, or is the file that things are logged to. -/
theorem lookUp (places : SamePlaces sink one two) (origin : Place) (path : Bytes) (last : Bool) :
    one.lookUp origin path last = two.lookUp origin path last ∨
      ∃ place mode content other, Channel.file place = sink ∧
        one.lookUp origin path last = .ok (place, .file mode content) ∧
        two.lookUp origin path last = .ok (place, .file mode other) := by
  unfold FileTree.lookUp
  rw [places.walk]
  split
  · exact .inl rfl
  · split
    · exact .inl rfl
    · cases FileTree.walk two last linkLimit (if isAbsolute path then [] else origin)
          (FileTree.names path) with
      | error errno => exact .inl rfl
      | ok place =>
          simp only [bind, Except.bind]
          rcases places place with same | ⟨is, mode, content, other, first, second⟩
          · exact .inl (by rw [same])
          · exact .inr ⟨place, mode, content, other, is, by rw [first], by rw [second]⟩

theorem resolve (places : SamePlaces sink one two) (origin : Place) (path : Bytes) :
    one.resolve origin path = two.resolve origin path ∨
      ∃ place mode content other, Channel.file place = sink ∧
        one.resolve origin path = .ok (place, .file mode content) ∧
        two.resolve origin path = .ok (place, .file mode other) :=
  places.lookUp origin path true

/-! ### Opening -/

theorem asksForDirectory (places : SamePlaces sink one two) (origin : Place) (path : Bytes) :
    one.asksForDirectory origin path = two.asksForDirectory origin path := by
  unfold FileTree.asksForDirectory
  dsimp only
  split
  · rfl
  · rcases places.resolve origin (splitPath (withoutSlashes path)).1 with
      same | ⟨place, mode, content, other, -, first, second⟩
    · rw [same]
    · rw [first, second]
      rfl

theorem creationPlace (places : SamePlaces sink one two) (links : Nat) (origin : Place)
    (path : Bytes) :
    one.creationPlace links origin path = two.creationPlace links origin path := by
  induction links generalizing origin path with
  | zero => rfl
  | succ links hypothesis =>
      unfold FileTree.creationPlace
      dsimp only
      split
      · rfl
      · rcases places.resolve origin (splitPath path).1 with
          same | ⟨place, mode, content, other, -, first, second⟩
        · rw [same]
          cases two.resolve origin (splitPath path).1 with
          | error errno => rfl
          | ok entry =>
              obtain ⟨place, node⟩ := entry
              cases node with
              | directory mode =>
                  simp only [bind, Except.bind]
                  rcases places (place ++ [(splitPath path).2]) with
                    there | ⟨-, mode, content, other, first, second⟩
                  · rw [there]
                    cases two.find? (place ++ [(splitPath path).2]) with
                    | none => rfl
                    | some node =>
                        cases node with
                        | link target => exact hypothesis place target
                        | _ => rfl
                  · rw [first, second]
              | _ => rfl
        · rw [first, second]
          rfl

end SamePlaces

/-- What comes of opening a file in two trees: the same file is opened, which is empty afterwards if
the tree changes. -/
inductive OpensAlike (one two : FileTree) :
    Except Errno (Channel × FileTree) → Except Errno (Channel × FileTree) → Prop
  | error (errno : Errno) : OpensAlike one two (.error errno) (.error errno)
  | found (channel : Channel) : OpensAlike one two (.ok (channel, one)) (.ok (channel, two))
  | emptied (place : Place) (mode : Nat) :
      OpensAlike one two (.ok (.file place, one.insert place (.file mode (.text .none))))
        (.ok (.file place, two.insert place (.file mode (.text .none))))

namespace SamePlaces

theorem openPlace (one two : FileTree) (place : Place) (mode : Nat) (how : OpenMode) :
    OpensAlike one two (one.openPlace place mode how) (two.openPlace place mode how) := by
  unfold FileTree.openPlace
  split
  · exact .error _
  · split
    · exact .emptied place mode
    · exact .found _

theorem openFile (places : SamePlaces sink one two) (origin : Place) (path : Bytes)
    (how : OpenMode) (mode : Nat) :
    OpensAlike one two (one.openFile origin path how mode) (two.openFile origin path how mode) := by
  have exclusive : (one.lookUp origin path false).toBool = (two.lookUp origin path false).toBool := by
    rcases places.lookUp origin path false with same | ⟨_, _, _, _, -, first, second⟩
    · rw [same]
    · rw [first, second]
      rfl
  unfold FileTree.openFile
  rw [places.asksForDirectory, exclusive]
  cases two.asksForDirectory origin path with
  | error errno => exact .error errno
  | ok asks =>
      simp only [bind, Except.bind]
      split
      · exact .error _
      · split
        · exact .error _
        · rcases places.resolve origin path with
            same | ⟨place, kept, content, other, -, first, second⟩
          · rw [same]
            cases two.resolve origin path with
            | error errno =>
                dsimp only
                rw [places.creationPlace]
                split
                · exact .error errno
                · cases two.creationPlace linkLimit origin path with
                  | error errno => exact .error errno
                  | ok place => exact .emptied place mode
            | ok entry =>
                obtain ⟨place, node⟩ := entry
                cases node with
                | directory kept =>
                    dsimp only
                    split
                    · exact .error _
                    · exact .found _
                | link target => exact .error _
                | file kept content => exact openPlace one two place kept how
                | device channel =>
                    have opens : OpensAlike one two
                        (if ownerMayOpen channel.mode how then .ok (channel, one)
                          else .error .accessDenied)
                        (if ownerMayOpen channel.mode how then .ok (channel, two)
                          else .error .accessDenied) := by
                      split
                      · exact .found _
                      · exact .error _
                    cases channel with
                    | terminal => exact .error _
                    | file other =>
                        dsimp only
                        rcases places other with
                          there | ⟨-, kept, content, also, first, second⟩
                        · rw [there]
                          cases two.find? other with
                          | none => exact .error _
                          | some node =>
                              cases node with
                              | file kept content => exact openPlace one two other kept how
                              | _ => exact .error _
                        · rw [first, second]
                          exact openPlace one two other kept how
                    | _ => exact opens
          · rw [first, second]
            exact openPlace one two place kept how

end SamePlaces

/-! ### Changed trees -/

/-- A change of trees that does not depend on what is in the file that things are logged to. -/
def Blind (sink : Channel) (change : FileTree → FileTree) : Prop :=
  ∀ tree, (change tree).muted sink = (change (tree.muted sink)).muted sink

theorem Blind.muted_eq {change : FileTree → FileTree} (blind : Blind sink change)
    (same : one.muted sink = two.muted sink) :
    (change one).muted sink = (change two).muted sink := by
  rw [blind one, same, ← blind two]

theorem muted_of_find? {tree : FileTree} {mode : Nat} {content : Content}
    (found : tree.find? place = some (.file mode content)) :
    tree.muted (.file place) =
      ⟨(tree.entries.filter fun entry => entry.1 != place) ++ [(place, .file mode (.text .none))]⟩ :=
  congrArg FileTree.mk (entries_muted found)

theorem find?_muted_self {tree : FileTree} {mode : Nat} {content : Content}
    (found : tree.find? place = some (.file mode content)) :
    (tree.muted (.file place)).find? place = some (.file mode (.text .none)) := by
  rw [find?_muted, found]
  simp [Node.muted]

/-- A change is blind if it is so where there is a file that things are logged to. -/
theorem blind_of_file {change : FileTree → FileTree}
    (files : ∀ place tree mode content, tree.find? place = some (.file mode content) →
      (change tree).muted (.file place) = (change (tree.muted (.file place))).muted (.file place)) :
    Blind sink change := by
  intro tree
  by_cases unfiled : ∀ place mode content, sink = .file place →
      tree.find? place ≠ some (.file mode content)
  · rw [muted_of_unfiled unfiled]
  · simp only [Classical.not_forall, ne_eq, Classical.not_not] at unfiled
    obtain ⟨place, mode, content, rfl, found⟩ := unfiled
    exact files place tree mode content found

theorem blind_append (entries : List (Place × Node)) :
    Blind sink fun tree => ⟨tree.entries ++ entries⟩ := by
  refine blind_of_file fun place tree mode content found => ?_
  have stays {tree : FileTree} {content : Content}
      (found : tree.find? place = some (.file mode content)) :
      find? ⟨tree.entries ++ entries⟩ place = some (.file mode content) := by
    rw [find?_append, found, Option.some_or]
  rw [muted_of_find? (stays found), muted_of_find? (stays (find?_muted_self found)),
    muted_of_find? found]
  simp [List.filter_filter]

theorem blind_insert (there : Place) (mode : Nat) (content : Content) :
    Blind sink fun tree => tree.insert there (.file mode content) := by
  refine blind_of_file fun place tree kept held found => ?_
  by_cases is : place = there
  · subst is
    have nonempty := ne_nil_of_find? found
    rw [muted_of_find? (find?_insert_self nonempty tree _),
      muted_of_find? (find?_insert_self nonempty (tree.muted (.file place)) _), muted_of_find? found]
    simp [insert, List.filter_filter]
  · have stays {tree : FileTree} {held : Content}
        (found : tree.find? place = some (.file kept held)) :
        (tree.insert there (.file mode content)).find? place = some (.file kept held) := by
      rw [find?_insert_of_ne is, found]
    rw [muted_of_find? (stays found), muted_of_find? (stays (find?_muted_self found)),
      muted_of_find? found]
    simp [insert, List.filter_filter, Ne.symm is, Bool.and_comm, Bool.and_left_comm]

/-- What stands at some places of a tree, and nothing else. -/
def among (tree : FileTree) (left : Place → Bool) : FileTree :=
  ⟨tree.entries.filter fun entry => left entry.1⟩

theorem find?_among {left : Place → Bool} (stands : left place) (tree : FileTree) :
    (tree.among left).find? place = tree.find? place := by
  unfold find? among
  dsimp only
  rw [List.find?_filter]
  congr 3
  funext entry
  by_cases is : entry.1 = place <;> simp [is, stands]

/-- Apart from the file that things are logged to, the same stands in a tree. -/
theorem among_muted {left : Place → Bool} (gone : ∀ place, sink = .file place → left place = false)
    (tree : FileTree) : (tree.muted sink).among left = tree.among left := by
  by_cases unfiled : ∀ place mode content, sink = .file place →
      tree.find? place ≠ some (.file mode content)
  · rw [muted_of_unfiled unfiled]
  · simp only [Classical.not_forall, ne_eq, Classical.not_not] at unfiled
    obtain ⟨place, mode, content, rfl, found⟩ := unfiled
    have gone := gone place rfl
    have apart (other : Place) : (left other && other != place) = left other := by
      by_cases is : other = place <;> simp [is, gone]
    rw [muted_of_find? found]
    simp [among, List.filter_filter, gone, apart]

theorem blind_among (left : Place → Bool) : Blind sink fun tree => tree.among left := by
  refine blind_of_file fun place tree mode content found => ?_
  cases stands : left place with
  | true =>
      have stays {tree : FileTree} {content : Content}
          (found : tree.find? place = some (.file mode content)) :
          (tree.among left).find? place = some (.file mode content) := by
        rw [← found, find?_among stands]
      rw [muted_of_find? (stays found), muted_of_find? (stays (find?_muted_self found)),
        muted_of_find? found]
      simp [among, List.filter_filter, stands, Bool.and_comm, Bool.and_left_comm]
  | false =>
      rw [among_muted fun other is => Channel.file.inj is ▸ stands]

/-! ### Directories -/

/-- The names in a directory that what is logged to is not in are the same. -/
theorem list_alike (same : one.muted sink = two.muted sink) {origin : Place} {path : Bytes}
    (hides : ∀ place mode, one.resolve origin path = .ok (place, .directory mode) →
      ∀ name, sink ≠ .file (place ++ [name])) :
    one.list origin path = two.list origin path := by
  unfold list
  rcases (samePlaces_of_muted same).resolve origin path with
    found | ⟨place, mode, content, other, -, first, second⟩
  · rw [← found]
    cases looked : one.resolve origin path with
    | error errno => rfl
    | ok entry =>
        obtain ⟨place, node⟩ := entry
        cases node with
        | directory mode =>
            have hides := hides place mode looked
            have inside : one.among (fun other => other.length = place.length + 1 &&
                  place.isPrefixOf other) =
                two.among fun other => other.length = place.length + 1 &&
                  place.isPrefixOf other := by
              have gone : ∀ other, sink = .file other → (decide (other.length = place.length + 1) &&
                  place.isPrefixOf other) = false := by
                intro other is
                cases within : place.isPrefixOf other with
                | false => exact Bool.and_false _
                | true =>
                    obtain ⟨rest, rfl⟩ := List.isPrefixOf_iff_prefix.1 within
                    rw [Bool.and_true, decide_eq_false_iff_not, List.length_append]
                    intro long
                    obtain ⟨name, rfl⟩ : ∃ name, rest = [name] :=
                      List.length_eq_one_iff.1 (by omega)
                    exact hides name is
              rw [← among_muted gone one, same, among_muted gone]
            have entries := congrArg FileTree.entries inside
            simp only [among] at entries
            simp only [bind, Except.bind, entries]
        | _ => rfl
  · rw [first, second]
    rfl

end FileTree

end HostnameSandbox
