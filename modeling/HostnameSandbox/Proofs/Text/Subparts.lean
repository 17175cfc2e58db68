import HostnameSandbox.Proofs.Text.Encoding

/-!
# What is shown for raw text

Raw text is shown character by character.  Where no character can be read, the longest part that
begins one, or one byte if not even that begins one, is shown as one replacement.  The decoder shows
exactly this.
-/

namespace HostnameSandbox

namespace Lossy

/-! ### Maximal subparts -/

/-- The bytes are the first ones of the encoding of a character, perhaps all of it. -/
def Begins (part : Bytes) : Prop :=
  ∃ char, part <+: String.utf8EncodeChar char

/-- No character can be read from the bytes, and a part of them is all that is lost by that: the
longest that begins a character or is one byte. -/
structure MaximalSubpart (part bytes : Bytes) : Prop where
  nonempty : part ≠ []
  isPrefix : part <+: bytes
  unconvertible : ∀ char, ¬ String.utf8EncodeChar char <+: bytes
  subpart : part.length = 1 ∨ Begins part
  longest : ∀ other, other <+: bytes → other.length = 1 ∨ Begins other →
    other.length ≤ part.length

/-- What is shown for raw text: its characters, and one replacement for every maximal subpart of
what is none. -/
inductive Shows : Bytes → List Char → Prop
  | none : Shows [] []
  | char (char : Char) {rest : Bytes} {shown : List Char} (later : Shows rest shown) :
      Shows (String.utf8EncodeChar char ++ rest) (char :: shown)
  | subpart {part rest : Bytes} {shown : List Char} (lost : MaximalSubpart part (part ++ rest))
      (later : Shows rest shown) : Shows (part ++ rest) (replacement :: shown)

variable {begun : Begun} {bytes part rest : Bytes} {byte : UInt8} {shown : List Char}

theorem MaximalSubpart.unique {other : Bytes} (lost : MaximalSubpart part bytes)
    (lostToo : MaximalSubpart other bytes) : part = other := by
  have atMost := lostToo.longest part lost.isPrefix lost.subpart
  have atLeast := lost.longest other lostToo.isPrefix lostToo.subpart
  exact (List.prefix_of_prefix_length_le lost.isPrefix lostToo.isPrefix atMost).eq_of_length_le
    atLeast

/-- There is only one way to show raw text. -/
theorem Shows.unique (first : Shows bytes shown) {other : List Char} (second : Shows bytes other) :
    shown = other := by
  induction first generalizing other with
  | none =>
      generalize same : ([] : Bytes) = bytes at second
      cases second with
      | none => rfl
      | char => simp [utf8EncodeChar_eq] at same
      | subpart lost => exact absurd (List.append_eq_nil_iff.1 same.symm).1 lost.nonempty
  | @char char rest shown _ hypothesis =>
      generalize same : String.utf8EncodeChar char ++ rest = bytes at second
      cases second with
      | none => simp [utf8EncodeChar_eq] at same
      | char another later =>
          obtain ⟨rfl, rfl⟩ := utf8EncodeChar_append_inj same
          rw [hypothesis later]
      | subpart lost =>
          rw [← same] at lost
          exact absurd (List.prefix_append _ rest) (lost.unconvertible char)
  | @subpart part rest shown lost _ hypothesis =>
      generalize same : part ++ rest = bytes at second lost
      cases second with
      | none => exact absurd (List.append_eq_nil_iff.1 same).1 lost.nonempty
      | char char => exact absurd (List.prefix_append _ _) (lost.unconvertible char)
      | subpart lostToo later =>
          obtain rfl := lost.unique lostToo
          obtain rfl := List.append_cancel_left same
          rw [hypothesis later]

/-! ### What is lost -/

/-- What goes on with a character that has begun has a byte next that continues it. -/
theorem Begun.Opens.length_le_of_ends (opens : begun.Opens part) (due : 0 < begun.due)
    (ends : ∀ byte ∈ rest.head?, ¬ begun.Continues byte) {longer : Bytes} {char : Char}
    (here : longer <+: part ++ rest) (encoded : longer <+: String.utf8EncodeChar char) :
    longer.length ≤ part.length := by
  refine Nat.le_of_not_lt fun long => ?_
  obtain ⟨more, rfl⟩ := List.prefix_of_prefix_length_le (List.prefix_append part rest) here
    (Nat.le_of_lt long)
  rw [List.prefix_append_right_inj] at here
  cases more with
  | nil => simp at long
  | cons byte more =>
      obtain ⟨later, rfl⟩ := here
      have next : part ++ [byte] <+: part ++ byte :: more := by simp
      exact ends byte rfl (opens.continues_of_prefix due (next.trans encoded)).1

/-- A character that has begun and does not go on is a maximal subpart. -/
theorem Begun.Opens.maximalSubpart (opens : begun.Opens part) (due : 0 < begun.due)
    (ends : ∀ byte ∈ rest.head?, ¬ begun.Continues byte) : MaximalSubpart part (part ++ rest) := by
  obtain ⟨begunWith, fits⟩ := opens.exists_fits due
  have encodes := opens.encodes begunWith fits
  exact {
    nonempty := opens.nonempty
    isPrefix := List.prefix_append part rest
    unconvertible := fun char here => by
      have short := opens.length_le_of_ends due ends here (List.prefix_refl _)
      obtain ⟨more, rfl⟩ := List.prefix_of_prefix_length_le here (List.prefix_append part rest)
        short
      rw [List.append_assoc, ← List.append_nil (String.utf8EncodeChar begunWith)] at encodes
      obtain ⟨-, nothing⟩ := utf8EncodeChar_append_inj encodes
      rw [trailing_of_pos due] at nothing
      simp at nothing
    subpart := .inr ⟨begunWith, encodes ▸ List.prefix_append part _⟩
    longest := fun other here kind => by
      rcases kind with single | ⟨char, encoded⟩
      · rw [single]
        exact List.length_pos_iff.2 opens.nonempty
      · exact opens.length_le_of_ends due ends here encoded }

/-- A byte that begins no character is a maximal subpart. -/
theorem maximalSubpart_of_begin? (high : 0x80 ≤ byte) (none : begin? byte = none) (rest : Bytes) :
    MaximalSubpart [byte] ([byte] ++ rest) := by
  have first (char : Char) : ¬ [byte] <+: String.utf8EncodeChar char := by
    rw [utf8EncodeChar_eq, List.cons_prefix_cons]
    rintro ⟨is, -⟩
    refine leading_ne_of_begin? high none char ?_
    rw [is, toNat_ofNat_leading]
  exact {
    nonempty := List.cons_ne_nil byte []
    isPrefix := List.prefix_append [byte] rest
    unconvertible := fun char here => by
      refine first char ?_
      rw [utf8EncodeChar_eq] at here ⊢
      rw [(List.cons_prefix_cons.1 here).1]
      simp
    subpart := .inl rfl
    longest := fun other here kind => by
      rcases kind with single | ⟨char, encoded⟩
      · exact Nat.le_of_eq single
      · cases other with
        | nil => simp
        | cons another other =>
            obtain ⟨rfl, -⟩ := List.cons_prefix_cons.1 here
            exact absurd (List.IsPrefix.trans (by simp) encoded) (first char) }

/-! ### The decoder -/

namespace Decoder

/-- The decoder, with characters that have been decoded before. -/
def following (decoder : Decoder) (earlier : List Char) : Decoder :=
  { decoder with decoded := decoder.decoded ++ earlier }

theorem readFirst_following (decoded earlier : List Char) (byte : UInt8) :
    readFirst (decoded ++ earlier) byte = (readFirst decoded byte).following earlier := by
  unfold readFirst
  split
  · rfl
  · split <;> rfl

/-- What has been decoded before makes no difference to what is decoded now. -/
theorem read_following (decoder : Decoder) (earlier : List Char) (byte : UInt8) :
    (decoder.following earlier).read byte = (decoder.read byte).following earlier := by
  unfold read
  simp only [following]
  split
  · exact readFirst_following decoder.decoded earlier byte
  · split
    · split <;> rfl
    · exact readFirst_following (replacement :: decoder.decoded) earlier byte

theorem finish_following (decoder : Decoder) (earlier : List Char) :
    (decoder.following earlier).finish = earlier.reverse ++ decoder.finish := by
  unfold finish
  simp only [following]
  split <;> simp

theorem finish_foldl_following (decoder : Decoder) (earlier : List Char) (bytes : Bytes) :
    (bytes.foldl read (decoder.following earlier)).finish =
      earlier.reverse ++ (bytes.foldl read decoder).finish := by
  rw [← finish_following]
  exact congrArg finish (List.foldl_hom (following · earlier) fun decoder byte =>
    read_following decoder earlier byte)

theorem read_of_continues (continues : begun.Continues byte) (decoded : List Char) :
    read ⟨some begun, decoded⟩ byte =
      if begun.due ≤ 1 then ⟨none, Char.ofNat (begun.after byte).bits :: decoded⟩
      else ⟨some (begun.after byte), decoded⟩ :=
  if_pos continues

theorem read_of_not_continues (ends : ¬ begun.Continues byte) (decoded : List Char) :
    read ⟨some begun, decoded⟩ byte = (readFirst [] byte).following (replacement :: decoded) :=
  (if_neg ends).trans (readFirst_following [] (replacement :: decoded) byte)

/-- The decoder shows some bytes as they are to be shown, if it begins with them. -/
def ShowsRest (bytes : Bytes) : Prop :=
  Shows bytes (bytes.foldl read start).finish

/-- The decoder shows some bytes as they are to be shown, if they follow a character that has
begun. -/
def ShowsBegun (bytes : Bytes) : Prop :=
  ∀ begun part, begun.Opens part → 0 < begun.due →
    Shows (part ++ bytes) (bytes.foldl read ⟨some begun, []⟩).finish

theorem shows_readFirst (afresh : ShowsRest rest) (goesOn : ShowsBegun rest) (byte : UInt8) :
    Shows (byte :: rest) (rest.foldl read (readFirst [] byte)).finish := by
  unfold readFirst
  split
  · next ascii =>
      have shows := Shows.char (Char.ofNat byte.toNat) afresh
      rw [utf8EncodeChar_ofNat ascii] at shows
      exact finish_foldl_following start [Char.ofNat byte.toNat] rest ▸ shows
  · next high =>
      split
      · next begun begins =>
          have starts := Begun.starts_of_begin? begins
          exact goesOn begun [byte] starts.opens starts.due_pos
      · next none =>
          have lost := maximalSubpart_of_begin? (UInt8.not_lt.1 high) none rest
          exact finish_foldl_following start [replacement] rest ▸ .subpart lost afresh

/-- One more byte after a character that has begun either goes on with it, or is its last byte, or
leaves it unfinished. -/
theorem ShowsBegun.cons (afresh : ShowsRest rest) (goesOn : ShowsBegun rest) (byte : UInt8) :
    ShowsBegun (byte :: rest) := by
  intro begun part opens due
  rw [List.foldl_cons]
  by_cases continues : begun.Continues byte
  · rw [read_of_continues continues, ← List.singleton_append, ← List.append_assoc]
    split
    · next last =>
        rw [← opens.encodes_last (by omega) continues]
        exact finish_foldl_following start [Char.ofNat (begun.after byte).bits] rest ▸
          .char _ afresh
    · next more =>
        have later : 0 < (begun.after byte).due := Nat.sub_pos_of_lt (Nat.lt_of_not_le more)
        exact goesOn _ _ (opens.after due continues) later
  · rw [read_of_not_continues continues, finish_foldl_following]
    have lost : MaximalSubpart part (part ++ byte :: rest) :=
      opens.maximalSubpart due (by simpa using continues)
    exact .subpart lost (shows_readFirst afresh goesOn byte)

theorem shows_foldl (bytes : Bytes) : ShowsRest bytes ∧ ShowsBegun bytes := by
  induction bytes with
  | nil =>
      refine ⟨.none, fun begun part opens due => ?_⟩
      exact .subpart (opens.maximalSubpart due (by simp)) .none
  | cons byte rest hypothesis =>
      obtain ⟨afresh, goesOn⟩ := hypothesis
      exact ⟨shows_readFirst afresh goesOn byte, .cons afresh goesOn byte⟩

end Decoder

/-- The decoder shows raw text as it is to be shown. -/
theorem shows_iff : Shows bytes shown ↔ shown = decode bytes := by
  have decodes : Shows bytes (decode bytes) := (Decoder.shows_foldl bytes).1
  constructor
  · intro shows
    exact shows.unique decodes
  · rintro rfl
    exact decodes

/-- A sequence that is cut off is one replacement, what can be no part of one is a replacement for
each byte. -/
example : decode [0xE2, 0x82, 0x41, 0xED, 0xA0, 0x80, 0xF0, 0x90, 0x80] =
    [replacement, 'A', replacement, replacement, replacement, replacement] := by
  decide

end Lossy

end HostnameSandbox
