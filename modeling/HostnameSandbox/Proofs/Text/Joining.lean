import HostnameSandbox.Command
import HostnameSandbox.Proofs.Text.Subparts

/-!
# Showing joined raw texts

A byte of ASCII is part of no longer sequence, so that what stands before it is shown as if nothing
followed, and what stands after it as if nothing went before.  A command, whose words are shown one
by one with spaces between them, is therefore shown as its joined words are, and unchanged exactly
if every word is UTF-8.
-/

namespace HostnameSandbox

namespace Lossy

/-! ### What a byte of ASCII divides -/

namespace Decoder

/-- No byte of ASCII goes on with the character that has begun. -/
def EndsAtAscii (decoder : Decoder) : Prop :=
  ∀ begun ∈ decoder.begun, 0x80 ≤ begun.low.toNat

variable {decoder : Decoder} {byte : UInt8}

theorem endsAtAscii_readFirst (decoded : List Char) (byte : UInt8) :
    (readFirst decoded byte).EndsAtAscii := by
  unfold readFirst
  split
  · simp [EndsAtAscii]
  · split
    · next begun begins => simpa [EndsAtAscii] using (Begun.starts_of_begin? begins).low_ge
    · simp [EndsAtAscii]

theorem endsAtAscii_read (decoder : Decoder) (byte : UInt8) : (decoder.read byte).EndsAtAscii := by
  unfold read
  split
  · exact endsAtAscii_readFirst _ byte
  · split
    · dsimp only
      split
      · simp [EndsAtAscii]
      · simp [EndsAtAscii]
    · exact endsAtAscii_readFirst _ byte

theorem endsAtAscii_foldl (bytes : Bytes) : (bytes.foldl read start).EndsAtAscii := by
  rcases List.eq_nil_or_concat bytes with rfl | ⟨earlier, last, rfl⟩
  · simp [start, EndsAtAscii]
  · rw [List.concat_eq_append, List.foldl_append]
    exact endsAtAscii_read _ last

/-- A byte of ASCII is read when all before it has been finished. -/
theorem read_ascii (ends : decoder.EndsAtAscii) (ascii : byte < 0x80) :
    decoder.read byte =
      (⟨none, [Char.ofNat byte.toNat]⟩ : Decoder).following decoder.finish.reverse := by
  obtain ⟨begun?, decoded⟩ := decoder
  cases begun? with
  | none => simp [read, readFirst, ascii, following, finish]
  | some begun =>
      have low : 0x80 ≤ begun.low.toNat := ends begun rfl
      have breaks : ¬ begun.Continues byte := by
        rintro ⟨atLeast, -⟩
        have small := UInt8.lt_iff_toNat_lt.1 ascii
        have large := UInt8.le_iff_toNat_le.1 atLeast
        simp only [UInt8.reduceToNat] at small
        omega
      rw [read_of_not_continues breaks]
      simp [readFirst, ascii, following, finish]

end Decoder

open Decoder

theorem decode_append_cons {byte : UInt8} (ascii : byte < 0x80) (before after : Bytes) :
    decode (before ++ byte :: after) = decode before ++ Char.ofNat byte.toNat :: decode after := by
  unfold decode
  rw [List.foldl_append, List.foldl_cons, read_ascii (endsAtAscii_foldl before) ascii,
    finish_foldl_following, List.reverse_reverse]
  exact congrArg _ (finish_foldl_following start [Char.ofNat byte.toNat] after)

theorem decode_intercalate {byte : UInt8} (ascii : byte < 0x80) (words : List Bytes) :
    decode ([byte].intercalate words) = [Char.ofNat byte.toNat].intercalate (words.map decode) := by
  induction words with
  | nil => rfl
  | cons word words hypothesis =>
      cases words with
      | nil => simp
      | cons next words =>
          simp only [List.map_cons, List.intercalate_cons_cons, List.append_assoc,
            List.singleton_append, decode_append_cons ascii, hypothesis]

/-! ### What is shown unchanged -/

/-- What is shown is never shorter: what stands for a lost part has three bytes, and no part that is
lost has more. -/
theorem Shows.length_le {bytes : Bytes} {shown : List Char} (shows : Shows bytes shown) :
    bytes.length ≤ (shown.flatMap String.utf8EncodeChar).length := by
  induction shows with
  | none => exact Nat.le_refl 0
  | char char _ hypothesis => simpa using hypothesis
  | @subpart part rest shown lost _ hypothesis =>
      have short : part.length ≤ 3 := by
        rcases lost.subpart with single | ⟨char, begins⟩
        · omega
        · have unfinished : part.length ≠ (String.utf8EncodeChar char).length := fun same =>
            lost.unconvertible char (begins.eq_of_length same ▸ lost.isPrefix)
          have atMost := begins.length_le
          have four := char.utf8Size_le_four
          rw [String.length_utf8EncodeChar] at unfinished atMost
          omega
      have three : (String.utf8EncodeChar replacement).length = 3 := rfl
      rw [List.flatMap_cons, List.length_append, List.length_append, three]
      omega

/-- Characters are shown as themselves. -/
theorem decode_flatMap_utf8EncodeChar (chars : List Char) :
    decode (chars.flatMap String.utf8EncodeChar) = chars := by
  have shows : Shows (chars.flatMap String.utf8EncodeChar) chars := by
    induction chars with
    | nil => exact .none
    | cons char chars hypothesis => exact .char char hypothesis
  exact (shows_iff.1 shows).symm

end Lossy

namespace Bytes

open Lossy

/-- What is shown for the bytes has the same bytes. -/
def ShownUnchanged (bytes : Bytes) : Prop :=
  ofString bytes.lossy = bytes

theorem ofString_lossy (bytes : Bytes) :
    ofString bytes.lossy = (decode bytes).flatMap String.utf8EncodeChar := by
  rw [ofString, lossy, String.toList_ofList]

/-- Exactly the bytes of texts are shown unchanged. -/
theorem shownUnchanged_iff {bytes : Bytes} :
    bytes.ShownUnchanged ↔ ∃ text, ofString text = bytes := by
  constructor
  · intro unchanged
    exact ⟨bytes.lossy, unchanged⟩
  · rintro ⟨text, rfl⟩
    rw [ShownUnchanged, ofString_lossy, ofString, decode_flatMap_utf8EncodeChar]

theorem shownUnchanged_append_cons_iff {byte : UInt8} (ascii : byte < 0x80) {before after : Bytes} :
    (before ++ byte :: after).ShownUnchanged ↔ before.ShownUnchanged ∧ after.ShownUnchanged := by
  simp only [ShownUnchanged, ofString_lossy, decode_append_cons ascii, List.flatMap_append,
    List.flatMap_cons, utf8EncodeChar_ofNat ascii, List.singleton_append]
  have first := (shows_iff.2 rfl : Shows before (decode before)).length_le
  have second := (shows_iff.2 rfl : Shows after (decode after)).length_le
  constructor
  · intro same
    -- neither part is shorter when it is shown, and together they are as long as before
    have lengths := congrArg List.length same
    simp only [List.length_append, List.length_cons] at lengths
    obtain ⟨left, right⟩ := List.append_inj same (by omega)
    exact ⟨left, (List.cons.inj right).2⟩
  · rintro ⟨left, right⟩
    rw [left, right]

theorem shownUnchanged_intercalate_iff {byte : UInt8} (ascii : byte < 0x80) {words : List Bytes} :
    ShownUnchanged ([byte].intercalate words) ↔ ∀ word ∈ words, ShownUnchanged word := by
  induction words with
  | nil => exact ⟨nofun, fun _ => rfl⟩
  | cons word words hypothesis =>
      cases words with
      | nil => simp
      | cons next words =>
          rw [List.intercalate_cons_cons, List.append_assoc, List.singleton_append,
            shownUnchanged_append_cons_iff ascii, hypothesis]
          exact List.forall_mem_cons.symm

theorem lossy_intercalate_space (words : List Bytes) :
    lossy ([0x20].intercalate words) = " ".intercalate (words.map lossy) := by
  rw [← String.toList_inj, String.toList_intercalate, lossy, String.toList_ofList,
    decode_intercalate (by decide), List.map_map]
  refine congrArg (List.intercalate [' ']) (List.map_congr_left fun word _ => ?_)
  rw [Function.comp_apply, lossy, String.toList_ofList]

end Bytes

namespace Command

/-- The words of a command as one raw text, with a space between one word and the next. -/
def joined (command : Command) : Bytes :=
  [0x20].intercalate command.words

theorem foldl_display (shown : String) (args : List Bytes) :
    args.foldl (fun shown arg => shown ++ " " ++ arg.lossy) shown =
      " ".intercalate (shown :: args.map Bytes.lossy) := by
  induction args generalizing shown with
  | nil => simp
  | cons arg args hypothesis =>
      rw [List.foldl_cons, hypothesis, String.intercalate_cons_append, List.map_cons,
        String.intercalate_cons_cons]

theorem display_eq_lossy (command : Command) : command.display = command.joined.lossy := by
  rw [display, foldl_display, joined, Bytes.lossy_intercalate_space]
  rfl

example : display ⟨[0x78, 0xF0, 0x9F, 0x98], [[], [0x80], [0xC3, 0xA9]], by decide, by decide⟩ =
    "x\uFFFD  \uFFFD é" := by
  decide

/-- A command is shown as its joined words are to be shown, and they are what is shown exactly if
each of them is the bytes of a text. -/
theorem shown_joined (command : Command) :
    command.display = command.joined.lossy ∧
    (∀ shown, Lossy.Shows command.joined shown ↔ shown = command.display.toList) ∧
    (Bytes.ofString command.display = command.joined ↔
      ∀ word ∈ command.words, ∃ text, Bytes.ofString text = word) := by
  refine ⟨command.display_eq_lossy, fun shown => ?_, ?_⟩
  · rw [display_eq_lossy, Bytes.lossy, String.toList_ofList]
    exact Lossy.shows_iff
  · rw [display_eq_lossy]
    refine (Bytes.shownUnchanged_intercalate_iff (by decide)).trans ?_
    exact forall₂_congr fun word _ => Bytes.shownUnchanged_iff

end Command

end HostnameSandbox
