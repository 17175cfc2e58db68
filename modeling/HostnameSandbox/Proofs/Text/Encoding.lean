import HostnameSandbox.Text.Lossy
import Mathlib.Algebra.Group.Nat.Defs

/-!
# Characters that have begun

The encoding of a character is a first byte, which tells how many bytes follow, and these, with six
bits of the number of the character in each.  What the decoder remembers of a character that has
begun is which numbers it may still have, and these are exactly the numbers of the characters whose
encodings begin with the bytes that have been read.
-/

namespace HostnameSandbox

namespace Lossy

/-! ### The encoding of a character -/

/-- The first byte of the encoding of a character. -/
def leading (number : Nat) : Nat :=
  if number ≤ 0x7F then number
  else if number ≤ 0x7FF then number / 64 + 0xC0
  else if number ≤ 0xFFFF then number / 4096 + 0xE0
  else number / 262144 + 0xF0

/-- How many bytes follow the first one. -/
def trailingCount (number : Nat) : Nat :=
  if number ≤ 0x7F then 0
  else if number ≤ 0x7FF then 1
  else if number ≤ 0xFFFF then 2
  else 3

/-- The last bytes of the encoding of a character, as many as are due. -/
def trailing (number : Nat) : Nat → Bytes
  | 0 => []
  | due + 1 => UInt8.ofNat (number / 64 ^ due % 64 + 0x80) :: trailing number due

theorem trailing_of_pos {due : Nat} (positive : 0 < due) (number : Nat) : trailing number due =
    UInt8.ofNat (number / 64 ^ (due - 1) % 64 + 0x80) :: trailing number (due - 1) := by
  cases due with
  | zero => exact absurd positive (Nat.lt_irrefl 0)
  | succ due => rfl

/-- A byte that holds six bits is not cut. -/
theorem toNat_ofNat_trailing (number : Nat) :
    (UInt8.ofNat (number % 64 + 0x80)).toNat = number % 64 + 0x80 := by
  refine UInt8.toNat_ofNat_of_lt' ?_
  change _ < 256
  omega

/-- Encodings are of four lengths. -/
theorem leading_cases (number : Nat) :
    (number ≤ 0x7F ∧ leading number = number ∧ trailingCount number = 0) ∨
    (0x7F < number ∧ number ≤ 0x7FF ∧ leading number = number / 64 + 0xC0 ∧
      trailingCount number = 1) ∨
    (0x7FF < number ∧ number ≤ 0xFFFF ∧ leading number = number / 4096 + 0xE0 ∧
      trailingCount number = 2) ∨
    (0xFFFF < number ∧ leading number = number / 262144 + 0xF0 ∧ trailingCount number = 3) := by
  unfold leading trailingCount
  by_cases one : number ≤ 0x7F
  · simp [one]
  by_cases two : number ≤ 0x7FF
  · simp [one, two]
    omega
  by_cases three : number ≤ 0xFFFF
  · simp [one, two, three]
    omega
  · simp [one, two, three]
    omega

theorem toNat_le (char : Char) : char.toNat ≤ 0x10FFFF := by
  have valid : char.toNat.isValidChar := char.valid
  unfold Nat.isValidChar at valid
  omega

theorem toNat_ofNat {number : Nat} (valid : number.isValidChar) :
    (Char.ofNat number).toNat = number := by
  rw [Char.ofNat, dif_pos valid]
  rfl

theorem toNat_ofNat_leading (char : Char) :
    (UInt8.ofNat (leading char.toNat)).toNat = leading char.toNat := by
  have kind := leading_cases char.toNat
  have bound := toNat_le char
  refine UInt8.toNat_ofNat_of_lt' ?_
  change _ < 256
  omega

theorem utf8EncodeChar_eq (char : Char) : String.utf8EncodeChar char =
    UInt8.ofNat (leading char.toNat) :: trailing char.toNat (trailingCount char.toNat) := by
  have number : char.val.toNat = char.toNat := rfl
  have bound := toNat_le char
  unfold String.utf8EncodeChar leading trailingCount
  simp only [number]
  split
  · rfl
  split
  · have whole : char.toNat / 64 % 0x20 = char.toNat / 64 := Nat.mod_eq_of_lt (by omega)
    simp [trailing, whole]
  split
  · have whole : char.toNat / 4096 % 0x10 = char.toNat / 4096 := Nat.mod_eq_of_lt (by omega)
    simp [trailing, whole]
  · have whole : char.toNat / 262144 % 0x08 = char.toNat / 262144 := Nat.mod_eq_of_lt (by omega)
    simp [trailing, whole]

/-- A byte below 0x80 is the whole encoding of a character. -/
theorem utf8EncodeChar_ofNat {byte : UInt8} (ascii : byte < 0x80) :
    String.utf8EncodeChar (Char.ofNat byte.toNat) = [byte] := by
  have small : byte.toNat < 0x80 := UInt8.lt_iff_toNat_lt.1 ascii
  have is : (Char.ofNat byte.toNat).toNat = byte.toNat := toNat_ofNat (.inl (by omega))
  obtain ⟨-, first, count⟩ | _ | _ | _ := leading_cases byte.toNat
  · rw [utf8EncodeChar_eq, is, first, count, UInt8.ofNat_toNat, trailing]
  all_goals omega

/-- No encoding begins with another one. -/
theorem utf8EncodeChar_append_inj {one other : Char} {rest later : Bytes}
    (same : String.utf8EncodeChar one ++ rest = String.utf8EncodeChar other ++ later) :
    one = other ∧ rest = later := by
  have decoded := congrArg (fun bytes : Bytes => bytes.toByteArray.utf8DecodeChar? 0) same
  simp only [List.toByteArray_append, ByteArray.utf8DecodeChar?_utf8EncodeChar_append,
    Option.some.injEq] at decoded
  subst decoded
  exact ⟨rfl, List.append_cancel_left same⟩

/-! ### What a first byte tells -/

namespace Begun

/-- A number that the character may still turn out to have. -/
def Fits (begun : Begun) (number : Nat) : Prop :=
  number / 64 ^ begun.due = begun.bits ∧
    begun.low.toNat ≤ number / 64 ^ (begun.due - 1) % 64 + 0x80 ∧
    number / 64 ^ (begun.due - 1) % 64 + 0x80 ≤ begun.high.toNat

/-- Some byte may come next, and none that holds anything but six bits. -/
structure Ranged (begun : Begun) : Prop where
  low_ge : 0x80 ≤ begun.low.toNat
  low_le : begun.low.toNat ≤ begun.high.toNat
  high_le : begun.high.toNat ≤ 0xBF

/-- The numbers that fit are those of the characters that have a first byte. -/
structure Starts (begun : Begun) (byte : UInt8) : Prop extends begun.Ranged where
  due_pos : 0 < begun.due
  fits_iff : ∀ number, begun.Fits number ↔ number.isValidChar ∧ leading number = byte.toNat
  count : ∀ number, leading number = byte.toNat → trailingCount number = begun.due

theorem starts_of_begin? {begun : Begun} {byte : UInt8} (begins : begin? byte = some begun) :
    begun.Starts byte := by
  have small := byte.toNat_lt
  -- one case for each range of first bytes
  unfold begin? at begins
  simp only [UInt8.le_iff_toNat_le, ← UInt8.toNat_inj, UInt8.reduceToNat] at begins
  repeat' split at begins
  all_goals cases begins
  all_goals exact {
    low_ge := by simp
    low_le := by simp
    high_le := by simp
    due_pos := by simp
    fits_iff := fun number => by
      have kind := leading_cases number
      simp only [Fits, Nat.isValidChar, UInt8.reduceToNat, Nat.reduceSub, Nat.reducePow]
      omega
    count := fun number first => by
      have kind := leading_cases number
      dsimp only
      omega }

end Begun

/-- A byte above 0x7F that begins no character is the first byte of none. -/
theorem leading_ne_of_begin? {byte : UInt8} (high : 0x80 ≤ byte) (none : begin? byte = none)
    (char : Char) : leading char.toNat ≠ byte.toNat := by
  intro first
  have kind := leading_cases char.toNat
  have valid : char.toNat.isValidChar := char.valid
  unfold begin? at none
  unfold Nat.isValidChar at valid
  simp only [UInt8.le_iff_toNat_le, ← UInt8.toNat_inj, UInt8.reduceToNat] at none high
  repeat' split at none
  all_goals cases none
  omega

/-! ### What the next bytes tell -/

namespace Begun

/-- A byte that goes on with the character. -/
def Continues (begun : Begun) (byte : UInt8) : Prop :=
  begun.low ≤ byte ∧ byte ≤ begun.high

/-- What is known of the character after one more byte. -/
def after (begun : Begun) (byte : UInt8) : Begun :=
  ⟨begun.due - 1, 0x80, 0xBF, 64 * begun.bits + byte.toNat % 64⟩

/-- The numbers that fit are those of the characters whose encodings begin with some bytes. -/
structure Opens (begun : Begun) (part : Bytes) : Prop extends begun.Ranged where
  nonempty : part ≠ []
  valid : ∀ number, begun.Fits number → number.isValidChar
  encodes : ∀ char : Char, begun.Fits char.toNat →
    String.utf8EncodeChar char = part ++ trailing char.toNat begun.due
  fits : ∀ char : Char, part <+: String.utf8EncodeChar char → begun.Fits char.toNat

variable {begun : Begun} {part : Bytes} {byte : UInt8} {char : Char}

theorem Starts.opens (starts : begun.Starts byte) : begun.Opens [byte] where
  toRanged := starts.toRanged
  nonempty := List.cons_ne_nil byte []
  valid number fits := ((starts.fits_iff number).1 fits).1
  encodes char fits := by
    obtain ⟨-, first⟩ := (starts.fits_iff char.toNat).1 fits
    rw [utf8EncodeChar_eq, starts.count _ first, first, UInt8.ofNat_toNat, List.singleton_append]
  fits char begins := by
    rw [utf8EncodeChar_eq, List.cons_prefix_cons] at begins
    refine (starts.fits_iff char.toNat).2 ⟨char.valid, ?_⟩
    rw [begins.1, toNat_ofNat_leading]

/-- Of the numbers that fit, those still fit after one more byte that have its bits next. -/
theorem Opens.fits_after_iff (opens : begun.Opens part) (due : 0 < begun.due)
    (continues : begun.Continues byte) (number : Nat) :
    (begun.after byte).Fits number ↔ begun.Fits number ∧
      UInt8.ofNat (number / 64 ^ (begun.due - 1) % 64 + 0x80) = byte := by
  have low := UInt8.le_iff_toNat_le.1 continues.1
  have high := UInt8.le_iff_toNat_le.1 continues.2
  have low_ge := opens.low_ge
  have high_le := opens.high_le
  have upper : number / 64 ^ begun.due = number / 64 ^ (begun.due - 1) / 64 := by
    rw [Nat.div_div_eq_div_mul, ← Nat.pow_succ, Nat.succ_eq_add_one, Nat.sub_add_cancel due]
  simp only [Fits, after, upper, ← UInt8.toNat_inj, UInt8.reduceToNat, toNat_ofNat_trailing]
  generalize number / 64 ^ (begun.due - 1) = bits
  omega

/-- A byte that goes on with the encoding of a character continues it. -/
theorem Opens.continues_of_prefix (opens : begun.Opens part) (due : 0 < begun.due)
    (goesOn : part ++ [byte] <+: String.utf8EncodeChar char) :
    begun.Continues byte ∧ (begun.after byte).Fits char.toNat := by
  have fits := opens.fits char ((List.prefix_append part [byte]).trans goesOn)
  rw [opens.encodes char fits, List.prefix_append_right_inj, trailing_of_pos due,
    List.cons_prefix_cons] at goesOn
  have is := goesOn.1
  have continues : begun.Continues byte := by
    rw [Continues, UInt8.le_iff_toNat_le, UInt8.le_iff_toNat_le, is, toNat_ofNat_trailing]
    exact fits.2
  exact ⟨continues, (opens.fits_after_iff due continues char.toNat).2 ⟨fits, is.symm⟩⟩

theorem Opens.after (opens : begun.Opens part) (due : 0 < begun.due)
    (continues : begun.Continues byte) : (begun.after byte).Opens (part ++ [byte]) where
  low_ge := by simp [Begun.after]
  low_le := by simp [Begun.after]
  high_le := by simp [Begun.after]
  nonempty := by simp
  valid number fits := opens.valid number ((opens.fits_after_iff due continues number).1 fits).1
  encodes char fits := by
    obtain ⟨before, is⟩ := (opens.fits_after_iff due continues char.toNat).1 fits
    rw [opens.encodes char before, trailing_of_pos due, is, List.append_assoc]
    rfl
  fits char begins := (opens.continues_of_prefix due begins).2

/-- After the last byte one character is left. -/
theorem Opens.encodes_last (opens : begun.Opens part) (last : begun.due = 1)
    (continues : begun.Continues byte) :
    String.utf8EncodeChar (Char.ofNat (begun.after byte).bits) = part ++ [byte] := by
  have whole := opens.after (by omega) continues
  have none : (begun.after byte).due = 0 := by
    rw [Begun.after, last]
  have fits : (begun.after byte).Fits (begun.after byte).bits := by
    simp only [Fits, none]
    simp [Begun.after]
    omega
  have number := toNat_ofNat (whole.valid _ fits)
  rw [← number] at fits
  rw [whole.encodes _ fits, none, trailing, List.append_nil]

/-- A character that has begun can always be one. -/
theorem Opens.exists_fits (opens : begun.Opens part) (due : 0 < begun.due) :
    ∃ char : Char, begun.Fits char.toNat := by
  have low_ge := opens.low_ge
  have low_le := opens.low_le
  have high_le := opens.high_le
  obtain ⟨number, fits⟩ : ∃ number, begun.Fits number := by
    obtain ⟨later, isDue⟩ := Nat.exists_eq_succ_of_ne_zero (Nat.ne_of_gt due)
    refine ⟨(64 * begun.bits + (begun.low.toNat - 0x80)) * 64 ^ later, ?_⟩
    have positive : 0 < 64 ^ later := Nat.pow_pos (by omega)
    simp only [Fits, isDue, Nat.succ_eq_add_one, Nat.add_sub_cancel, Nat.pow_succ,
      ← Nat.div_div_eq_div_mul, Nat.mul_div_cancel _ positive]
    omega
  refine ⟨Char.ofNat number, ?_⟩
  rw [toNat_ofNat (opens.valid number fits)]
  exact fits

end Begun

end Lossy

end HostnameSandbox
