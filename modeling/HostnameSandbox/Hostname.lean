/-!
# Host names

The name that a fresh UTS namespace is given: a text of 1 to 64 bytes without NUL, which is
what the kernel can hold.
-/

namespace HostnameSandbox

/-- Why a text is not a host name. -/
inductive InvalidHostname where
  | empty
  | tooLong
  | nulByte
deriving DecidableEq, Repr

/-- The most bytes that a host name may have. -/
def Hostname.maxLength : Nat := 64

/-- A name for a host. -/
structure Hostname where
  text : String
  text_ne_empty : text ≠ ""
  size_le : text.utf8ByteSize ≤ Hostname.maxLength
  nul_notMem : '\x00' ∉ text.toList
deriving DecidableEq

namespace Hostname

/-- The host name with this text. -/
def new (text : String) : Except InvalidHostname Hostname :=
  if empty : text = "" then .error .empty
  else if long : maxLength < text.utf8ByteSize then .error .tooLong
  else if nul : '\x00' ∈ text.toList then .error .nulByte
  else .ok ⟨text, empty, Nat.le_of_not_lt long, nul⟩

/-- A text makes a host name exactly if it is the text of the host name. -/
theorem new_eq_ok_iff {text : String} {hostname : Hostname} :
    new text = .ok hostname ↔ hostname.text = text := by
  constructor
  · intro made
    unfold new at made
    split at made
    · simp at made
    · split at made
      · simp at made
      · split at made
        · simp at made
        · cases made
          rfl
  · intro same
    cases hostname with
    | mk name name_ne_empty name_size_le nul_notMem =>
        cases same
        simp [new, name_ne_empty, Nat.not_lt.2 name_size_le, nul_notMem]

/-- Reads a host name from its text, by the same rules as `new`. -/
def parse (text : String) : Except InvalidHostname Hostname :=
  new text

/-- The name given when no other is asked for, which marks the inside of a sandbox. -/
def marker : Hostname :=
  ⟨"inside-container", by decide, by decide, by decide⟩

end Hostname

/-- What a reader is told about a text that is not a host name. -/
def InvalidHostname.text : InvalidHostname → String
  | .empty => "hostname cannot be empty"
  | .tooLong => "hostname too long (max " ++ toString Hostname.maxLength ++ " bytes)"
  | .nulByte => "hostname cannot contain NUL bytes"

end HostnameSandbox
