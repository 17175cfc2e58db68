import HostnameSandbox.Process

/-!
# What conditions ask

Conditions ask something of a file or of two numbers.  What they ask is written in the same way
wherever conditions are understood.
-/

namespace HostnameSandbox

/-- What is asked of a file. -/
inductive FileQuestion where
  | isThere
  | isRegular
  | isDirectory
  | isDevice
  | isBlockDevice
  | isPipe
  | isLink
  | isSocket
  | hasSize
  | hasBits (bits : Nat)
  | isOwned
  | mayRead
  | mayWrite
  | mayExecute
deriving DecidableEq, Repr

namespace FileQuestion

/-- The questions by the letters that stand for them behind a hyphen. -/
def letters : List (Char × FileQuestion) :=
  [('e', .isThere), ('f', .isRegular), ('d', .isDirectory), ('c', .isDevice),
    ('b', .isBlockDevice), ('p', .isPipe), ('h', .isLink), ('L', .isLink), ('S', .isSocket),
    ('s', .hasSize), ('u', .hasBits 0o4000), ('g', .hasBits 0o2000), ('k', .hasBits 0o1000),
    ('O', .isOwned), ('G', .isOwned), ('r', .mayRead), ('w', .mayWrite), ('x', .mayExecute)]

/-- The answer for a file that is there.  Every file belongs to the one who asks. -/
def holds (question : FileQuestion) (facts : FileFacts) : Bool :=
  match question with
  | .isThere | .isOwned => true
  | .isRegular => facts.kind = .regular
  | .isDirectory => facts.kind = .directory
  | .isDevice => facts.kind = .device
  | .isPipe => facts.kind = .pipe
  | .isLink => facts.kind = .link
  | .isBlockDevice | .isSocket => false
  | .hasSize => 0 < facts.size
  | .hasBits bits => facts.mode &&& bits != 0
  | .mayRead => facts.mayRead
  | .mayWrite => facts.mayWrite
  | .mayExecute => facts.mayExecute

/-- The answer for what a path leads to.  Only the question whether something is a link is not asked
of what the link leads to. -/
def ask (question : FileQuestion) (path : Bytes) : Process Bool := do
  match (← Process.ask (.examine path (question ≠ .isLink)) : Except Errno FileFacts) with
  | .ok facts => pure (question.holds facts)
  | .error _ => pure false

end FileQuestion

/-- What is asked of two numbers. -/
inductive Comparison where
  | equal
  | unequal
  | greaterOrEqual
  | greater
  | lessOrEqual
  | less
deriving DecidableEq, Repr

namespace Comparison

/-- The questions by the words that ask them. -/
def words : List (String × Comparison) :=
  [("-eq", .equal), ("-ne", .unequal), ("-ge", .greaterOrEqual), ("-gt", .greater),
    ("-le", .lessOrEqual), ("-lt", .less)]

/-- The answer for two numbers. -/
def holds (comparison : Comparison) (left right : Int) : Bool :=
  match comparison with
  | .equal => left == right
  | .unequal => left != right
  | .greaterOrEqual => decide (right ≤ left)
  | .greater => decide (right < left)
  | .lessOrEqual => decide (left ≤ right)
  | .less => decide (left < right)

end Comparison

end HostnameSandbox
