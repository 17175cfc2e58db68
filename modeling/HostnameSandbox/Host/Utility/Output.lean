import HostnameSandbox.Text.Bytes

/-!
# Output of everyday programs

A program collects what it writes piece by piece.  There is only so much room for what has been
collected: a piece for which there is none would first have to be written, and is lost if that
fails, together with everything before it.
-/

namespace HostnameSandbox

namespace Utility

/-- What a program has written, the latest piece first, and how many bytes of it would still be
collected if none of it could be written. -/
structure Output where
  pieces : List Bytes
  collected : Nat
deriving DecidableEq, Repr

namespace Output

/-- How many bytes may be collected. -/
def room : Nat := 4096

/-- No output. -/
def empty : Output := ⟨[], 0⟩

/-- What has been written. -/
def bytes (output : Output) : Bytes := output.pieces.reverse.flatten

/-- The output with a piece more, which is collected or lost as a whole. -/
def add (output : Output) (piece : Bytes) : Output :=
  let collected := output.collected + piece.length
  ⟨piece :: output.pieces, if collected ≤ room then collected else 0⟩

/-- The output with pieces of one byte each. -/
def addEach (output : Output) (bytes : Bytes) : Output :=
  ⟨bytes :: output.pieces, (output.collected + bytes.length) % (room + 1)⟩

/-- The output of pieces. -/
def ofPieces (pieces : List Bytes) : Output := pieces.foldl add empty

end Output

end Utility

end HostnameSandbox
