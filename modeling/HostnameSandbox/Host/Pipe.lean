import HostnameSandbox.Text.Bytes

/-!
# Pipes

A pipe holds what has been written to it on a number of pages until it is read.  A page is free
again once all its bytes have been read; a short piece goes onto the page of the one before if it
fits there, and otherwise begins a page of its own.
-/

namespace HostnameSandbox

/-- A page of a pipe: how much has been written onto it, and what of that has not been read. -/
structure Page where
  used : Nat
  bytes : Bytes
deriving DecidableEq, Repr

/-- The pages of a pipe that hold something, the one that is read first in front. -/
structure Pipe where
  pages : List Page
deriving DecidableEq, Repr

namespace Pipe

/-- A pipe that nothing has been written to. -/
def empty : Pipe := ⟨[]⟩

/-- How much a page has room for. -/
def pageSize : Nat := 4096

/-- How many pages a pipe has. -/
def pageCount : Nat := 16

/-- What has not been read. -/
def bytes (pipe : Pipe) : Bytes := pipe.pages.flatMap Page.bytes

/-- Whether no page is free. -/
def isFull (pipe : Pipe) : Bool := pageCount ≤ pipe.pages.length

/-- Writes bytes onto free pages, of which there are so many; what remains is given too. -/
def fill : Nat → Bytes → List Page × Bytes
  | 0, bytes => ([], bytes)
  | free + 1, bytes =>
      if bytes.isEmpty then ([], [])
      else
        let piece := bytes.take pageSize
        let (pages, rest) := fill free (bytes.drop pageSize)
        (⟨piece.length, piece⟩ :: pages, rest)

/-- Begins to write a piece: a short one, or the beginning of a longer one, goes onto the last page if
it fits there.  What remains is given too. -/
def join (pipe : Pipe) (bytes : Bytes) : Pipe × Bytes :=
  let length := bytes.length % pageSize
  match pipe.pages.getLast? with
  | some page =>
      if page.used + length ≤ pageSize then
        (⟨pipe.pages.dropLast ++ [⟨page.used + length, page.bytes ++ bytes.take length⟩]⟩,
          bytes.drop length)
      else (pipe, bytes)
  | none => (pipe, bytes)

/-- Writes bytes onto free pages, as far as there are some; what remains is given too. -/
def put (pipe : Pipe) (bytes : Bytes) : Pipe × Bytes :=
  let (pages, rest) := fill (pageCount - pipe.pages.length) bytes
  (⟨pipe.pages ++ pages⟩, rest)

/-- Reads at most so many bytes from pages. -/
def takeFrom : Nat → List Page → Bytes × List Page
  | _, [] => ([], [])
  | limit, page :: pages =>
      let unread := page.bytes.drop limit
      if unread.isEmpty then
        let (rest, pages) := takeFrom (limit - page.bytes.length) pages
        (page.bytes ++ rest, pages)
      else (page.bytes.take limit, { page with bytes := unread } :: pages)

/-- Reads at most so many bytes. -/
def take (pipe : Pipe) (limit : Nat) : Bytes × Pipe :=
  let (bytes, pages) := takeFrom limit pipe.pages
  (bytes, ⟨pages⟩)

end Pipe

end HostnameSandbox
