import HostnameSandbox.Text.Bytes

/-!
# Stored bytes

What is stored in a file can be long, is read and written at places, and grows at its end.
-/

namespace HostnameSandbox

/-- What is stored in a file. -/
abbrev Data := ByteArray

namespace Data

/-- Nothing. -/
def none : Data := ByteArray.empty

/-- The data that bytes are. -/
def ofBytes (bytes : Bytes) : Data := bytes.toByteArray

/-- The bytes of data. -/
def toBytes (data : Data) : Bytes := data.toList

/-- The bytes from a place on, at most so many. -/
def piece (data : Data) (offset limit : Nat) : Bytes :=
  (data.extract offset (offset + limit)).toList

/-- Data with bytes written over it from a place on; a gap in front of them is filled with zeros. -/
def overwrite (data : Data) (offset : Nat) (bytes : Bytes) : Data :=
  let written := ofBytes bytes
  if offset = data.size then data ++ written
  else
    data.extract 0 offset ++ ofBytes (List.replicate (offset - data.size) 0) ++ written ++
      data.extract (offset + written.size) data.size

end Data

end HostnameSandbox
