import HostnameSandbox.Event
import HostnameSandbox.Text.Quoted

/-!
# Log lines

An event on one line: the level flush right, the message, then the fields.  Characters by
which a message could steer a terminal are written as escapes.
-/

namespace HostnameSandbox

namespace Event

/-- A character of a message as it is logged. -/
def shownChar (char : Char) : String :=
  if char = '\x1b' then "\\x1b"
  else if char = '\x07' then "\\x07"
  else if char = '\x08' then "\\x08"
  else if char = '\x0c' then "\\x0c"
  else if char = '\x7f' then "\\x7f"
  else if 0x80 ≤ char.toNat && char.toNat ≤ 0x9F then
    "\\u\x7b" ++ Quoted.hexadecimal char.toNat ++ "\x7d"
  else char.toString

/-- A field as it is logged. -/
def Field.line (field : Field) : String :=
  let text := if field.quoted then HostnameSandbox.quoted field.text else field.text
  " " ++ field.name ++ "=" ++ text

/-- The line that logs an event, without its time and without its end. -/
def line (event : Event) : String :=
  let level := event.level.name
  let margin := String.ofList (List.replicate (5 - level.length) ' ')
  margin ++ level ++ " " ++ String.join (event.message.toList.map shownChar) ++
    String.join (event.fields.map Field.line)

end Event

end HostnameSandbox
