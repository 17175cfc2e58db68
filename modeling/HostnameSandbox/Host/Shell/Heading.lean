import HostnameSandbox.Host.Shell.Lookup

/-!
# Words of a command

The first words of a command tell how the others are expanded: a command that gives values to
variables gets its arguments as if they were assignments.  `command` in front of another command
takes away what is special about that one.
-/

namespace HostnameSandbox

namespace Shell

/-- What the words of a command have come to. -/
structure Heading where
  /-- The fields that words have been expanded to. -/
  fields : List Bytes
  /-- The words that have not been expanded. -/
  words : List Word
  /-- How many fields stand in front of the command. -/
  place : Nat
  /-- The command, if the shell carries it out itself. -/
  builtin : Option Builtin
  /-- Whether the first field is a command with errors that end the shell, if the shell carries it
  out itself. -/
  isSpecial : Option Bool
  /-- Whether functions do not count. -/
  passesFunctions : Bool
  /-- The path in which the command is searched for, instead of the usual one. -/
  path : Option Bytes

namespace Heading

/-- The words of a command that nothing is known about. -/
def ofWords (words : List Word) : Heading := ⟨[], words, 0, none, none, false, none⟩

/-- The command with its arguments. -/
def call (heading : Heading) : List Bytes := heading.fields.drop heading.place

/-- Whether assignments in front of the command are forgotten after it. -/
def isLocal (heading : Heading) : Bool :=
  !heading.fields.isEmpty && !(heading.builtin.isSome && heading.isSpecial = some true)

/-- Whether the command changes open files for good, or turns into a program. -/
def isExec (heading : Heading) : Bool := heading.builtin.any fun found => found.name = "exec"

section

variable (output : Code → Doing Bytes)

/-- Expands words up to the first one that comes to something. -/
def firstFields : List Word → Doing (List Bytes × List Word)
  | [] => return ([], [])
  | word :: words => do
      let fields ← Expansion.toFields output word
      if fields.isEmpty then firstFields words else return (fields, words)

/-- The field at a place, for which words are expanded if need be. -/
def field? (place : Nat) (heading : Heading) : Doing (Option Bytes × Heading) := do
  match heading.fields[place]? with
  | some field => return (some field, heading)
  | none => do
      let (fields, words) ← firstFields output heading.words
      let heading := { heading with fields := heading.fields ++ fields, words }
      return (heading.fields[place]?, heading)

/-- The place of the command behind `command` and its options, at most so many; there is none if
something else is asked for. -/
def passOptions : Nat → Nat → Heading → Doing (Option Nat × Heading)
  | 0, _, heading => return (none, heading)
  | count + 1, place, heading => do
      match ← field? output place heading with
      | (none, heading) => return (none, heading)
      | (some (0x2D :: letter :: letters), heading) =>
          if letter = 0x2D && letters.isEmpty then
            let (field, heading) ← field? output (place + 1) heading
            return (field.map fun _ => place + 1, heading)
          else if (letter :: letters).all (· = 0x70) then
            passOptions count (place + 1) { heading with path := some Lookup.standardPath }
          else return (none, heading)
      | (some _, heading) => return (some place, heading)

/-- The most options and commands that are passed. -/
def limit : Nat := Nat.pow 2 60

/-- Finds out whether the shell carries the command out itself, behind at most so many `command`s. -/
def resolve : Nat → Heading → Doing Heading
  | 0, heading => return heading
  | count + 1, heading => do
      let name := heading.call.head?.getD []
      let isFunction := !heading.passesFunctions && ((← get).function? name).isSome
      match if isFunction || Lookup.isPath name then none else Builtin.find? name with
      | none => return { heading with builtin := none }
      | some found => do
          let isSpecial := some (heading.isSpecial.getD found.isSpecial)
          let heading := { heading with builtin := some found, isSpecial }
          if found.name ≠ "command" then return heading
          else
            match ← passOptions output limit (heading.place + 1) heading with
            | (none, heading) => return heading
            | (some place, heading) =>
                resolve count { heading with place, builtin := none, passesFunctions := true }

/-- Expands the words of a command. -/
def expand (words : List Word) : Doing Heading := do
  match ← field? output 0 (.ofWords words) with
  | (none, heading) => return heading
  | (some _, heading) => do
      let heading ← resolve output limit heading
      let assigns := heading.builtin.any Builtin.assigns
      let rest ← heading.words.mapM fun word => do
        if assigns && (Word.assignment? word).isSome then
          return [← Expansion.toText output .assignment word]
        else Expansion.toFields output word
      return { heading with fields := heading.fields ++ rest.flatten, words := [] }

end

end Heading

end Shell

end HostnameSandbox
