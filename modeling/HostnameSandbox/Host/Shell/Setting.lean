import HostnameSandbox.Text.Bytes

/-!
# Settings of the shell

What can be switched on and off while a shell runs.  Most settings have a letter, all have a name.
-/

namespace HostnameSandbox

namespace Shell

/-- A setting. -/
inductive Setting where
  /-- A command without success ends the shell. -/
  | stopsOnFailure
  /-- Patterns are not replaced by names of files. -/
  | keepsPatterns
  | ignoresEnd
  | interactive
  | monitors
  /-- Commands are read only. -/
  | readsOnly
  | standardInput
  /-- Commands are shown before they are carried out. -/
  | traces
  /-- The script is shown as it is read. -/
  | verbose
  | vi
  | emacs
  /-- Redirections do not overwrite files. -/
  | protects
  /-- Variables are exported when they get a value. -/
  | exportsAll
  | notifies
  /-- An unset variable is an error. -/
  | demandsValues
  | privileged
  | noLog
  | debugs
deriving DecidableEq, Repr

namespace Setting

/-- The settings with their letters and names, in order. -/
def table : List (Setting × Option Char × String) :=
  [(.stopsOnFailure, some 'e', "errexit"), (.keepsPatterns, some 'f', "noglob"),
    (.ignoresEnd, some 'I', "ignoreeof"), (.interactive, some 'i', "interactive"),
    (.monitors, some 'm', "monitor"), (.readsOnly, some 'n', "noexec"),
    (.standardInput, some 's', "stdin"), (.traces, some 'x', "xtrace"),
    (.verbose, some 'v', "verbose"), (.vi, some 'V', "vi"), (.emacs, some 'E', "emacs"),
    (.protects, some 'C', "noclobber"), (.exportsAll, some 'a', "allexport"),
    (.notifies, some 'b', "notify"), (.demandsValues, some 'u', "nounset"),
    (.privileged, some 'p', "privileged"), (.noLog, none, "nolog"), (.debugs, none, "debug")]

/-- The setting with a letter. -/
def ofLetter? (byte : UInt8) : Option Setting :=
  (table.find? fun entry => (entry.2.1.map fun letter => UInt8.ofNat letter.toNat) = some byte).map
    Prod.fst

/-- The setting with a name. -/
def ofName? (name : Bytes) : Option Setting :=
  (table.find? fun entry => Bytes.ofString entry.2.2 = name).map Prod.fst

/-- The settings after one of them has been switched on or off; of the two ways to edit only one can
be on. -/
def switch (settings : List Setting) (setting : Setting) (isOn : Bool) : List Setting :=
  let others := settings.filter fun other => other != setting
  if isOn then setting :: others else others

/-- The settings after one with a letter has been switched. -/
def switchLetter (settings : List Setting) (setting : Setting) (isOn : Bool) : List Setting :=
  let switched := switch settings setting isOn
  match setting, isOn with
  | .vi, true => switch switched .emacs false
  | .emacs, true => switch switched .vi false
  | _, _ => switched

/-- The letters of the settings that are on, the last one first. -/
def letters (settings : List Setting) : Bytes :=
  table.reverse.filterMap fun (setting, letter, _) =>
    if settings.contains setting then letter.map fun letter => UInt8.ofNat letter.toNat else none

/-- A name followed by blanks up to a width. -/
def padded (width : Nat) (name : String) : String :=
  name ++ String.ofList (List.replicate (width - name.length) ' ')

/-- All settings, as a table. -/
def shown (settings : List Setting) : String :=
  "Current option settings\n" ++ String.join (table.map fun (setting, _, name) =>
    padded 16 name ++ (if settings.contains setting then "on\n" else "off\n"))

/-- All settings, as commands. -/
def asCommands (settings : List Setting) : String :=
  String.join (table.map fun (setting, _, name) =>
    "set " ++ (if settings.contains setting then "-o " else "+o ") ++ name ++ "\n")

end Setting

end Shell

end HostnameSandbox
