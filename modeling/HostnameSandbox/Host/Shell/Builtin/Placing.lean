import HostnameSandbox.Host.FileTree
import HostnameSandbox.Host.Shell.Builtin.Letters

/-!
# Where a shell is and what it may do

The directory that a shell is in is known by the path that led there.  New files get the permissions
that the mask leaves, and some resources are limited.
-/

namespace HostnameSandbox

namespace Shell

namespace Placing

/-- The path of a directory behind names, where the name of the directory above takes one away. -/
def follow (isDouble : Bool) (names : List Bytes) : Bytes :=
  let places := names.foldl
    (fun (places : List Bytes) name =>
      if name = FileTree.here || name.isEmpty then places
      else if name = FileTree.above then places.tail
      else name :: places)
    []
  (if isDouble then [FileTree.slash] else []) ++ FileTree.pathOf places.reverse

/-- Whether a path begins with two slashes and no more. -/
def isDoubleRooted : Bytes → Bool
  | 0x2F :: 0x2F :: rest => rest.head? ≠ some FileTree.slash
  | _ => false

/-- The path without names that stand for other directories; one that does not begin at the root goes
on from a directory. -/
def simplified (directory path : Bytes) : Bytes :=
  let whole := if FileTree.isAbsolute path then path else directory ++ FileTree.slash :: path
  let isDouble := isDoubleRooted (if FileTree.isAbsolute path then path else directory)
  follow isDouble (whole.splitOn FileTree.slash)

/-- Takes a path as that of the directory that the shell is in; without one, the path that leads
there through no links. -/
def settle (path : Option Bytes) (keepsFormer : Bool) : Doing Unit := do
  let former := (← get).directory
  if keepsFormer then
    assign (Bytes.ofString "OLDPWD") (some (former.getD [])) { isExported := true }
  let (path, physical) ← match path with
    | some path => pure (path, none)
    | none => do
        let path ← Doing.ask .directory
        pure (path, some path)
  modify fun state => { state with directory := some path, physical }
  assign (Bytes.ofString "PWD") (some path) { isExported := true }

/-- The path through no links of the directory that the shell is in.  When it has to be asked for,
the variable that holds the directory is set again. -/
def physicalPath : Doing Bytes := do
  match (← get).physical with
  | some path => return path
  | none =>
      let path ← Doing.ask .directory
      modify fun state => { state with physical := some path }
      assign (Bytes.ofString "PWD") (some ((← get).directory.getD path)) { isExported := true }
      return path

/-- Moves to a directory; tells whether that could be done. -/
def move (isPhysical : Bool) (path : Bytes) : Doing Bool := do
  let state ← get
  let target := if isPhysical then none
    else (state.directory.map fun directory => simplified directory path)
  match (← Doing.ask (.enterDirectory (target.getD path)) : Except Errno Unit) with
  | .error _ => return false
  | .ok () => do
      settle target true
      modify fun state =>
        { state with tracked := state.tracked.map fun found => { found with isStale := true } }
      return true

/-- Whether a path says on its own where it begins. -/
def isAnchored (path : Bytes) : Bool :=
  let first := path.takeWhile (· != FileTree.slash)
  FileTree.isAbsolute path || first = FileTree.here || first = FileTree.above

/-- Whether options ask for the physical directory; the last one counts. -/
def isPhysical (parsed : Letters.Parsed) : Bool := parsed.chosen.getLast?.any fun entry => entry.1 = 'P'

/-- The first directory of a path for directories in which a name is one. -/
def searchDirectory (name : Bytes) : List Bytes → Doing (Option (Bytes × Bool))
  | [] => return none
  | directory :: rest => do
      let path := if directory.isEmpty then name else directory ++ FileTree.slash :: name
      match (← Doing.ask (.examine path true) : Except Errno FileFacts) with
      | .ok facts =>
          if facts.kind = .directory then return some (path, !directory.isEmpty)
          else searchDirectory name rest
      | .error _ => searchDirectory name rest

/-- Moves to another directory: home, the one before, or one that is named. -/
def cd (args : List Bytes) : Doing Nat := do
  let parsed ← Letters.parse [('L', false), ('P', false)] args
  let isPhysical := isPhysical parsed
  let state ← get
  let given := parsed.operands.head?
  let isFormer := given = some [0x2D]
  let target := if isFormer then (state.value? "OLDPWD").getD []
    else given.getD ((state.value? "HOME").getD [])
  let name := if target.isEmpty then FileTree.here else target
  let places := ((state.value? "CDPATH").getD []).splitOn 0x3A
  let found ← if isAnchored target then pure none else searchDirectory name places
  let isElsewhere := found.any Prod.snd
  if ← move isPhysical (found.elim name Prod.fst) then
    if isFormer || isElsewhere then print (((← get).directory.getD []) ++ [0x0A])
    return 0
  else fail (Bytes.ofString "can't cd to " ++ target)

/-- Prints the path of the directory that the shell is in. -/
def pwd (args : List Bytes) : Doing Nat := do
  let parsed ← Letters.parse [('L', false), ('P', false)] args
  let path ← if isPhysical parsed then physicalPath
    else pure ((← get).directory.getD [])
  print (path ++ [0x0A])
  return 0

/-- The letters of three permissions. -/
def permissionLetters (bits : Nat) : String :=
  (if bits &&& 4 = 0 then "" else "r") ++ (if bits &&& 2 = 0 then "" else "w") ++
    (if bits &&& 1 = 0 then "" else "x")

/-- Permissions for the owner, the group and others, as letters. -/
def permissionText (mode : Nat) : String :=
  "u=" ++ permissionLetters (mode / 64 % 8) ++ ",g=" ++ permissionLetters (mode / 8 % 8) ++
    ",o=" ++ permissionLetters (mode % 8)

/-- The lowest bits of those whose permissions a letter is about. -/
def ownerBit (letter : UInt8) : Nat :=
  if letter = 0x75 then 0o100 else if letter = 0x67 then 0o010 else if letter = 0x6F then 0o001
  else 0o111

/-- The permissions that a letter stands for, where `mode` are those before the change: its own, or
those of somebody. -/
def permissionBits (mode : Nat) (letter : UInt8) : Nat :=
  if letter = 0x72 then 4 else if letter = 0x77 then 2 else if letter = 0x78 then 1
  else if letter = 0x75 then mode / 64 % 8 else if letter = 0x67 then mode / 8 % 8
  else if letter = 0x6F then mode % 8
  else if letter = 0x58 && mode &&& 0o111 != 0 then 1
  else 0

/-- The bits that letters stand for together. -/
def allBits (bits : UInt8 → Nat) (letters : Bytes) : Nat :=
  letters.foldl (fun all letter => all ||| bits letter) 0

/-- Whether a byte says what is done with permissions. -/
def isModeSign (byte : UInt8) : Bool := (Bytes.ofString "=+-").contains byte

/-- What becomes of the permissions `changed` by the clauses of a text, at most so many.  `mode` are
the permissions before the first of them, and `owners` the ones that the clause was about so
far.  An end where a sign should stand counts as a sign that changes nothing, and the text goes on
with `behind`. -/
def applyMode (mode : Nat) : Nat → Bytes → Nat → Nat → Bytes → Option Nat
  | _, _, _, changed, [] => some changed
  | 0, _, _, _, _ :: _ => none
  | count + 1, behind, owners, changed, text =>
      let named := text.takeWhile (Bytes.ofString "augo").contains
      let owners := owners ||| allBits ownerBit named
      let owners := if owners = 0 then 0o111 else owners
      let (sign, rest, behind) : Option UInt8 × Bytes × Bytes :=
        match text.drop named.length with
        | [] => (none, behind, [])
        | sign :: rest => (some sign, rest, behind)
      let letters := rest.takeWhile (Bytes.ofString "rwxugoXs").contains
      let bits := allBits (permissionBits mode) letters * owners
      let applied := match sign with
        | none => changed
        | some sign =>
            if sign = 0x2B then changed ||| bits
            else if sign = 0x2D then changed &&& (0o777 ^^^ bits)
            else (changed &&& (0o777 ^^^ (owners * 7))) ||| bits
      if !sign.all isModeSign then none
      else
        match rest.drop letters.length with
        | [] => some applied
        | 0x2C :: rest => applyMode mode count behind 0 applied rest
        | next :: rest =>
            if isModeSign next then applyMode mode count behind owners applied (next :: rest)
            else none

/-- Shows or changes which permissions new files do not get. -/
def umask (args : List Bytes) : Doing Nat := do
  let parsed ← Letters.parse [('S', false)] args
  let mask : Nat ← Doing.ask (.setMask 0)
  let _ : Nat ← Doing.ask (.setMask mask)
  let mode := 0o777 ^^^ (mask &&& 0o777)
  match parsed.operands with
  | [] =>
      if parsed.has 'S' then printText (permissionText mode ++ "\n")
      else
        let shown := Layout.digits 8 mask
        print (List.replicate (4 - shown.length) 0x30 ++ shown ++ [0x0A])
  | word :: _ =>
      if word.head?.any isDigit then
        if word.all (Numeral.isDigitOf 8) then
          let _ : Nat ← Doing.ask (.setMask (Numeral.ofDigits 8 word &&& 0o777))
        else failNumber word
      else
        let behind := ((← get).overlaid.drop (word.length + 1)).takeWhile (· != 0)
        match applyMode mode (word.length + behind.length) behind 0 mode word with
        | some mode =>
            let _ : Nat ← Doing.ask (.setMask (0o777 ^^^ mode))
        | none => fail (Bytes.ofString "Illegal mode: " ++ word)
  return 0

/-- The limit to a resource that counts for good or for now. -/
def amountOf (measure : Measure) (isHard : Bool) : Doing (Option Nat) := do
  let limit : Limit ← Doing.ask (.limit measure.resource)
  return if isHard then limit.hard else limit.soft

/-- The amount in a word of sixty-four bits, the greatest of which stands for all there is. -/
def amount? (value : Nat) : Option Nat :=
  let amount := value % Nat.pow 2 64
  if amount = Nat.pow 2 64 - 1 then none else some amount

/-- Changes the limit to a resource, for good and for now or for one of them. -/
def setLimit (measure : Measure) (value : Option Nat) (isHard isSoft : Bool) : Doing Unit := do
  let limit : Limit ← Doing.ask (.limit measure.resource)
  let wanted : Limit :=
    ⟨if isHard then value else limit.hard, if isSoft then value else limit.soft⟩
  match (← Doing.ask (.setLimit measure.resource wanted) : Except Errno Unit) with
  | .ok () => pure ()
  | .error errno => failText ("error setting limit (" ++ errno.plainText ++ ")")

/-- Shows limits, or changes one of them. -/
def ulimit (args : List Bytes) : Doing Nat := do
  let letters : Letters.Known := ['H', 'S', 'a', 't', 'f', 'd', 's', 'c', 'm', 'l', 'p', 'n', 'v',
    'w', 'r'].map (·, false)
  let parsed ← Letters.parse letters args
  let named := parsed.chosen.filter fun entry => !(['H', 'S', 'a'].contains entry.1)
  let letter := (named.getLast?.map Prod.fst).getD 'f'
  let how := (parsed.chosen.filter fun entry => ['H', 'S'].contains entry.1).getLast?.map Prod.fst
  match parsed.operands with
  | [] =>
      Measure.all.forM fun measure => do
        if parsed.has 'a' || measure.letter = letter then
          let amount ← amountOf measure (how = some 'H')
          let front := if parsed.has 'a' then Setting.padded 20 measure.name ++ " " else ""
          printText (front ++ measure.shown amount)
  | word :: rest => do
      if parsed.has 'a' || !rest.isEmpty then failText "too many arguments"
      let isUnlimited := word = Bytes.ofString "unlimited"
      if !isUnlimited && !word.all isDigit then failText "bad number"
      Measure.all.forM fun measure => do
        if measure.letter = letter then
          let value := if isUnlimited then none
            else amount? (Numeral.ofDigits 10 word * measure.unit)
          setLimit measure value (how ≠ some 'S') (how ≠ some 'H')
  return 0

/-- Tells how much time has been used, which is none. -/
def times : Doing Nat := do
  let line := "0m0.000000s 0m0.000000s\n"
  printText (line ++ line)
  return 0

end Placing

end Shell

end HostnameSandbox
