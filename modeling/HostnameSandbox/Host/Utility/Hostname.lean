import HostnameSandbox.Host.Edition
import HostnameSandbox.Host.Utility.Basic

/-!
# Telling and changing the host name

`hostname` tells the name of the host, a part of it or an address of it; given a name, or a file
with one, it changes the name.
-/

namespace HostnameSandbox

namespace Utility.Hostname

/-- The options of the program. -/
def options : Options where
  short := "aAdfbh?iIsVy".toList.map (fun letter => (letter, .none)) ++ [('F', .required)]
  long := [("domain", .none, 'd'), ("boot", .none, 'b'), ("file", .required, 'F'),
    ("fqdn", .none, 'f'), ("all-fqdns", .none, 'A'), ("help", .none, 'h'), ("long", .none, 'f'),
    ("short", .none, 's'), ("version", .none, 'V'), ("yp", .none, 'y'), ("nis", .none, 'y'),
    ("ip-address", .none, 'i'), ("all-ip-addresses", .none, 'I'), ("alias", .none, 'a')]
  ordered := false

/-- How the program is used. -/
def usage : Bytes := Bytes.ofString <|
"Usage: hostname [-b] \x7bhostname|-F file\x7d         set host name (from file)
       hostname [-a|-A|-d|-f|-i|-I|-s|-y]       display formatted name
       hostname                                 display host name

       \x7byp,nis,\x7ddomainname \x7bnisdomain|-F file\x7d  set NIS domain name (from file)
       \x7byp,nis,\x7ddomainname                      display NIS domain name

       dnsdomainname                            display dns domain name

       hostname -V|--version|-h|--help          print info and exit

Program name:
       \x7byp,nis,\x7ddomainname=hostname -y
       dnsdomainname=hostname -d

Program options:
    -a, --alias            alias names
    -A, --all-fqdns        all long host names (FQDNs)
    -b, --boot             set default hostname if none available
    -d, --domain           DNS domain name
    -f, --fqdn, --long     long host name (FQDN)
    -F, --file             read host name or NIS domain name from given file
    -i, --ip-address       addresses for the host name
    -I, --all-ip-addresses all addresses for the host
    -s, --short            short host name
    -y, --yp, --nis        NIS/YP domain name

Description:
   This command can get or set the host name or the NIS domain name. You can
   also get the DNS domain or the FQDN (fully qualified domain name).
   Unless you are using bind or NIS for host lookups you can change the
   FQDN (Fully Qualified Domain Name) and the DNS domain name (which is
   part of the FQDN) in the /etc/hosts file.
"

/-- Whether a byte is a letter or a digit. -/
def isAlphanumeric (byte : UInt8) : Bool :=
  (0x30 ≤ byte && byte ≤ 0x39) || (0x41 ≤ byte && byte ≤ 0x5A) || (0x61 ≤ byte && byte ≤ 0x7A)

/-- The byte between the parts of a host name. -/
def dot : UInt8 := 0x2E

/-- Whether a part of a host name is well formed: letters, digits, and hyphens between them. -/
def isPart (part : Bytes) : Bool :=
  part.all (fun byte => isAlphanumeric byte || byte = 0x2D) &&
    part.head?.any isAlphanumeric && part.getLast?.any isAlphanumeric

/-- Whether a host name is well formed. -/
def isValid (name : Bytes) : Bool := (name.splitOn dot).all isPart

/-- Whether a byte is a blank. -/
def isBlank (byte : UInt8) : Bool := byte = 0x20 || (0x09 ≤ byte && byte ≤ 0x0D)

/-- A name without the blanks around it. -/
def trimmed (name : Bytes) : Bytes :=
  ((name.dropWhile isBlank).reverse.dropWhile isBlank).reverse

/-- Tells what came of changing a name of a kind. -/
def finishChange (called : Bytes) (kind : String) : Except Errno Unit → Process UInt8
  | .ok () => pure 0
  | .error errno => do
      complain called (Bytes.ofString (
        if errno = .notPermitted then "you must be root to change the " ++ kind ++ " name"
        else if errno = .invalidArgument then "name too long"
        else errno.plainText))
      pure 1

/-- Changes the host name, or the domain name. -/
def change (called : Bytes) (isDomain : Bool) (name : Bytes) : Process UInt8 := do
  if isDomain then finishChange called "domain" (← Process.ask (.setDomain name))
  else
    let name := trimmed name
    if !isValid name then
      complain called (Bytes.ofString "the specified hostname is invalid")
      pure 1
    else finishChange called "host" (← Process.ask (.setHostname name))

/-- The first line of a text that is neither empty nor a remark. -/
def firstName (text : Bytes) : Bytes :=
  ((text.splitOn 0x0A).find? fun line =>
    !line.isEmpty && line.head? ≠ some 0x23).getD []

/-- How much of a file is read. -/
def fileLimit : Nat := 65536

/-- The name that a file holds. -/
def readName (file : Bytes) : Process (Except Errno Bytes) := do
  match (← Process.ask (.openFile file .reading) : Except Errno Descriptor) with
  | .error errno => pure (.error errno)
  | .ok descriptor =>
      let text : Except Errno Bytes ← Process.ask (.read descriptor fileLimit)
      let _ ← Process.ask (.close descriptor)
      pure (.ok (firstName ((text.toOption).getD [])))

/-- What is told about the host, by the option that asks for it. -/
def facts (name : Bytes) : Char → Bytes
  | 's' => name.takeWhile (· != dot)
  | 'd' => if name.contains dot then (name.dropWhile (· != dot)).drop 1 else []
  | 'i' => Bytes.ofString "127.0.0.1"
  | 'I' => Bytes.ofString "192.0.2.2 fd00::2 "
  | 'a' | 'A' => []
  | _ => name

/-- Tells about the host. -/
def tell (called : Bytes) (asked : Char) : Process UInt8 := do
  let name : Bytes ← Process.ask .hostname
  let told := facts name asked
  if asked = 'y' then
    let domain : Bytes ← Process.ask .domain
    if domain.isEmpty || domain = Bytes.ofString Edition.domain then
      Process.write Descriptor.output (called ++ Bytes.ofString ": Local domain name not set\n")
      pure 1
    else
      Process.write Descriptor.output (domain ++ [0x0A])
      pure 0
  else if asked = 'd' && told.isEmpty then pure 0
  else
    Process.write Descriptor.output (told ++ [0x0A])
    pure 0

/-- The letter of the option that says what to do, if there is one. -/
def asked (parsed : Options.Parsed) : Char :=
  ((parsed.chosen.filter fun entry => entry.1 != 'b' && entry.1 != 'F').getLast?.map Prod.fst).getD
    'n'

/-- The exit code after a wrong use. -/
def misuse : UInt8 := 255

/-- The name that the host has, or one to have for the time being. -/
def nameOrDefault : Process Bytes := do
  let name : Bytes ← Process.ask .hostname
  pure (if name.isEmpty || name = Bytes.ofString Edition.domain then Bytes.ofString "localhost"
    else name)

/-- Tells how the program is used, at its output. -/
def explain : Process UInt8 := do
  Process.write Descriptor.output usage
  pure misuse

/-- The first option that asks about the program, and ends it. -/
def aboutProgram? (chosen : List (Char × Option Bytes)) : Option Char :=
  (chosen.map Prod.fst).find? fun letter => letter = 'h' || letter = '?' || letter = 'V'

/-- Tells about the program. -/
def tellAbout (letter : Char) : Process UInt8 := do
  if letter = 'V' then
    Process.writeText Descriptor.output "hostname 3.23\n"
    pure 0
  else explain

/-- Tells or changes the host name as a command line asks for. -/
def perform (called : Bytes) (parsed : Options.Parsed) : Process UInt8 := do
  let file? := (parsed.chosen.filterMap fun entry =>
    if entry.1 = 'F' then entry.2 else none).getLast?
  let asked := asked parsed
  let misused : Process UInt8 := do
    Process.write Descriptor.error usage
    pure misuse
  if asked != 'n' && asked != 'y' && !(file?.isNone && parsed.operands.isEmpty) then misused
  else
    match file?, parsed.operands with
    | some file, [] =>
        match ← readName file, parsed.has 'b' with
        | .ok (byte :: name), _ => change called (asked = 'y') (byte :: name)
        | _, true => change called (asked = 'y') (← nameOrDefault)
        | .ok [], false => change called (asked = 'y') []
        | .error errno, false =>
            complain called (Bytes.ofString errno.plainText)
            pure 1
    | none, [name] => change called (asked = 'y') name
    | none, [] => tell called asked
    | _, _ => misused

/-- Tells or changes the host name.  An option that asks about the program counts even if something
is wrong with a later one. -/
def program : Program := fun start => do
  match options.parse start.args with
  | .error fault =>
      match aboutProgram? fault.before with
      | some letter => tellAbout letter
      | none => do
          complain start.name fault.message
          explain
  | .ok parsed =>
      match aboutProgram? parsed.chosen with
      | some letter => tellAbout letter
      | none => perform start.name parsed

end Utility.Hostname

end HostnameSandbox
