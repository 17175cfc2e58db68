import HostnameSandbox.Host.Kernel.Delivery
import HostnameSandbox.Host.Kernel.Reports

/-!
# Access to files

How processes look at files, open them, read them and write to them.  What does not fit into a pipe
is written piece by piece; a file does not grow beyond the limit that a process has.
-/

namespace HostnameSandbox

/-- What comes of an attempt to make a call. -/
inductive Attempt (request : Call) where
  /-- The call cannot be answered yet. -/
  | blocked
  /-- The state has changed, and the call is to be made again. -/
  | again (kernel : Kernel)
  | answered (reply : request.Reply) (kernel : Kernel)

namespace Kernel

/-! ### Looking at files -/

/-- When the file at a place was changed last.  What tells about a process is always new. -/
def changeTime (kernel : Kernel) (place : Place) : Nat :=
  if kernel.tasks.any fun task => (processPlace task.pid).isPrefixOf place then kernel.now + tick
  else ((kernel.changes.find? fun entry => entry.1 = place).map Prod.snd).getD 0

/-- What can be told of what stands at a place. -/
def placeFacts (kernel : Kernel) (place : Place) (node : Node) : FileFacts :=
  { FileTree.factsOf place node with changed := kernel.changeTime place }

/-- What can be told of the file that a channel leads to.  Other files than those at a place have
places that no path leads to. -/
def channelFacts (kernel : Kernel) (channel : Channel) : FileFacts :=
  let told (kind : FileKind) (size : Nat) (names : List Bytes) : FileFacts :=
    let mode := channel.mode
    let changed := if kind = .device || channel matches .fact _ then 0 else kernel.now + tick
    ⟨kind, size, mode, [] :: names, FileTree.ownerMayRead mode, FileTree.ownerMayWrite mode,
      FileTree.ownerMayExecute mode, changed⟩
  let numbered (kind : String) (number : Nat) : List Bytes :=
    [Bytes.ofString kind, Bytes.ofString (toString number)]
  match channel with
  | .file place | .directory place =>
      match kernel.files.find? place with
      | some node => kernel.placeFacts place node
      | none => told channel.kind 0 place
  | .store number =>
      told .regular (kernel.contents channel).size (numbered "store" number)
  | .outlet number | .inlet number => told .pipe 0 (numbered "pipe" number)
  | .space kind number => told .regular 0 (kind :: numbered "space" number)
  | .null => told .device 0 (numbered "device" 0)
  | .zero => told .device 0 (numbered "device" 1)
  | .full => told .device 0 (numbered "device" 2)
  | .terminal => told .device 0 (numbered "device" 3)
  | .report pid topic =>
      told .regular 0 [Bytes.ofString (toString pid), Bytes.ofString topic.fileName]
  | .fact fact => told .regular 0 [Bytes.ofString fact.fileName]

/-- The mode of the links that stand for open files. -/
def openLinkMode : Nat := 0o700

/-- Whether a place is that of a link which stands for something other than a path. -/
def isOpenLink : Place → Bool
  | [_, _, directory, _] =>
      directory = Bytes.ofString "fd" || directory = Bytes.ofString "ns"
  | _ => false

/-- What a process is told of the file that a path leads to. -/
def examine (kernel : Kernel) (task : Task) (path : Bytes) (follows : Bool) :
    Except Errno FileFacts :=
  match (kernel.view task).lookUp task.directory path follows with
  | .error errno => .error errno
  | .ok (place, .device channel) =>
      if !follows && isOpenLink place then
        .ok ⟨.link, 64, openLinkMode, place, true, true, true, kernel.now + tick⟩
      else .ok (kernel.channelFacts channel)
  | .ok (place, node) => .ok (kernel.placeFacts place node)

/-! ### Opening files -/

/-- The number that a file gets which a process opens by a path. -/
def numberFor (task : Task) (path : Bytes) : Except Errno Descriptor :=
  if path.isEmpty then .error .noEntry
  else if FileTree.pathLimit ≤ path.length then .error .nameTooLong
  else task.free? 0

/-- Whether a process runs the program in a file. -/
def isRunning (kernel : Kernel) (channel : Channel) : Bool :=
  match channel with
  | .file place =>
      let path := FileTree.pathOf place
      kernel.tasks.any fun task => task.isAlive && task.path = path
  | _ => false

/-- Opens a file for a process. -/
def openFile (kernel : Kernel) (task : Task) (path : Bytes) (how : OpenMode) :
    Except Errno Descriptor × Kernel :=
  let mode := 0o666 &&& (0o777 ^^^ task.mask)
  let opened : Except Errno (Descriptor × Channel × FileTree) := do
    let descriptor ← numberFor task path
    let (channel, tree) ← (kernel.view task).openFile task.directory path how mode
    if how.writes && kernel.isRunning channel then .error .textBusy
    else .ok (descriptor, channel, tree)
  match opened with
  | .error errno => (.error errno, kernel)
  | .ok (descriptor, channel, tree) =>
      let channel := match channel with
        | .outlet pipe | .inlet pipe => if how.writes then .inlet pipe else .outlet pipe
        | channel => channel
      let kernel := match channel with
        | .file place =>
            let isNew := (kernel.files.find? place).isNone
            if isNew || how.truncates then
              let kernel := { kernel with files := kernel.changed tree }.touch place
              if isNew then kernel.touch place.dropLast else kernel
            else kernel
        | .store _ => if how.truncates then kernel.setContents channel .none else kernel
        | _ => kernel
      let handle : Handle := ⟨channel, how.reads, how.writes, how.appends, 0⟩
      let opened := kernel.modify task.pid fun task =>
        task.install ⟨descriptor, kernel.handles.size, true⟩
      (.ok descriptor, { opened with handles := kernel.handles.push handle })

/-- Creates a pipe for a process. -/
def openPipe (kernel : Kernel) (task : Task) :
    Except Errno (Descriptor × Descriptor) × Kernel :=
  let created : Except Errno (Descriptor × Descriptor × Task) := do
    let outlet ← task.free? 0
    let reading := task.install ⟨outlet, kernel.handles.size, true⟩
    let inlet ← reading.free? 0
    .ok (outlet, inlet, reading.install ⟨inlet, kernel.handles.size + 1, true⟩)
  match created with
  | .error errno => (.error errno, kernel)
  | .ok (outlet, inlet, changed) =>
      let number := kernel.pipes.size
      let handles := (kernel.handles.push ⟨.outlet number, true, false, false, 0⟩).push
        ⟨.inlet number, false, true, false, 0⟩
      let kernel := kernel.modify task.pid fun _ => changed
      (.ok (outlet, inlet), { kernel with pipes := kernel.pipes.push Pipe.empty, handles })

/-- Lets a process call an open file by another number too, the first free one from `least` on. -/
def duplicate (kernel : Kernel) (task : Task) (descriptor least : Descriptor) :
    Except Errno (Descriptor × Kernel) :=
  match task.find? descriptor with
  | none => .error .badDescriptor
  | some entry =>
      if !task.mayUse least then .error .invalidArgument
      else do
        let free ← task.free? least
        .ok (free, kernel.modify task.pid fun task => task.install ⟨free, entry.handle, false⟩)

/-- Lets a process call an open file by a certain number too. -/
def connect (kernel : Kernel) (task : Task) (source target : Descriptor) : Except Errno Kernel :=
  match task.find? source with
  | none => .error .badDescriptor
  | some entry =>
      if task.mayUse target then
        .ok (kernel.modify task.pid fun task => task.install ⟨target, entry.handle, true⟩)
      else .error .badDescriptor

/-! ### Writing and reading -/

/-- Writes to a pipe, as much as there is room for.  What remains is kept with the process. -/
def writePipe (kernel : Kernel) (task : Task) (descriptor : Descriptor) (number : Nat)
    (bytes : Bytes) : Attempt (.write descriptor bytes) :=
  let leave (kernel : Kernel) (unwritten : Bytes) : Kernel :=
    kernel.modify task.pid fun task => { task with unwritten }
  let pipe := kernel.pipe number
  if !kernel.hasOpen (.outlet number) then
    .answered (.error .brokenPipe) ((leave kernel []).signal task.pid .brokenPipe)
  else if !task.unwritten.isEmpty && pipe.isFull then .blocked
  else
    let (joined, rest) := if task.unwritten.isEmpty then pipe.join bytes
      else (pipe, task.unwritten)
    let (filled, rest) := joined.put rest
    let changed := leave (kernel.setPipe number filled) rest
    if rest.isEmpty then .answered (.ok ()) changed else .again changed

/-- How large a process may make files, if not as large as it likes.  A limit beyond the largest
file counts as one below any file. -/
def allowedSize? (task : Task) : Option Nat :=
  (task.limits.allowed? .fileSize).map fun limit => if limit < Nat.pow 2 63 then limit else 0

/-- Writes to a store or a file, up to the limit that the process has. -/
def writeStored (kernel : Kernel) (task : Task) (descriptor : Descriptor) (number : Nat)
    (handle : Handle) (bytes : Bytes) : Attempt (.write descriptor bytes) :=
  let room := (allowedSize? task).map fun limit => limit - kernel.writingOffset handle
  match room with
  | some room =>
      if room < bytes.length then
        .answered (.error .fileTooLarge)
          ((kernel.writeThrough number handle (bytes.take room)).signal task.pid .fileTooLarge)
      else .answered (.ok ()) (kernel.writeThrough number handle bytes)
  | none => .answered (.ok ()) (kernel.writeThrough number handle bytes)

/-- The most bytes in the name of a program. -/
def nameLimit : Nat := 15

/-- A name with bytes written to it from an offset on, up to the end of a line.  What would leave
a gap is lost. -/
def writeName (name : Bytes) (offset : Nat) (bytes : Bytes) : Bytes :=
  if name.length < offset then name
  else
    (name.take offset ++ bytes.takeWhile fun byte => byte ≠ 0 && byte ≠ 0x0A).take longestHostname

/-- The kernel after bytes have gone through an open file. -/
def advance (kernel : Kernel) (number : Nat) (handle : Handle) (bytes : Bytes) : Kernel :=
  { kernel with
    handles := kernel.handles.setIfInBounds number
      { handle with offset := handle.offset + bytes.length } }

/-- Writes to an open file of a process. -/
def write (kernel : Kernel) (task : Task) (descriptor : Descriptor) (bytes : Bytes) :
    Attempt (.write descriptor bytes) :=
  match kernel.handle? task descriptor with
  | none => .answered (.error .badDescriptor) kernel
  | some (number, handle) =>
      if !handle.writes then .answered (.error .badDescriptor) kernel
      else
        match handle.channel with
        | .full => .answered (if bytes.isEmpty then .ok () else .error .noSpace) kernel
        | .inlet pipe => kernel.writePipe task descriptor pipe bytes
        | .store _ | .file _ => kernel.writeStored task descriptor number handle bytes
        | .report pid .name =>
            .answered (.ok ()) (kernel.modify pid fun task =>
              { task with name := bytes.take nameLimit })
        | .fact .hostname =>
            .answered (.ok ()) ((kernel.setNames task fun names =>
              { names with host := writeName names.host handle.offset bytes }).advance number
                handle bytes)
        | .fact .domain =>
            .answered (.ok ()) ((kernel.setNames task fun names =>
              { names with domain := writeName names.domain handle.offset bytes }).advance number
                handle bytes)
        | _ => .answered (.ok ()) kernel

/-- What is read of data by way of an open file, at most so many bytes. -/
def readAt (kernel : Kernel) (number : Nat) (handle : Handle) (data : Data) (limit : Nat) :
    Bytes × Kernel :=
  let found := data.piece handle.offset limit
  let moved := { handle with offset := handle.offset + found.length }
  (found, { kernel with handles := kernel.handles.setIfInBounds number moved })

/-- Reads from an open file of a process. -/
def read (kernel : Kernel) (task : Task) (descriptor : Descriptor) (limit : Nat) :
    Attempt (.read descriptor limit) :=
  match kernel.handle? task descriptor with
  | none => .answered (.error .badDescriptor) kernel
  | some (number, handle) =>
      let answerFrom (data : Data) : Attempt (.read descriptor limit) :=
        let (found, kernel) := kernel.readAt number handle data limit
        .answered (.ok found) kernel
      if !handle.reads then .answered (.error .badDescriptor) kernel
      else
        match handle.channel with
        | .directory _ => .answered (.error .isDirectory) kernel
        | .space _ _ => .answered (.error .invalidArgument) kernel
        | .full | .zero => .answered (.ok (List.replicate limit 0)) kernel
        | .outlet pipe =>
            let (found, rest) := (kernel.pipe pipe).take limit
            if found.isEmpty && 0 < limit && kernel.hasOpen (.inlet pipe) then .blocked
            else .answered (.ok found) (kernel.setPipe pipe rest)
        | .store _ | .file _ => answerFrom (kernel.contents handle.channel)
        | .report pid topic =>
            match kernel.task? pid with
            | some other => answerFrom (.ofBytes (report other (pid = task.pid) topic))
            | none => .answered (.error .noProcess) kernel
        | .fact fact => answerFrom (.ofBytes (kernel.systemFact task fact))
        | .null | .inlet _ | .terminal => .answered (.ok []) kernel

end Kernel

end HostnameSandbox
