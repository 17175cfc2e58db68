import HostnameSandbox.Host.Kernel.Children

/-!
# Calls to the kernel

What every call of a process comes to.
-/

namespace HostnameSandbox

namespace Kernel

/-- Makes a call of a process. -/
def attempt (kernel : Kernel) (task : Task) : (call : Call) → Attempt call
  | .report event => .answered () (kernel.log task event)
  | .openLog filter =>
      .answered () (kernel.modify task.pid fun task => { task with journal := .lines filter })
  | .write descriptor bytes => kernel.write task descriptor bytes
  | .read descriptor limit => kernel.read task descriptor limit
  | .openFile path how =>
      let (reply, kernel) := kernel.openFile task path how
      .answered reply kernel
  | .close descriptor =>
      if (task.find? descriptor).isSome then
        .answered (.ok ()) (kernel.modify task.pid fun task => task.drop descriptor)
      else .answered (.error .badDescriptor) kernel
  | .duplicate descriptor least =>
      match kernel.duplicate task descriptor least with
      | .ok (free, kernel) => .answered (.ok free) kernel
      | .error errno => .answered (.error errno) kernel
  | .connect source target =>
      match kernel.connect task source target with
      | .ok kernel => .answered (.ok ()) kernel
      | .error errno => .answered (.error errno) kernel
  | .pipe =>
      let (reply, kernel) := kernel.openPipe task
      .answered reply kernel
  | .examine path follows =>
      .answered (kernel.examine task path follows) kernel
  | .inspect descriptor =>
      match kernel.handle? task descriptor with
      | none => .answered (.error .badDescriptor) kernel
      | some (_, handle) =>
          .answered (.ok ⟨kernel.channelFacts handle.channel, handle.offset, handle.appends⟩) kernel
  | .list path =>
      .answered (task.free? 0 >>= fun _ => (kernel.view task).list task.directory path) kernel
  | .enterDirectory path =>
      match (kernel.view task).resolve task.directory path with
      | .error errno => .answered (.error errno) kernel
      | .ok (place, .directory _) =>
          .answered (.ok ()) (kernel.modify task.pid fun task => { task with directory := place })
      | .ok _ => .answered (.error .notDirectory) kernel
  | .directory => .answered (FileTree.pathOf task.directory) kernel
  | .setMask mask =>
      .answered task.mask (kernel.modify task.pid fun task => { task with mask })
  | .limit resource => .answered (task.limits.find resource) kernel
  | .setLimit resource wanted =>
      match (task.limits.find resource).change wanted with
      | .error errno => .answered (.error errno) kernel
      | .ok limit =>
          .answered (.ok ()) (kernel.modify task.pid fun task =>
            { task with limits := task.limits.set resource limit })
  | .ownPid => .answered task.pid kernel
  | .parentPid => .answered task.parent kernel
  | .namespaceOf pid => .answered (kernel.namespaceOf pid) kernel
  | .hostname => .answered (kernel.hostnameFor task) kernel
  | .setHostname name =>
      match kernel.rename task name fun names => { names with host := name } with
      | .ok kernel => .answered (.ok ()) kernel
      | .error errno => .answered (.error errno) kernel
  | .domain => .answered (kernel.namesFor task).domain kernel
  | .setDomain name =>
      match kernel.rename task name fun names => { names with domain := name } with
      | .ok kernel => .answered (.ok ()) kernel
      | .error errno => .answered (.error errno) kernel
  | .ownPath => .answered (.ok task.path) kernel
  | .react signal reaction =>
      .answered (task.reactionTo signal)
        (kernel.modify task.pid fun task => task.react signal reaction)
  | .reactionTo signal => .answered (task.reactionTo signal) kernel
  | .hold signals =>
      .answered () (kernel.change task.pid fun task => { task with held := signals })
  | .held => .answered task.held kernel
  | .takeCaught =>
      .answered task.noted (kernel.modify task.pid fun task => { task with noted := [] })
  | .send pid signal =>
      let (reply, kernel) := kernel.send task.pid pid signal
      .answered reply kernel
  | .spawn spawning =>
      let (reply, kernel) := kernel.spawn task spawning
      .answered reply kernel
  | .await child => kernel.await child
  | .select child signals => kernel.select task child signals
  | .awaitAny patience => kernel.awaitAny task patience
  | .pause time =>
      .answered () (kernel.modify task.pid fun task => { task with clock := task.clock + time })
  | .become path words environment =>
      match kernel.become task path words environment with
      | .ok kernel => .again kernel
      | .error errno => .answered errno kernel
  | .exit code => .again (kernel.finish task.pid (.exited code))
  | .never => .blocked

end Kernel

end HostnameSandbox
