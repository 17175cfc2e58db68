import HostnameSandbox.Proofs.Namespaces.Direct
import HostnameSandbox.Proofs.Namespaces.Moves
import HostnameSandbox.Proofs.Namespaces.Order
import HostnameSandbox.Proofs.Supervision.Courses

/-!
# Host names that a kernel can hold

A text makes a host name exactly if its bytes are such as a kernel holds.  So an inner stage that
its guard lets pass and that may give names is not refused the one that it was told to give, and its
command sees that name to the last byte.
-/

namespace HostnameSandbox

open Moment

/-! ### Texts -/

namespace Bytes

theorem toByteArray_ofString (text : String) : (ofString text).toByteArray = text.toByteArray :=
  String.utf8Encode_toList

theorem length_ofString (text : String) : (ofString text).length = text.utf8ByteSize := by
  rw [String.utf8ByteSize, ← toByteArray_ofString, List.size_toByteArray]

theorem ofString_injective : Function.Injective ofString := by
  intro one other same
  rw [← String.toByteArray_inj, ← toByteArray_ofString, same, toByteArray_ofString]

theorem ofString_eq_nil_iff {text : String} : ofString text = [] ↔ text = "" :=
  ⟨fun none => ofString_injective none, fun none => none ▸ rfl⟩

/-- A byte that is neither zero nor too large is not the byte zero. -/
theorem zero_ne_ofNat {number : Nat} (low : 0 < number) (high : number < 256) :
    (0 : UInt8) ≠ UInt8.ofNat number := by
  intro same
  have values := congrArg UInt8.toNat same
  rw [UInt8.toNat_ofNat_of_lt' high] at values
  exact absurd values (Nat.ne_of_lt low)

/-- Only the character NUL is encoded with a NUL byte. -/
theorem zero_mem_utf8EncodeChar_iff {char : Char} :
    (0 : UInt8) ∈ String.utf8EncodeChar char ↔ char = '\x00' := by
  constructor
  · intro member
    -- all bytes of an encoding that is longer than one byte are above 127
    have above {number : Nat} (low : 128 ≤ number) (high : number < 256) :
        (0 : UInt8) ≠ UInt8.ofNat number :=
      zero_ne_ofNat (by omega) high
    unfold String.utf8EncodeChar at member
    dsimp only at member
    split at member
    · next single =>
        have zero : char.val.toNat = 0 := by
          by_contra other
          exact zero_ne_ofNat (Nat.pos_of_ne_zero other) (by omega) (List.mem_singleton.1 member)
        exact Char.ext (UInt32.toNat_inj.1 zero)
    · split at member
      · simp only [List.mem_cons, List.not_mem_nil, or_false] at member
        rcases member with is | is
        · exact absurd is (above (by omega) (by omega))
        · exact absurd is (above (by omega) (by omega))
      · split at member
        · simp only [List.mem_cons, List.not_mem_nil, or_false] at member
          rcases member with is | is | is
          · exact absurd is (above (by omega) (by omega))
          · exact absurd is (above (by omega) (by omega))
          · exact absurd is (above (by omega) (by omega))
        · simp only [List.mem_cons, List.not_mem_nil, or_false] at member
          rcases member with is | is | is | is
          · exact absurd is (above (by omega) (by omega))
          · exact absurd is (above (by omega) (by omega))
          · exact absurd is (above (by omega) (by omega))
          · exact absurd is (above (by omega) (by omega))
  · rintro rfl
    decide

theorem zero_mem_ofString_iff {text : String} :
    (0 : UInt8) ∈ ofString text ↔ '\x00' ∈ text.toList := by
  rw [ofString, List.mem_flatMap]
  constructor
  · rintro ⟨char, member, zero⟩
    exact zero_mem_utf8EncodeChar_iff.1 zero ▸ member
  · intro member
    exact ⟨_, member, zero_mem_utf8EncodeChar_iff.2 rfl⟩

end Bytes

/-- What a kernel can hold as a name of a host: some bytes, not too many, and no NUL, which would
end the name for whoever reads it. -/
def Kernel.CanHold (name : Bytes) : Prop :=
  1 ≤ name.length ∧ name.length ≤ longestHostname ∧ (0 : UInt8) ∉ name

namespace Hostname

/-- A text makes a host name, or is rejected, for what its bytes are. -/
structure Exact (text : String) : Prop where
  parse : Hostname.parse text = new text
  made : (∃ hostname, new text = .ok hostname) ↔ Kernel.CanHold (Bytes.ofString text)
  empty : new text = .error .empty ↔ Bytes.ofString text = []
  tooLong : new text = .error .tooLong ↔ Kernel.longestHostname < (Bytes.ofString text).length
  nulByte : new text = .error .nulByte ↔
    (Bytes.ofString text).length ≤ Kernel.longestHostname ∧ (0 : UInt8) ∈ Bytes.ofString text
  /-- The host name that a text makes is the one that gives it back. -/
  back : ∀ hostname, new text = .ok hostname ↔ hostname.text = text
  /-- No other text has the same bytes. -/
  whole : ∀ other, Bytes.ofString other = Bytes.ofString text → other = text

theorem canHold (hostname : Hostname) : Kernel.CanHold (Bytes.ofString hostname.text) := by
  refine ⟨List.length_pos_iff.2 fun none => ?_, ?_, fun zero => ?_⟩
  · exact hostname.text_ne_empty (Bytes.ofString_eq_nil_iff.1 none)
  · rw [Bytes.length_ofString]
    exact hostname.size_le
  · exact hostname.nul_notMem (Bytes.zero_mem_ofString_iff.1 zero)

/-- Of several reasons to reject a text, the first is told. -/
theorem new_eq_error_iff {text : String} {fault : InvalidHostname} :
    new text = .error fault ↔
      match fault with
      | .empty => text = ""
      | .tooLong => maxLength < text.utf8ByteSize
      | .nulByte => ¬ maxLength < text.utf8ByteSize ∧ '\x00' ∈ text.toList := by
  unfold new
  split
  · next none =>
      subst none
      cases fault <;> simp
  · next some =>
      split
      · next long => cases fault <;> simp [some, long]
      · next short =>
          split
          · next nul => cases fault <;> simp [some, short, nul]
          · next whole => cases fault <;> simp [some, short, whole]

theorem exact (text : String) : Exact text where
  parse := rfl
  made := by
    constructor
    · rintro ⟨hostname, made⟩
      rw [← new_eq_ok_iff.1 made]
      exact hostname.canHold
    · rintro ⟨some, short, whole⟩
      have nonempty : text ≠ "" := by
        rintro rfl
        exact absurd some (by decide)
      rw [Bytes.length_ofString] at short
      exact ⟨⟨text, nonempty, short, fun nul => whole (Bytes.zero_mem_ofString_iff.2 nul)⟩,
        new_eq_ok_iff.2 rfl⟩
  empty := new_eq_error_iff.trans Bytes.ofString_eq_nil_iff.symm
  tooLong := by
    rw [Bytes.length_ofString]
    exact new_eq_error_iff
  nulByte := by
    rw [Bytes.length_ofString, Bytes.zero_mem_ofString_iff, ← Nat.not_lt]
    exact new_eq_error_iff
  back _ := new_eq_ok_iff
  whole _ same := Bytes.ofString_injective same

end Hostname

/-! ### Being named -/

namespace Kernel

/-- The guard of a process lets it pass, and the process, which sees a host name, may give names. -/
structure LetsPass (kernel : Kernel) (pid : Pid) (passage : Passage) (seen : Bytes) : Prop where
  own : passage.own = pid
  parent : kernel.parent? pid = some passage.parent
  link : kernel.namespaceOf pid = .ok passage.link
  other : kernel.namespaceOf passage.parent = .ok passage.other
  privileged : ∀ task ∈ kernel.tasks, task.pid = pid → task.privileged = true
  sees : kernel.hostname? pid = some seen

/-- The exchanges of a process are served one after the other. -/
inductive Serves (pid : Pid) : Kernel → List Exchange → Kernel → Prop
  | none (kernel : Kernel) : Serves pid kernel [] kernel
  | next {kernel after last : Kernel} {task : Task} {request : Call} {reply : request.Reply}
      {talk : List Exchange} (found : kernel.task? pid = some task)
      (answered : kernel.attempt task request = .answered reply after)
      (rest : Serves pid after talk last) : Serves pid kernel (⟨request, reply⟩ :: talk) last

variable {kernel after between last : Kernel} {task : Task} {pid : Pid} {passage : Passage}
  {request : Call} {talk later : List Exchange} {name : Bytes}

theorem Serves.trans (serves : Serves pid kernel talk between)
    (rest : Serves pid between later last) : Serves pid kernel (talk ++ later) last := by
  induction serves with
  | none kernel => exact rest
  | next found answered _ hypothesis => exact .next found answered (hypothesis rest)

/-- Who may give names gives a name that can be held. -/
theorem attempt_setHostname_ok (privileged : task.privileged = true)
    (short : name.length ≤ longestHostname) :
    kernel.attempt task (.setHostname name) =
      .answered (.ok ()) (kernel.setNames task fun names => { names with host := name }) := by
  have renamed : kernel.rename task name (fun names => { names with host := name }) =
      .ok (kernel.setNames task fun names => { names with host := name }) := by
    rw [rename, privileged, if_neg (by decide), if_neg (Nat.not_lt.2 short)]
  simp only [attempt, renamed]

namespace LetsPass

variable {seen wanted : Bytes}

theorem exists_task (passes : kernel.LetsPass pid passage seen) :
    ∃ task, kernel.task? pid = some task ∧ task.parent = passage.parent ∧
      task.privileged = true := by
  obtain ⟨task, found, isParent⟩ := Option.map_eq_some_iff.1 passes.parent
  exact ⟨task, found, isParent, passes.privileged task (mem_of_task? found) (task?_pid found)⟩

theorem of_seats (passes : kernel.LetsPass pid passage seen) (seats : kernel.SameSeats after)
    (hidden : after.hidden = kernel.hidden)
    (privileged : ∀ task ∈ after.tasks, task.pid = pid → task.privileged = true)
    (sees : after.hostname? pid = some wanted) : after.LetsPass pid passage wanted := by
  have links (other : Pid) : after.namespaceOf other = kernel.namespaceOf other := by
    rw [namespaceOf, namespaceOf, seats.members_eq, hidden]
  exact {
    own := passes.own
    parent := (seats.parent?_eq pid).trans passes.parent
    link := (links pid).trans passes.link
    other := (links passage.parent).trans passes.other
    privileged := privileged
    sees := sees }

/-- A process may come, by exchanges that are served, to where it sees a host name. -/
def Comes (pid : Pid) (passage : Passage) (wanted : Bytes) (kernel : Kernel)
    (talk : List Exchange) : Prop :=
  ∃ last, Serves pid kernel talk last ∧ last.LetsPass pid passage wanted

/-- A preliminary call, served with what is so, lets the process go on. -/
theorem comes_cons {reply : request.Reply} (passes : kernel.LetsPass pid passage seen)
    (preliminary : request.IsPreliminary)
    (answers : ∀ task, kernel.task? pid = some task → task.parent = passage.parent →
      ∃ after, kernel.attempt task request = .answered reply after)
    (rest : ∀ after : Kernel, after.LetsPass pid passage seen →
      Comes pid passage wanted after talk) :
    Comes pid passage wanted kernel (⟨request, reply⟩ :: talk) := by
  obtain ⟨task, found, isParent, -⟩ := passes.exists_task
  obtain ⟨after, answered⟩ := answers task found isParent
  obtain ⟨seats, names⟩ := attempt_preliminary preliminary answered
  obtain ⟨hidden, able⟩ := attempt_preliminary_able preliminary answered
  obtain ⟨last, serves, comes⟩ := rest after (passes.of_seats seats hidden
    (able pid passes.privileged) ((seats.hostname?_eq names pid).trans passes.sees))
  exact ⟨last, .next found answered serves, comes⟩

theorem comes_report {event : Event} (passes : kernel.LetsPass pid passage seen)
    (rest : ∀ after : Kernel, after.LetsPass pid passage seen →
      Comes pid passage wanted after talk) :
    Comes pid passage wanted kernel (⟨.report event, ()⟩ :: talk) :=
  passes.comes_cons rfl (fun _ _ _ => ⟨_, rfl⟩) rest

/-- The guard of the process finds out what lets it pass. -/
theorem comes_guard (passes : kernel.LetsPass pid passage seen)
    (rest : ∀ after : Kernel, after.LetsPass pid passage seen →
      Comes pid passage wanted after talk) :
    Comes pid passage wanted kernel (passage.talk ++ talk) := by
  refine passes.comes_cons rfl (fun task found _ => ⟨kernel, ?_⟩) fun kernel passes => ?_
  · rw [attempt, task?_pid found, passes.own]
  refine passes.comes_cons rfl (fun task found _ => ⟨kernel, ?_⟩) fun kernel passes => ?_
  · rw [attempt, passes.own, passes.link]
  refine passes.comes_cons rfl (fun task found isParent => ⟨kernel, ?_⟩) fun kernel passes => ?_
  · rw [attempt, isParent]
  refine passes.comes_cons rfl (fun task found _ => ⟨kernel, ?_⟩) fun kernel passes => ?_
  · rw [attempt, passes.other]
  exact passes.comes_report rest

/-- A process that may give names sees the one that it gives. -/
theorem comes_named {given : Bytes} (passes : kernel.LetsPass pid passage seen)
    (short : given.length ≤ longestHostname)
    (rest : ∀ after : Kernel, after.LetsPass pid passage given →
      Comes pid passage wanted after talk) :
    Comes pid passage wanted kernel (⟨.setHostname given, .ok ()⟩ :: talk) := by
  obtain ⟨task, found, -, privileged⟩ := passes.exists_task
  have answered : kernel.attempt task (.setHostname given) = _ :=
    attempt_setHostname_ok privileged short
  have housed : (kernel.hostname? pid).isSome := passes.sees ▸ rfl
  obtain ⟨last, serves, comes⟩ := rest _ (passes.of_seats (attempt_setHostname answered).1 rfl
    passes.privileged (hostname?_of_setHostname found housed answered))
  exact ⟨last, .next found answered serves, comes⟩

theorem comes_nil (passes : kernel.LetsPass pid passage seen) : Comes pid passage seen kernel [] :=
  ⟨kernel, .none kernel, passes⟩

theorem Comes.trans (comes : Comes pid passage seen kernel talk)
    (rest : ∀ after : Kernel, after.LetsPass pid passage seen →
      Comes pid passage wanted after later) :
    Comes pid passage wanted kernel (talk ++ later) := by
  obtain ⟨between, serves, passes⟩ := comes
  obtain ⟨last, servesToo, comes⟩ := rest between passes
  exact ⟨last, serves.trans servesToo, comes⟩

/-- A process begins to listen, and is told what it did about the signals before. -/
theorem exists_comes_listening (passes : kernel.LetsPass pid passage seen) :
    ∃ earlier, Comes pid passage seen kernel (listening earlier) := by
  have reacts (kernel : Kernel) (passes : kernel.LetsPass pid passage seen) (signal : Signal) :
      ∃ reaction : Reaction, Comes pid passage seen kernel [⟨.react signal .caught, reaction⟩] := by
    obtain ⟨task, found, -, -⟩ := passes.exists_task
    refine ⟨task.reactionTo signal, passes.comes_cons rfl (fun other isOther _ => ?_) ?_⟩
    · cases found.symm.trans isOther
      exact ⟨_, rfl⟩
    · exact fun _ => comes_nil
  obtain ⟨terminate, between, serves, passes⟩ := reacts kernel passes .terminate
  obtain ⟨hangup, last, servesToo, passes⟩ := reacts between passes .hangup
  refine ⟨fun signal => if signal = .terminate then terminate else hangup, last, ?_, passes⟩
  exact serves.trans servesToo

end LetsPass

end Kernel

/-! ### The name that the command sees -/

namespace Kernel

variable {kernel first last : Kernel} {task : Task} {name : Bytes} {number : Nat}
  {moves : List Move}

theorem hostnameFor_of_nameOf? (named : kernel.nameOf? task.uts = some name) :
    kernel.hostnameFor task = name := by
  obtain ⟨names, found, rfl⟩ := Option.map_eq_some_iff.1 named
  rw [hostnameFor, namesFor, found]
  rfl

/-- The host name of a namespace stays as long as nobody there is about to give another one. -/
theorem nameOf?_of_run (run : Run Moves first moves last) (room : number < first.names.length)
    (calm : ∀ move ∈ moves, ∀ mover ∈ move.before.tasks, move.mover? = some mover.pid →
      mover.uts = number → ¬ mover.MayRename move.before) :
    last.nameOf? number = first.nameOf? number := by
  induction run with
  | start => rfl
  | @next moves move between last run moved hypothesis =>
      have before := hypothesis fun move member => calm move (List.mem_append_left _ member)
      refine Eq.trans ?_ before
      have present := Nat.lt_of_lt_of_le room (grows_of_run run).1
      rcases moved.names present with same | ⟨mover, isMover, made, inside, may⟩
      · rw [nameOf?, nameOf?, same]
      · have now := calm move (List.mem_append_right _ (List.mem_singleton_self _)) mover
        rw [moved.before_eq] at now
        exact absurd may (now isMover made inside.symm)

end Kernel

namespace InnerStage

variable {stage : InnerStage} {command : Command} {pid : Pid} {first : Kernel}
  {trace : List Moment} {last : Process (Except Failure UInt8) × Kernel}

/-- The exchanges of an inner stage up to where it asks for its child. -/
def opening (stage : InnerStage) (command : Command) (passage : Passage)
    (earlier : Signal → Reaction) : List Exchange :=
  ⟨.report (.initializing command), ()⟩ :: (passage.talk ++ (stage.namingTalk (.ok ()) ++
    (⟨.report (.executing command), ()⟩ :: listening earlier)))

/-- Once all goes well, the stage asks for its child. -/
theorem run_opening (stage : InnerStage) (command : Command) (passage : Passage)
    (earlier : Signal → Reaction) : ∃ next,
    Run Process.Step (stage.run command).run (stage.opening command passage earlier)
      (.call (.spawn (stage.runner.spawning command)) next) := by
  have executes : ∃ next, Run Process.Step (stage.runner.execute command).run
      (⟨.report (.executing command), ()⟩ :: listening earlier)
      (.call (.spawn (stage.runner.spawning command)) next) := by
    rw [Runner.execute_eq]
    exact ⟨_, Process.run_call (.report _) () (Process.run_call (.react _ _) _
      (Process.run_call (.react _ _) _ .start))⟩
  obtain ⟨next, executes⟩ := executes
  have passes := run_ensureFreshNamespace_iff.2 (.inr ⟨passage, rfl, rfl⟩)
  have names : Run Process.Step stage.nameNamespace.run (stage.namingTalk (.ok ())) _ :=
    run_nameNamespace_iff.2 (.inr ⟨rfl, rfl⟩)
  have goesOn := (Process.run_bind names (stage.called command)).trans executes
  rw [← passed_eq_called] at goesOn
  rw [run_eq_passed]
  exact ⟨next, Process.run_call (.report _) ()
    ((Process.run_bind passes (stage.passed command)).trans goesOn)⟩

/-- A stage, served call by call, comes to where it asks for its child, and sees the name there that
it was told to give. -/
def Reaches (stage : InnerStage) (command : Command) (pid : Pid) (passage : Passage)
    (kernel : Kernel) : Prop :=
  ∃ earlier last next,
    Run Process.Step (stage.run command).run (stage.opening command passage earlier)
      (.call (.spawn (stage.runner.spawning command)) next) ∧
    Kernel.Serves pid kernel (stage.opening command passage earlier) last ∧
    last.hostname? pid = some (Bytes.ofString stage.hostname.text)

theorem reaches_of_letsPass {kernel : Kernel} {passage : Passage} {seen : Bytes}
    (passes : kernel.LetsPass pid passage seen) : stage.Reaches command pid passage kernel := by
  have named : Kernel.LetsPass.Comes pid passage (Bytes.ofString stage.hostname.text) kernel
      (⟨.report (.initializing command), ()⟩ :: (passage.talk ++ (stage.namingTalk (.ok ()) ++
        [⟨.report (.executing command), ()⟩]))) := by
    refine passes.comes_report fun kernel passes => passes.comes_guard fun kernel passes => ?_
    refine passes.comes_report fun kernel passes => ?_
    refine passes.comes_named stage.hostname.canHold.2.1 fun kernel passes => ?_
    exact passes.comes_report fun kernel => Kernel.LetsPass.comes_nil
  obtain ⟨between, serves, passes⟩ := named
  obtain ⟨earlier, last, listens, passes⟩ := passes.exists_comes_listening
  obtain ⟨next, run⟩ := run_opening stage command passage earlier
  have served := serves.trans listens
  exact ⟨earlier, last, next, run, by simpa [opening] using served, passes.sees⟩

/-- What a stage does about its host name is what the command sees. -/
structure Identifies (stage : InnerStage) (pid : Pid) (trace : List Moment) : Prop where
  /-- A stage that may give names is not refused its own, and sees it from then on. -/
  accepted : Undisturbed pid trace → ∀ moment ∈ trace, ∀ name reply task,
    moment.exchange? = some ⟨.setHostname name, reply⟩ →
    moment.before.task? pid = some task → task.privileged = true →
    moment.before.attempt task (.setHostname name) = .answered reply moment.after →
      name = Bytes.ofString stage.hostname.text ∧ reply = .ok () ∧
        moment.after.hostname? pid = some name
  /-- Whenever the child asks for the name of its host, it is told the whole name, unless somebody
  in its namespace has been about to give another one. -/
  observed : Undisturbed pid trace → ∀ moment ∈ trace, ∀ spawning child,
    moment.exchange? = some ⟨.spawn spawning, .ok child⟩ → moment.after.Coherent →
    ∃ target ∈ moment.after.tasks, target.pid = child ∧
      ∀ moves last, Run Kernel.Moves moment.after moves last →
        (∀ move ∈ moves, ∀ mover ∈ move.before.tasks, move.mover? = some mover.pid →
          mover.uts = target.uts → ¬ mover.MayRename move.before) →
        ∀ asker ∈ last.tasks, asker.pid = child →
          last.attempt asker .hostname = .answered (Bytes.ofString stage.hostname.text) last

/-- A stage that may give names is not refused its own. -/
theorem accepted_of_run {moment : Moment} {name : Bytes} {reply : Except Errno Unit} {task : Task}
    (housed : (first.hostname? pid).isSome)
    (run : Run (Proceeds pid) ((stage.run command).run, first) trace last)
    (undisturbed : Undisturbed pid trace) (member : moment ∈ trace)
    (made : moment.exchange? = some ⟨.setHostname name, reply⟩)
    (found : moment.before.task? pid = some task) (privileged : task.privileged = true)
    (answered : moment.before.attempt task (.setHostname name) = .answered reply moment.after) :
    name = Bytes.ofString stage.hostname.text ∧ reply = .ok () ∧
      moment.after.hostname? pid = some name := by
  obtain ⟨earlier, later, rfl⟩ := List.append_of_mem member
  obtain ⟨⟨silent, -, next⟩, -⟩ := allows_of_run (stage.prepares command) run made
  obtain ⟨early, rfl⟩ : (Preparation.of (talkOf earlier)).Early ∧
      name = Bytes.ofString stage.hostname.text := by
    rcases Preparation.next?_cases next with ⟨_, is⟩ | ⟨is, _, _, _, _, effects⟩ | ⟨is, -⟩
    · cases is
    · exact ⟨⟨by simp [effects], silent⟩, Call.setHostname.inj is⟩
    · cases is
  obtain ⟨-, knows⟩ := knows_at (stage.prepares command) run housed undisturbed early
  obtain ⟨rfl, -⟩ := Attempt.answered.inj (answered.symm.trans
    (Kernel.attempt_setHostname_ok privileged stage.hostname.canHold.2.1))
  exact ⟨rfl, rfl, Kernel.hostname?_of_setHostname found knows.housed answered⟩

/-- The child is told the name that the stage was told to give. -/
theorem observed_of_run {moment : Moment} {spawning : Spawning} {child : Pid}
    (housed : (first.hostname? pid).isSome)
    (run : Run (Proceeds pid) ((stage.run command).run, first) trace last)
    (undisturbed : Undisturbed pid trace) (member : moment ∈ trace)
    (made : moment.exchange? = some ⟨.spawn spawning, .ok child⟩)
    (coherent : moment.after.Coherent) :
    ∃ target ∈ moment.after.tasks, target.pid = child ∧
      ∀ moves last, Run Kernel.Moves moment.after moves last →
        (∀ move ∈ moves, ∀ mover ∈ move.before.tasks, move.mover? = some mover.pid →
          mover.uts = target.uts → ¬ mover.MayRename move.before) →
        ∀ asker ∈ last.tasks, asker.pid = child →
          last.attempt asker .hostname = .answered (Bytes.ofString stage.hostname.text) last := by
  obtain ⟨-, begins⟩ := hostname_of_run housed run undisturbed member made
  obtain ⟨target, isTarget, rfl, -, named⟩ := begins child rfl
  refine ⟨target, isTarget, rfl, fun moves last goesOn calm asker isAsker same => ?_⟩
  have room := coherent.housed _ (Kernel.mem_members isTarget)
  have stays := Kernel.stays_of_run coherent goesOn isTarget isAsker same
  have still := Kernel.nameOf?_of_run goesOn room calm
  have told : last.nameOf? asker.uts = some (Bytes.ofString stage.hostname.text) := by
    rw [stays, still]
    exact named
  rw [Kernel.attempt, Kernel.hostnameFor_of_nameOf? told]

theorem identifies_of_run (housed : (first.hostname? pid).isSome)
    (run : Run (Proceeds pid) ((stage.run command).run, first) trace last) :
    stage.Identifies pid trace where
  accepted undisturbed _ member _ _ _ := accepted_of_run housed run undisturbed member
  observed undisturbed _ member _ _ := observed_of_run housed run undisturbed member

/-- Every text that is not rejected is given as it is, to the last byte. -/
theorem identity_of_run (housed : (first.hostname? pid).isSome)
    (run : Run (Proceeds pid) ((stage.run command).run, first) trace last) :
    (∀ text, Hostname.Exact text) ∧ stage.Identifies pid trace ∧
      ∀ kernel passage seen, kernel.LetsPass pid passage seen →
        stage.Reaches command pid passage kernel :=
  ⟨Hostname.exact, identifies_of_run housed run, fun _ _ _ => reaches_of_letsPass⟩

/-- A stage that gives a name of 32 characters, which are 64 bytes. -/
def accented : InnerStage :=
  new ⟨String.ofList (List.replicate 32 'é'), by decide +kernel, by decide +kernel,
    by decide +kernel⟩

/-- The run of that stage on a machine where its guard lets it pass. -/
def runAccented : List Moment × Process (Except Failure UInt8) × Kernel :=
  goAlone Machine.workerPid 12 ((accented.run Machine.insideCommand).run, Machine.bootInside)

def accentedPassage : Passage :=
  ⟨Machine.workerPid, Kernel.namespaceName 1, 99, Kernel.namespaceName 0, by decide +kernel⟩

/-- The longest of names is seen by the command. -/
theorem identity_runAccented :
    (Machine.bootInside.hostname? Machine.workerPid).isSome ∧
    Machine.bootInside.LetsPass Machine.workerPid accentedPassage Machine.hostname ∧
    ((Bytes.ofString accented.hostname.text).length = 64 ∧ runAccented.2.2.tasks.length = 2 ∧
      ∀ task ∈ runAccented.2.2.tasks,
        runAccented.2.2.hostnameFor task = Bytes.ofString accented.hostname.text) ∧
    (∀ text, Hostname.Exact text) ∧ accented.Identifies Machine.workerPid runAccented.1 ∧
      ∀ kernel passage seen, kernel.LetsPass Machine.workerPid passage seen →
        accented.Reaches Machine.insideCommand Machine.workerPid passage kernel := by
  have housed : (Machine.bootInside.hostname? Machine.workerPid).isSome := by decide +kernel
  have passes : Machine.bootInside.LetsPass Machine.workerPid accentedPassage Machine.hostname := {
    own := by decide +kernel
    parent := by decide +kernel
    link := by decide +kernel
    other := by decide +kernel
    privileged := by decide +kernel
    sees := by decide +kernel }
  exact ⟨housed, passes, by decide +kernel, identity_of_run housed (run_goAlone _ 12 _)⟩

end InnerStage

end HostnameSandbox
