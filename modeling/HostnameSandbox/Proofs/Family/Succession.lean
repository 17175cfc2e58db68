import HostnameSandbox.Proofs.Family.Talk
import HostnameSandbox.Proofs.Family.Transparency
import Mathlib.Data.List.Basic

/-!
# The succession of processes in one run

A run of the program is a process that plays the outer stage and the one that it starts for the
inner stage, or an inner stage alone.  The arguments that the outer stage gives are never read
as an outer stage again, whatever the command is, so that a run ends with the start of the
command: it creates at most two processes, and those in order.
-/

namespace HostnameSandbox

/-- The arguments of the inner stage are read as the inner stage, if they are read at all. -/
theorem OuterStage.stage_of_parse_arguments {stage : OuterStage} {command : Command}
    {request : CommandLine.Request}
    (read : CommandLine.parse (stage.arguments command) = .ok request) :
    request.stage = .inner := by
  rw [parse_arguments] at read
  exact (CommandLine.suffix_of_parseStage read).1

theorem OuterStage.stage_of_asks {stage : OuterStage} {command : Command} {path : Bytes}
    {environment : Environment} {invocation : Invocation} {verbose : Bool}
    (asks : Start.Asks ⟨path, stage.arguments command, environment⟩ invocation verbose) :
    invocation.stage = .inner := by
  obtain ⟨request, read, -, invoked⟩ := asks
  rw [← (CommandLine.invocation_eq_ok_iff.1 invoked).1]
  exact stage_of_parse_arguments read

/-- What an outer stage starts again is the program itself, with the arguments that it gives. -/
theorem Member.role_of_relaunched {itself : Bytes → Bool} {stage : OuterStage} {path : Bytes}
    {command : Command} {environment : Environment} {member : Member}
    (found : itself path = true)
    (started : member.StartedFrom itself environment (stage.spawning path command)) :
    ∃ listener,
      member.role = .stage ⟨path, stage.arguments command, environment⟩ listener := by
  have isItself : itself (stage.spawning path command).path = true := found
  unfold StartedFrom at started
  rwa [if_pos isItself] at started

/-- A child that a process has created, and from what. -/
structure Launch where
  parent : Pid
  spawning : Spawning
  child : Pid
deriving DecidableEq

def Exchange.launch? (pid : Pid) (exchange : Exchange) : Option Launch :=
  match exchange.deed with
  | .created spawning child => some ⟨pid, spawning, child⟩
  | _ => none

def Happening.launchBy? (pids : List Pid) : Happening → Option Launch
  | .made pid exchange => if pid ∈ pids then exchange.launch? pid else none
  | _ => none

/-- The children that some processes create, in the order in which they do. -/
def launchesBy (pids : List Pid) (trace : List Happening) : List Launch :=
  trace.filterMap (Happening.launchBy? pids)

/-- The processes of a run of the program: the one that was started, and what it starts as an
outer stage. -/
def crew (start : Start) (pid : Pid) (trace : List Happening) : List Pid :=
  pid :: match CommandLine.parse start.args with
    | .ok ⟨_, .outer, _⟩ => (launchesBy [pid] trace).map Launch.child
    | _ => []

/-- What a run of the program creates: nothing, or a process that plays the inner stage and at
most one for the command that this one reads, in this order; and an inner stage that is started
directly at most the one for the command. -/
inductive Course (itself : Bytes → Bool) (pid : Pid) (start : Start) : List Launch → Prop
  | nothing : Course itself pid start []
  | inner {path : Bytes} {command : Command} {verbose : Bool} {child : Pid}
      (asks : start.Asks ⟨.outer, command⟩ verbose) (found : itself path = true) :
      Course itself pid start
        [⟨pid, (OuterStage.ofRunning.withVerbose verbose).spawning path command, child⟩]
  | command {path : Bytes} {command read : Command} {verbose also : Bool} {child target : Pid}
      (asks : start.Asks ⟨.outer, command⟩ verbose) (found : itself path = true)
      (asksToo : Start.Asks
        ⟨path, (OuterStage.ofRunning.withVerbose verbose).arguments command, start.environment⟩
        ⟨.inner, read⟩ also) :
      Course itself pid start
        [⟨pid, (OuterStage.ofRunning.withVerbose verbose).spawning path command, child⟩,
          ⟨child, InnerStage.standard.runner.spawning read, target⟩]
  | direct {command : Command} {verbose : Bool} {target : Pid}
      (asks : start.Asks ⟨.inner, command⟩ verbose) :
      Course itself pid start [⟨pid, InnerStage.standard.runner.spawning command, target⟩]

section Launches

variable {pids : List Pid} {pid child : Pid} {before after trace : List Happening}
  {happening : Happening} {exchange : Exchange} {launch : Launch} {start : Start}

theorem Exchange.deed_of_launch? (launched : exchange.launch? pid = some launch) :
    launch.parent = pid ∧ exchange.deed = .created launch.spawning launch.child := by
  unfold launch? at launched
  split at launched
  · next spawning child created =>
      cases launched
      exact ⟨rfl, created⟩
  · cases launched

theorem Happening.eq_made_of_launchBy? (launched : happening.launchBy? [pid] = some launch) :
    ∃ exchange, happening = .made pid exchange ∧ launch.parent = pid ∧
      exchange.deed = .created launch.spawning launch.child := by
  cases happening with
  | made other exchange =>
      simp only [launchBy?, List.mem_singleton] at launched
      split at launched
      · next same =>
          subst same
          exact ⟨exchange, rfl, exchange.deed_of_launch? launched⟩
      · cases launched
  | _ => cases launched

@[simp]
theorem launchesBy_append :
    launchesBy pids (before ++ after) = launchesBy pids before ++ launchesBy pids after :=
  List.filterMap_append

/-- What a process has created is told by what it has exchanged. -/
theorem launchesBy_eq :
    launchesBy [pid] trace = (talkBy pid trace).filterMap (Exchange.launch? pid) := by
  rw [launchesBy, talkBy, List.filterMap_filterMap]
  refine List.filterMap_congr fun happening _ => ?_
  cases happening with
  | made other exchange =>
      by_cases same : other = pid
      · subst same
        simp [Happening.launchBy?, Happening.exchangeBy?]
      · simp [Happening.launchBy?, Happening.exchangeBy?, same]
  | _ => rfl

/-- Two processes create what the second one does, as long as the first one creates nothing. -/
theorem launchesBy_pair (none : launchesBy [pid] trace = []) :
    launchesBy [pid, child] trace = launchesBy [child] trace := by
  refine List.filterMap_congr fun happening member => ?_
  have idle := List.filterMap_eq_nil_iff.1 none happening member
  cases happening with
  | made other exchange =>
      by_cases same : other = pid
      · subst same
        simp only [Happening.launchBy?, List.mem_singleton, if_true] at idle
        simp [Happening.launchBy?, idle]
      · simp [Happening.launchBy?, same]
  | _ => rfl

end Launches

namespace Family

variable {itself : Bytes → Bool} {root pid child : Pid} {family after : Family}
  {happening : Happening} {trace : List Happening} {first start : Start}
  {listener : Listener UInt8} {command : Command}

/-- A process that is not there yet has created nothing. -/
theorem launchesBy_of_absent (run : Run (Step itself) (.start root first) trace family)
    (absent : family pid = none) : launchesBy [pid] trace = [] := by
  rw [launchesBy_eq, talkBy_of_absent run absent]
  rfl

/-- What a stage has created is told by what it has exchanged. -/
theorem launchesBy_of_plays (run : Run (Step itself) (.start root first) trace family)
    (plays : family.Plays pid start listener) :
    launchesBy [pid] trace = listener.talk.filterMap (Exchange.launch? pid) := by
  rw [launchesBy_eq, (talk_of_plays run plays).1]

theorem itself_of_own (run : Run (Step itself) (.start root first) trace family)
    {path : Bytes} (plays : family.Plays pid start listener)
    (told : listener.supervisor.own = some path) : itself path = true := by
  induction run generalizing pid start listener path with
  | start =>
      obtain ⟨member, present, role⟩ := plays
      obtain ⟨-, rfl⟩ := eq_of_start present
      cases role
      cases told
  | next run step hypothesis => exact step.itself_of_own hypothesis plays told

/-- A stage creates nothing, or one child from what it may start it from. -/
theorem launchesBy_cases (run : Run (Step itself) (.start root first) trace family)
    (plays : family.Plays pid start listener) :
    launchesBy [pid] trace = [] ∨
      ∃ spawning child own, launchesBy [pid] trace = [⟨pid, spawning, child⟩] ∧
        Sandbox.MayStart start own spawning ∧ (∀ path, own = some path → itself path = true) ∧
        ∃ member, family child = some member ∧
          member.StartedFrom itself start.environment spawning := by
  have sound := Sound.of_run run
  have supervised := sound.supervised plays
  have launches := launchesBy_of_plays run plays
  have children : (launchesBy [pid] trace).map Launch.child = createdIn listener.talk := by
    rw [launches, List.map_filterMap]
    refine List.filterMap_congr fun exchange _ => ?_
    unfold Exchange.launch? Deed.created?
    cases exchange.deed <;> rfl
  have few : (launchesBy [pid] trace).length ≤ 1 := by
    rw [← List.length_map, children, supervised.created]
    cases (Supervisor.of listener.talk).duty.created? <;> simp
  match launched : launchesBy [pid] trace with
  | [] => exact .inl rfl
  | [launch] =>
      right
      have within : ∀ {exchange spawning child}, exchange ∈ listener.talk →
          exchange.deed = .created spawning child → launch = ⟨pid, spawning, child⟩ := by
        intro exchange spawning child made created
        have member : ⟨pid, spawning, child⟩ ∈ launchesBy [pid] trace := by
          rw [launches]
          exact List.mem_filterMap.2 ⟨exchange, made, by simp [Exchange.launch?, created]⟩
        rw [launched] at member
        exact (List.mem_singleton.1 member).symm
      have member : launch ∈ launchesBy [pid] trace := by simp [launched]
      rw [launches] at member
      obtain ⟨exchange, made, isLaunch⟩ := List.mem_filterMap.1 member
      obtain ⟨isParent, created⟩ := exchange.deed_of_launch? isLaunch
      obtain ⟨also, spawning, child, madeToo, createdToo, may, present, started⟩ :=
        sound.startedFrom plays (sound.child plays made created)
      have same := within madeToo createdToo
      exact ⟨spawning, launch.child, listener.supervisor.own, by rw [← same], may,
        fun path told => itself_of_own run plays told, child, present, started⟩
  | _ :: _ :: _ =>
      rw [launched] at few
      simp at few

/-- What a process creates comes after its own creation. -/
theorem launchesBy_relaunched (run : Run (Step itself) (.start root first) trace family)
    {spawning : Spawning} (alone : launchesBy [pid] trace = [⟨pid, spawning, child⟩]) :
    launchesBy [pid, child] trace = ⟨pid, spawning, child⟩ :: launchesBy [child] trace := by
  obtain ⟨before, happening, later, rfl, idle, launched, rest⟩ :=
    List.filterMap_eq_cons_iff.1 alone
  obtain ⟨between, reached, sooner, step, -⟩ := run.split_at
  have nothing : launchesBy [pid] before = [] := List.filterMap_eq_nil_iff.2 idle
  obtain ⟨exchange, rfl, -, created⟩ := Happening.eq_made_of_launchBy? launched
  obtain ⟨_, _, _, _, there, -, -, -, answers, -⟩ := step.made
  have absent : between child = none := answers.fresh created
  have distinct : pid ≠ child := by
    rintro rfl
    cases there.symm.trans absent
  have launch : exchange.launch? pid = some ⟨pid, spawning, child⟩ := by
    simp [Exchange.launch?, created]
  rw [List.append_cons, launchesBy_append, launchesBy_append, launchesBy_append,
    launchesBy_append, launchesBy_pair nothing, launchesBy_pair rest,
    launchesBy_of_absent sooner absent]
  simp [launchesBy, Happening.launchBy?, launch, distinct]

/-- An outer stage that has created a process makes the run one of two processes. -/
theorem crew_of_asks_outer {command : Command} {verbose : Bool} {spawning : Spawning}
    (asks : start.Asks ⟨.outer, command⟩ verbose)
    (alone : launchesBy [pid] trace = [⟨pid, spawning, child⟩]) :
    crew start pid trace = [pid, child] := by
  obtain ⟨⟨also, stage, words⟩, read, -, invoked⟩ := asks
  obtain rfl : stage = .outer := (CommandLine.invocation_eq_ok_iff.1 invoked).1
  simp [crew, read, alone]

theorem crew_of_asks_inner {command : Command} {verbose : Bool}
    (asks : start.Asks ⟨.inner, command⟩ verbose) : crew start pid trace = [pid] := by
  obtain ⟨⟨also, stage, words⟩, read, -, invoked⟩ := asks
  obtain rfl : stage = .inner := (CommandLine.invocation_eq_ok_iff.1 invoked).1
  simp [crew, read]

theorem crew_of_idle (nothing : launchesBy [pid] trace = []) :
    crew start pid trace = [pid] := by
  unfold crew
  split
  · rw [nothing]
    rfl
  · rfl

/-- A stage that was started as an outer stage starts one does no more than its command asks. -/
theorem launchesBy_of_relaunched (run : Run (Step itself) (.start root first) trace family)
    {stage : OuterStage} {path : Bytes} {environment : Environment}
    (plays : family.Plays child ⟨path, stage.arguments command, environment⟩ listener) :
    launchesBy [child] trace = [] ∨
      ∃ read verbose target,
        Start.Asks ⟨path, stage.arguments command, environment⟩ ⟨.inner, read⟩ verbose ∧
        launchesBy [child] trace = [⟨child, InnerStage.standard.runner.spawning read, target⟩] := by
  rcases launchesBy_cases run plays with nothing | ⟨spawning, target, own, alone, may, -⟩
  · exact .inl nothing
  · obtain ⟨⟨played, read⟩, verbose, asks, may⟩ := may
    obtain rfl : played = .inner := OuterStage.stage_of_asks asks
    obtain rfl : spawning = InnerStage.standard.runner.spawning read := may
    exact .inr ⟨read, verbose, target, asks, alone⟩

/-- Every process that plays the program keeps to the course of a run. -/
theorem course_of_run (run : Run (Step itself) (.start root first) trace family)
    (plays : family.Plays pid start listener) :
    Course itself pid start (launchesBy (crew start pid trace) trace) := by
  rcases launchesBy_cases run plays with
    nothing | ⟨spawning, child, own, alone, may, found, member, present, started⟩
  · rw [crew_of_idle nothing, nothing]
    exact .nothing
  · obtain ⟨⟨stage, command⟩, verbose, asks, may⟩ := may
    cases stage with
    | inner =>
        obtain rfl : spawning = InnerStage.standard.runner.spawning command := may
        rw [crew_of_asks_inner asks, alone]
        exact .direct asks
    | outer =>
        obtain ⟨path, told, rfl⟩ := may
        have isItself : itself path = true := found path told
        rw [crew_of_asks_outer asks alone, launchesBy_relaunched run alone]
        obtain ⟨listener, role⟩ := Member.role_of_relaunched isItself started
        rcases launchesBy_of_relaunched run ⟨member, present, role⟩ with
          nothing | ⟨read, also, target, asksToo, next⟩
        · rw [nothing]
          exact .inner asks isItself
        · rw [next]
          exact .command asks isItself asksToo

/-- A process that an outer stage has created is never an outer stage itself. -/
theorem not_acts_outer_of_run (run : Run (Step itself) (.start root first) trace family)
    {command other : Command} (acts : family.Acts pid ⟨.outer, command⟩)
    (parent : family.ParentOf pid child) : ¬ family.Acts child ⟨.outer, other⟩ := by
  rintro ⟨begun, listener, verbose, plays, asks⟩
  obtain ⟨start, own, also, playsOuter, asksOuter⟩ := acts
  obtain ⟨exchange, spawning, member, -, -, ⟨invocation, _, asksToo, may⟩, present, started⟩ :=
    (Sound.of_run run).startedFrom playsOuter parent
  obtain ⟨rfl, rfl⟩ := asksOuter.unique asksToo
  obtain ⟨path, told, rfl⟩ := may
  obtain ⟨other, role⟩ :=
    Member.role_of_relaunched (itself_of_own run playsOuter told) started
  obtain ⟨rfl, -⟩ := plays.unique ⟨member, present, role⟩
  cases OuterStage.stage_of_asks asks

/-- The program does not start itself over and over.  The arguments that an outer stage gives are
never read as an outer stage, whatever the command; and in every run, the first process and every
other one that plays the program keeps to its course, and has no child that is an outer stage if
it is one itself. -/
theorem neverCycles_of_run :
    (∀ (stage : OuterStage) (command : Command) (request : CommandLine.Request),
      CommandLine.parse (stage.arguments command) = .ok request → request.stage = .inner) ∧
    ∀ {itself : Bytes → Bool} {root : Pid} {first : Start} {trace : List Happening}
      {family : Family}, Run (Step itself) (.start root first) trace family →
      (∃ listener, family.Plays root first listener) ∧
        ∀ pid start listener, family.Plays pid start listener →
          Course itself pid start (launchesBy (crew start pid trace) trace) ∧
            ∀ command child, family.Acts pid ⟨.outer, command⟩ → family.ParentOf pid child →
              ∀ other, ¬ family.Acts child ⟨.outer, other⟩ :=
  ⟨fun _ _ _ read => OuterStage.stage_of_parse_arguments read,
    fun run => ⟨plays_of_run run, fun _ _ _ plays =>
      ⟨course_of_run run plays, fun _ _ acts parent _ => not_acts_outer_of_run run acts parent⟩⟩⟩

/-- A program that is called like the end of the options is skipped by the inner stage, which
runs the next word, whatever stage this names. -/
theorem neverCycles_escape : ∃ (command read : Command) (family : Family),
    command.words = [CommandLine.escape, Bytes.ofString "outer", [0x78]] ∧
    read.words = [Bytes.ofString "outer", [0x78]] ∧
    Run (Step fun path => path = [0x75])
      (.start 1 ⟨[0x75], Bytes.ofString "outer" :: CommandLine.escape :: command.words, []⟩)
      (launching 1 2 [0x75] command ++ initializing 1 2 3 read) family ∧
    Course (fun path => path = [0x75]) 1
      ⟨[0x75], Bytes.ofString "outer" :: CommandLine.escape :: command.words, []⟩
      [⟨1, (OuterStage.ofRunning.withVerbose false).spawning [0x75] command, 2⟩,
        ⟨2, InnerStage.standard.runner.spawning read, 3⟩] ∧
    ∀ other, ¬ family.Acts 2 ⟨.outer, other⟩ := by
  let command : Command :=
    ⟨CommandLine.escape, [Bytes.ofString "outer", [0x78]], by decide, by decide⟩
  let read : Command := ⟨Bytes.ofString "outer", [[0x78]], by decide, by decide⟩
  let first : Start :=
    ⟨[0x75], Bytes.ofString "outer" :: CommandLine.escape :: command.words, []⟩
  have asks : first.Asks ⟨.outer, command⟩ false :=
    ⟨⟨false, .outer, command.words⟩, rfl, rfl, rfl⟩
  have run : ∃ family, Run (Step fun path => path = [0x75]) (.start 1 first)
      (launching 1 2 [0x75] command ++ initializing 1 2 3 read) family ∧
      family.ParentOf 1 2 := by
    refine ⟨?last, ?steps, ?parent⟩
    case steps =>
      repeat first
        | exact .start
        | refine .cons (.make rfl rfl rfl (.make (.call _ _ _) trivial) trivial) ?_
        | refine .cons (.make rfl rfl rfl (.make (.call _ _ _) trivial) rfl) ?_
    case parent => exact ⟨_, rfl, rfl⟩
  obtain ⟨family, run, parent⟩ := run
  obtain ⟨⟨listener, plays⟩, keeps⟩ := neverCycles_of_run.2 run
  obtain ⟨course, never⟩ := keeps 1 first listener plays
  exact ⟨command, read, family, rfl, rfl, run, course,
    never command 2 ⟨first, listener, false, plays, asks⟩ parent⟩

end Family

end HostnameSandbox
