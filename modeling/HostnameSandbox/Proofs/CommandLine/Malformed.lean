import HostnameSandbox.Proofs.CommandLine.RoundTrip
import HostnameSandbox.Proofs.Namespaces.Knowledge
import HostnameSandbox.Proofs.Process.Leading

/-!
# Malformed command lines

A command line that is refused, or whose command cannot be one, starts no run.  For it the
program does no more than write one text: to standard output and with code 0 if help or the
version was asked for, and otherwise to standard error and with code 2.  For every other command
line a stage is played.
-/

namespace HostnameSandbox

theorem Bytes.ofString_ne_nil {text : String} (nonempty : text.toList ≠ []) :
    ofString text ≠ [] := by
  intro empty
  cases chars : text.toList with
  | nil => exact nonempty chars
  | cons char rest =>
      rw [ofString, chars, List.flatMap_cons] at empty
      have length : (String.utf8EncodeChar char).length = char.utf8Size :=
        String.length_utf8EncodeChar char
      rw [(List.append_eq_nil_iff.1 empty).1] at length
      have positive := char.utf8Size_pos
      simp at length
      omega

namespace CommandLine

/-- A command line that starts no run: it is refused, or the program of its command has no name
or one with a NUL byte in it. -/
inductive Malformed (words : List Bytes) : Prop
  | refused {refusal : Refusal} (refused : parse words = .error refusal)
  | unfit {verbose : Bool} {stage : Stage} {program : Bytes} {args : List Bytes}
      (read : parse words = .ok ⟨verbose, stage, program :: args⟩)
      (unfit : program = [] ∨ (0 : UInt8) ∈ program)

/-- A command line that asks for help or for the version. -/
def AsksHelp (words : List Bytes) : Prop :=
  ∃ refusal, parse words = .error refusal ∧ refusal.isRequest = true

theorem Page.toList_text_ne_nil (page : Page) : page.text.toList ≠ [] := by
  simp [Page.text, String.toList_append]

/-- Every refusal is told with a text. -/
theorem Refusal.toList_text_ne_nil (spacing : Plain.Spacing) (refusal : Refusal) :
    (refusal.text spacing).toList ≠ [] := by
  cases refusal with
  | helpRequest page => exact Page.toList_text_ne_nil page
  | versionRequest => simp [Refusal.text, versionText]
  | nothingGiven => exact Page.toList_text_ne_nil .program
  | _ => simp [Refusal.text, String.toList_append]

theorem words_ne_nil_of_parseStage {stage : Stage} {before verbose : Bool} {words : List Bytes}
    {request : Request} (read : parseStage stage before verbose words = .ok request) :
    request.words ≠ [] := by
  fun_induction parseStage stage before verbose words with
  | case1 | case2 | case5 | case6 => cases read
  | case3 | case4 | case8 | case10 =>
      obtain rfl := Except.ok.inj read
      exact List.cons_ne_nil _ _
  | case7 _ _ _ _ _ _ _ _ hypothesis | case9 _ _ _ _ _ _ _ _ hypothesis =>
      obtain ⟨verbose, -, read⟩ := except_bind_eq_ok_iff.1 read
      exact hypothesis verbose read

/-- A command line that is read has words for a command. -/
theorem words_ne_nil_of_parseFrom {verbose : Bool} {words : List Bytes} {request : Request}
    (read : parseFrom verbose words = .ok request) : request.words ≠ [] := by
  fun_induction parseFrom verbose words with
  | case3 | case4 => exact words_ne_nil_of_parseStage read
  | case8 _ _ _ _ _ _ _ _ _ _ _ hypothesis | case10 _ _ _ _ _ _ _ _ _ _ hypothesis =>
      obtain ⟨verbose, -, read⟩ := except_bind_eq_ok_iff.1 read
      exact hypothesis verbose read
  | _ => cases read

theorem exists_fault_of_unfit {program : Bytes} (args : List Bytes)
    (unfit : program = [] ∨ (0 : UInt8) ∈ program) :
    ∃ fault, Command.ofWords (program :: args) = .error fault := by
  cases made : Command.ofWords (program :: args) with
  | error fault => exact ⟨fault, rfl⟩
  | ok command =>
      exfalso
      obtain ⟨rfl, -⟩ := List.cons.inj (Command.ofWords_eq_ok_iff.1 made)
      rcases unfit with empty | nul
      · exact command.program_ne_nil empty
      · exact command.nul_notMem_program nul

/-- A command line is malformed exactly if nothing is asked for with it. -/
theorem malformed_iff (start : Start) :
    Malformed start.args ↔ ∀ invocation verbose, ¬ start.Asks invocation verbose := by
  constructor
  · rintro malformed invocation verbose ⟨request, read, -, invoked⟩
    cases malformed with
    | refused refused =>
        rw [refused] at read
        cases read
    | @unfit also stage program args readToo unfit =>
        cases readToo.symm.trans read
        obtain ⟨fault, made⟩ := exists_fault_of_unfit args unfit
        simp [Request.invocation, made] at invoked
  · intro unasked
    cases read : parse start.args with
    | error refusal => exact .refused read
    | ok request =>
        obtain ⟨verbose, stage, words⟩ := request
        cases words with
        | nil => exact absurd rfl (words_ne_nil_of_parseFrom read)
        | cons program args =>
            refine .unfit read ?_
            by_contra fit
            obtain ⟨named, noNul⟩ := not_or.1 fit
            exact unasked ⟨stage, ⟨program, args, named, noNul⟩⟩ verbose
              ⟨_, read, rfl, invocation_eq_ok_iff.2 ⟨rfl, rfl⟩⟩

end CommandLine

/-- A call by which a run is only prepared: the process chooses what a signal does to it, or which
events are logged. -/
inductive Call.Prepares : Call → Prop
  | react (signal : Signal) (reaction : Reaction) : Prepares (.react signal reaction)
  | openLog (filter : Event.Filter) : Prepares (.openLog filter)

namespace Sandbox

/-- The program does no more than write a text, which is not empty, and ends with a code. -/
def OnlyTells (start : Start) (descriptor : Descriptor) (code : UInt8) : Prop :=
  ∃ preparations text, (∀ request ∈ preparations, request.Prepares) ∧ text ≠ [] ∧
    Process.Leads (.done code) (preparations ++ [.write descriptor text]) (program start)

/-- What the program does for a command line that starts no run. -/
structure Harmless (start : Start) : Prop where
  helped : CommandLine.AsksHelp start.args → OnlyTells start Descriptor.output 0
  told : ¬ CommandLine.AsksHelp start.args → OnlyTells start Descriptor.error 2
  /-- On any host, the program changes no host name and creates no process, unless what it writes
  to is a file that leads to the names. -/
  steady : ∀ {kernel : Kernel} {pid : Pid} {trace : List Moment} {last : Process UInt8 × Kernel},
    Run (Proceeds pid) (program start, kernel) trace last →
      ∀ moment ∈ trace, ∀ exchange, moment.exchange? = some exchange →
        (∀ task, moment.before.task? pid = some task →
          ¬ exchange.request.Renames moment.before task) →
        moment.before.Steady pid moment.after

/-- What the program does for any other command line: after its preparations it plays a stage,
which it reports first. -/
structure Dispatches (start : Start) (invocation : Invocation) (verbose : Bool) : Prop where
  asks : start.Asks invocation verbose
  plays : ∃ preparations, (∀ request ∈ preparations, request.Prepares) ∧
    Process.Leads ((invocation.run verbose).run >>= finish) preparations (program start)
  reports : ∀ talk code, Run Process.Step (program start) talk (.done code) →
    ⟨.report (.dispatching invocation.stage invocation.command), ()⟩ ∈ talk

variable {start : Start}

/-- The program begins by choosing what signals do to it. -/
theorem leads_reactions {next : PUnit → Process UInt8} :
    Process.Leads (next ⟨⟩) (reactions.map fun (signal, reaction) => .react signal reaction)
      ((reactions.forM fun (signal, reaction) => Process.react signal reaction) >>= next) :=
  .call fun _ => .call fun _ => .call fun _ => .here

theorem prepares_reactions :
    ∀ request ∈ reactions.map fun (signal, reaction) => Call.react signal reaction,
      request.Prepares := by
  intro request member
  obtain ⟨⟨signal, reaction⟩, -, rfl⟩ := List.mem_map.1 member
  exact .react signal reaction

theorem leads_of_refused {refusal : CommandLine.Refusal}
    (refused : CommandLine.parse start.args = .error refusal) :
    Process.Leads (.done refusal.exitCode)
      ((reactions.map fun (signal, reaction) => .react signal reaction) ++
        [.write (if refusal.isRequest then Descriptor.output else Descriptor.error)
          (Bytes.ofString (refusal.text .interrupts))])
      (program start) := by
  refine leads_reactions.trans ?_
  rw [refused]
  exact .call fun _ => .here

/-- What the program does before it carries out a request. -/
def preparations (start : Start) (request : CommandLine.Request) : List Call :=
  (reactions.map fun (signal, reaction) => .react signal reaction) ++
    [.openLog (.choose (start.environment.value? logVariable) request.verbose)]

theorem leads_preparations {request : CommandLine.Request}
    (read : CommandLine.parse start.args = .ok request) :
    Process.Leads ((serve request).run >>= finish) (preparations start request)
      (program start) := by
  refine leads_reactions.trans ?_
  rw [read]
  exact .call fun _ => .here

theorem leads_of_read {request : CommandLine.Request}
    (read : CommandLine.parse start.args = .ok request) :
    ∃ preparations, (∀ request ∈ preparations, request.Prepares) ∧
      Process.Leads ((serve request).run >>= finish) preparations (program start) := by
  refine ⟨preparations start request, fun other member => ?_, leads_preparations read⟩
  rcases List.mem_append.1 member with reacts | opens
  · exact prepares_reactions other reacts
  · rw [List.mem_singleton.1 opens]
    exact .openLog _

theorem onlyTells_of_refused {refusal : CommandLine.Refusal}
    (refused : CommandLine.parse start.args = .error refusal) :
    OnlyTells start (if refusal.isRequest then Descriptor.output else Descriptor.error)
      refusal.exitCode :=
  ⟨_, _, prepares_reactions, Bytes.ofString_ne_nil (refusal.toList_text_ne_nil .interrupts),
    leads_of_refused refused⟩

/-- A command that cannot be one is told like any failure. -/
theorem onlyTells_of_unfit {request : CommandLine.Request} {fault : InvalidCommand}
    (read : CommandLine.parse start.args = .ok request)
    (unfit : Command.ofWords request.words = .error fault) :
    OnlyTells start Descriptor.error 2 := by
  obtain ⟨preparations, prepare, leads⟩ := leads_of_read read
  have fails : (serve request).run = .done (.error (.invocation (.command fault))) := by
    simp only [serve, CommandLine.Request.invocation, unfit]
    rfl
  rw [fails] at leads
  refine ⟨preparations, Bytes.ofString (diagnostic (.invocation (.command fault))), prepare,
    Bytes.ofString_ne_nil (by simp [diagnostic, String.toList_append]), leads.trans ?_⟩
  exact .call fun _ => .here

/-- A process that only tells something changes no name by its calls, and creates nothing. -/
theorem steady_of_onlyTells {descriptor : Descriptor} {code : UInt8} {kernel : Kernel} {pid : Pid}
    {trace : List Moment} {last : Process UInt8 × Kernel} {moment : Moment}
    {exchange : Exchange} (tells : OnlyTells start descriptor code)
    (run : Run (Proceeds pid) (program start, kernel) trace last) (member : moment ∈ trace)
    (made : moment.exchange? = some exchange)
    (astray : ∀ task, moment.before.task? pid = some task →
      ¬ exchange.request.Renames moment.before task) :
    moment.before.Steady pid moment.after := by
  obtain ⟨preparations, text, prepare, -, leads⟩ := tells
  have asked : exchange.request ∈ preparations ++ [.write descriptor text] :=
    leads.request_mem (run_talkOf run) (List.mem_filterMap.2 ⟨moment, member, made⟩)
  obtain ⟨earlier, later, rfl⟩ := List.append_of_mem member
  obtain ⟨before, after, -, proceeds, -⟩ := run.split_at
  cases proceeds with
  | others spares => cases made
  | own step answers =>
      cases made
      cases answers with
      | failed fails => exact .refl _
      | @served task request reply after found answered =>
          have present : Kernel.Houses _ task := Kernel.houses_of_mem (Kernel.mem_of_task? found)
          have change := (Kernel.leaves_attempt present).of_answered answered
          obtain rfl := Kernel.task?_pid found
          cases change with
          | settles settles => exact settles.steady
          | renamed change may rest => exact absurd may (astray task found)
          | bore asks bears =>
              subst asks
              rcases List.mem_append.1 asked with prepares | writes
              · cases prepare _ prepares
              · simp at writes

theorem harmless_of_malformed (malformed : CommandLine.Malformed start.args) :
    Harmless start := by
  have tells : ∃ descriptor code, OnlyTells start descriptor code ∧
      (CommandLine.AsksHelp start.args → descriptor = Descriptor.output ∧ code = 0) ∧
      (¬ CommandLine.AsksHelp start.args → descriptor = Descriptor.error ∧ code = 2) := by
    cases malformed with
    | @refused refusal refused =>
        refine ⟨_, _, onlyTells_of_refused refused, ?_, fun unasked => ?_⟩
        · rintro ⟨other, refusedToo, isRequest⟩
          cases refused.symm.trans refusedToo
          simp [CommandLine.Refusal.exitCode, isRequest]
        · have isFault : refusal.isRequest = false := by
            by_contra isRequest
            exact unasked ⟨refusal, refused, by simpa using isRequest⟩
          simp [CommandLine.Refusal.exitCode, isFault]
    | @unfit verbose stage program args read unfit =>
        refine ⟨_, _, ?_, ?_, fun _ => ⟨rfl, rfl⟩⟩
        · obtain ⟨fault, isFault⟩ := CommandLine.exists_fault_of_unfit args unfit
          exact onlyTells_of_unfit read isFault
        · rintro ⟨refusal, refused, -⟩
          cases read.symm.trans refused
  obtain ⟨descriptor, code, tells, helped, told⟩ := tells
  constructor
  case helped =>
    intro asks
    obtain ⟨rfl, rfl⟩ := helped asks
    exact tells
  case told =>
    intro unasked
    obtain ⟨rfl, rfl⟩ := told unasked
    exact tells
  case steady =>
    intro kernel pid trace last run moment member exchange made astray
    exact steady_of_onlyTells tells run member made astray

theorem dispatches_of_asks {invocation : Invocation} {verbose : Bool}
    (asks : start.Asks invocation verbose) : Dispatches start invocation verbose := by
  obtain ⟨request, read, rfl, invoked⟩ := asks
  obtain ⟨preparations, prepare, leads⟩ := leads_of_read read
  have serves : serve request = invocation.run request.verbose := by
    simp only [serve, invoked]
  rw [serves] at leads
  refine ⟨⟨request, read, rfl, invoked⟩, ⟨preparations, prepare, leads⟩, ?_⟩
  intro talk code run
  have reported : ∃ played, Process.Leads played
      [.report (.dispatching invocation.stage invocation.command)]
      ((invocation.run request.verbose).run >>= finish) := ⟨_, .call fun () => .here⟩
  obtain ⟨played, reports⟩ := reported
  have made := ((leads.trans reports).prefix_of_done run).subset
    (List.mem_append_right _ (List.mem_singleton_self _))
  obtain ⟨⟨_, reply⟩, member, rfl⟩ := List.mem_map.1 made
  exact member

end Sandbox

end HostnameSandbox
