import HostnameSandbox.Proofs.CommandLine.Malformed
import HostnameSandbox.Proofs.Namespaces.Programs
import HostnameSandbox.Proofs.Process.Sequel
import HostnameSandbox.Proofs.Supervision.History

/-!
# How the program tells about a failure

The program writes a line about a failure only after it has carried out its request, only if that
has come to the failure, and then it ends.  It has at most one such line to write, and the text of
a refused command line is none.
-/

namespace HostnameSandbox

theorem Bytes.ofString_append (first second : String) :
    ofString (first ++ second) = ofString first ++ ofString second := by
  rw [ofString, String.toList_append, List.flatMap_append]
  rfl

namespace Sandbox

/-- What a line begins with that tells about a failure. -/
def mark : Bytes := Bytes.ofString "❌ Error: "

/-- The line that tells about a failure, as it is written. -/
def line (failure : Failure) : Bytes := Bytes.ofString (diagnostic failure)

theorem mark_isPrefix_line (failure : Failure) : mark <+: line failure := by
  rw [line, diagnostic, String.append_assoc, Bytes.ofString_append]
  exact List.prefix_append _ _

end Sandbox

/-- A line that tells about a failure, if such a one is written to standard error. -/
def Exchange.diagnostic? : Exchange → Option Bytes
  | ⟨.write descriptor bytes, _⟩ =>
      if descriptor = Descriptor.error ∧ Sandbox.mark <+: bytes then some bytes else none
  | _ => none

/-- The lines that tell about failures in some exchanges. -/
def diagnosticsIn (talk : List Exchange) : List Bytes :=
  talk.filterMap Exchange.diagnostic?

@[simp]
theorem diagnosticsIn_append (first second : List Exchange) :
    diagnosticsIn (first ++ second) = diagnosticsIn first ++ diagnosticsIn second :=
  List.filterMap_append

theorem Exchange.diagnostic?_eq_none {exchange : Exchange}
    (silent : ∀ descriptor bytes, exchange.request ≠ .write descriptor bytes) :
    exchange.diagnostic? = none := by
  obtain ⟨request, reply⟩ := exchange
  cases request with
  | write descriptor bytes => exact absurd rfl (silent descriptor bytes)
  | _ => rfl

theorem diagnosticsIn_eq_nil {talk : List Exchange}
    (silent : ∀ exchange ∈ talk, ∀ descriptor bytes,
      exchange.request ≠ .write descriptor bytes) : diagnosticsIn talk = [] :=
  List.filterMap_eq_nil_iff.2 fun exchange made =>
    Exchange.diagnostic?_eq_none (silent exchange made)

/-! ### Refused command lines -/

section Refused

theorem Sandbox.not_mark_isPrefix {opening rest : String} {byte : UInt8}
    (begins : (Bytes.ofString opening).head? = some byte) (differs : byte ≠ 0xe2) :
    ¬ mark <+: Bytes.ofString (opening ++ rest) := by
  rintro ⟨tail, same⟩
  rw [Bytes.ofString_append] at same
  have first : (Bytes.ofString opening ++ Bytes.ofString rest).head? = some 0xe2 := by
    rw [← same]
    rfl
  rw [List.head?_append, begins] at first
  exact differs (Option.some.inj first)

/-- The text of a refusal is no line about a failure. -/
theorem CommandLine.Refusal.not_mark_isPrefix_text (spacing : Plain.Spacing)
    (refusal : Refusal) : ¬ Sandbox.mark <+: Bytes.ofString (refusal.text spacing) := by
  have ofPage (page : Page) : ¬ Sandbox.mark <+: Bytes.ofString page.text := by
    rw [Page.text, String.append_assoc, String.append_assoc, String.append_assoc]
    cases page with
    | program => exact Sandbox.not_mark_isPrefix rfl (by decide)
    | stage named => cases named <;> exact Sandbox.not_mark_isPrefix rfl (by decide)
    | help => exact Sandbox.not_mark_isPrefix rfl (by decide)
  cases refusal with
  | helpRequest page => exact ofPage page
  | nothingGiven => exact ofPage .program
  | versionRequest =>
      have text : versionText = "u" ++ "tsbox 0.1.0\n" := rfl
      rw [Refusal.text, text]
      exact Sandbox.not_mark_isPrefix rfl (by decide)
  | _ =>
      simp only [Refusal.text, String.append_assoc]
      exact Sandbox.not_mark_isPrefix rfl (by decide)

end Refused

/-! ### Carrying out a request -/

/-- How a stage comes to a result, by how far it has come with its child: it does not wait for one
any more, and takes the end of one over. -/
def Duty.Ends (duty : Duty) (result : Except Failure UInt8) : Prop :=
  duty.child? = none ∧
    ∀ child status, duty = .settled child status → ∃ label, result = concluded label status

/-- A stage that comes to a result does not wait for a child any more, and takes its end over. -/
theorem Invocation.Decides.ends {invocation : Invocation}
    {supervisor : Supervisor} {result : Except Failure UInt8}
    (decides : invocation.Decides supervisor result) : supervisor.duty.Ends result := by
  refine ⟨decides.child?_eq_none, fun child status settled => ?_⟩
  have decided {label failed} (decides : supervisor.duty.Decides label failed result) :
      ∃ label, result = concluded label status := by
    rw [settled] at decides
    exact ⟨label, decides⟩
  obtain ⟨stage, command⟩ := invocation
  cases stage with
  | outer =>
      rcases decides with ⟨free, -⟩ | ⟨path, -, decides⟩
      · cases settled.symm.trans free
      · exact decided decides
  | inner =>
      rcases decides with ⟨free, -⟩ | decides
      · cases settled.symm.trans free
      · exact decided decides

theorem Supervisor.of_append (mayStart : Option Bytes → Spawning → Prop)
    (first second : List Exchange) : Supervisor.of (first ++ second) =
      (supervision mayStart).afterAll (Supervisor.of first) second :=
  List.foldl_append

namespace Sandbox

/-- After its preparations the program has carried out its request, which has come to a result. -/
def Returned (start : Start) (talk : List Exchange) (result : Except Failure UInt8) : Prop :=
  ∃ request preparing serving rest, CommandLine.parse start.args = .ok request ∧
    talk = preparing ++ serving ++ rest ∧
    preparing.map Exchange.request = preparations start request ∧
    Run Process.Step (serve request).run serving (.done result)

variable {start : Start} {request : CommandLine.Request} {talk : List Exchange}
  {process : Process UInt8} {after : Process (Except Failure UInt8)}
  {result : Except Failure UInt8} {failure : Failure} {supervisor : Supervisor}

theorem not_write_of_preparing {preparing : List Exchange}
    (among : preparing.map Exchange.request <+: preparations start request) :
    ∀ exchange ∈ preparing, ∀ descriptor bytes, exchange.request ≠ .write descriptor bytes := by
  intro exchange made descriptor bytes writes
  have member : exchange.request ∈ preparations start request :=
    among.subset (List.mem_map_of_mem made)
  simp [preparations, reactions, writes] at member

/-- While the program carries out a request, it writes nothing. -/
theorem not_write_of_serving (run : Run Process.Step (serve request).run talk after) :
    ∀ exchange ∈ talk, ∀ descriptor bytes, exchange.request ≠ .write descriptor bytes := by
  intro exchange made descriptor bytes writes
  unfold serve at run
  cases invoked : request.invocation with
  | error failure =>
      rw [invoked] at run
      obtain ⟨rfl, -⟩ := Process.eq_nil_of_run_done run
      cases made
  | ok invocation =>
      rw [invoked] at run
      obtain ⟨stage, command⟩ := invocation
      cases stage with
      | outer =>
          have calls : (Invocation.run ⟨.outer, command⟩ request.verbose).run.Keeps quiet
              (fun _ _ => True) () := by
            refine keeps_lift_bind (Process.keeps_ask (.inl rfl) fun _ => ?_)
            exact OuterStage.keeps_quiet _ command
          obtain ⟨_, allowed⟩ := calls.allows_of_mem run made
          rw [writes] at allowed
          rcases allowed with outer | ⟨spawning, spawns⟩
          · cases outer
          · cases spawns
      | inner =>
          have calls : (Invocation.run ⟨.inner, command⟩ request.verbose).run.Keeps
              (preparation (InnerStage.standard.plan command) false) (fun _ _ => True)
              .initial := by
            have able : Preparation.initial.Able := Preparation.able_of_effects (by simp)
            refine keeps_lift_bind (able.keeps_report ?_)
            exact InnerStage.prepares_run (fun _ _ _ _ => trivial) fun _ _ _ _ => trivial
          obtain ⟨reached, -, -, allowed⟩ := calls.allows_of_mem run made
          rw [writes] at allowed
          cases allowed

/-- After its preparations a stage has done nothing yet about a child. -/
theorem supervisor_of_preparing {preparing : List Exchange}
    (all : preparing.map Exchange.request = preparations start request) :
    Supervisor.of preparing = .initial := by
  obtain ⟨⟨_, _⟩, later, rfl, rfl, second⟩ := List.map_eq_cons_iff.1 all
  obtain ⟨⟨_, _⟩, later, rfl, rfl, third⟩ := List.map_eq_cons_iff.1 second
  obtain ⟨⟨_, _⟩, later, rfl, rfl, fourth⟩ := List.map_eq_cons_iff.1 third
  obtain ⟨⟨_, _⟩, later, rfl, rfl, none⟩ := List.map_eq_cons_iff.1 fourth
  obtain rfl := List.map_eq_nil_iff.1 none
  rfl

theorem ends_of_serving {ready : Supervisor} (begins : ready = .initial)
    (run : Run Process.Step (serve request).run talk (.done result)) :
    ((supervision fun _ _ => True).afterAll ready talk).duty.Ends result := by
  have keeps : (serve request).run.Keeps (supervision fun _ _ => True)
      (fun result after => after.duty.Ends result) ready := by
    rw [begins]
    unfold serve
    cases request.invocation with
    | error failure => exact ⟨rfl, fun _ _ => nofun⟩
    | ok invocation =>
        exact Invocation.keeps_run rfl rfl rfl (fun _ _ _ => trivial)
          fun _ _ decides => decides.ends
  exact keeps.run run

/-- What the program does once its request has come to a result: it ends, or tells about the failure
first. -/
theorem finish_cases (run : Run Process.Step (finish result) talk process) :
    (talk = [] ∧ process = finish result) ∨
      ∃ failure reply, result = .error failure ∧
        talk = [⟨.write Descriptor.error (line failure), reply⟩] ∧
        process = .done (exitCodeOf failure.exitCode) := by
  induction run with
  | start => exact .inl ⟨rfl, rfl⟩
  | next run step hypothesis =>
      rcases hypothesis with ⟨rfl, rfl⟩ | ⟨failure, reply, rfl, rfl, rfl⟩
      · cases result with
        | ok code => cases step
        | error failure =>
            cases step with
            | call _ _ reply => exact .inr ⟨failure, reply, rfl, rfl, rfl⟩
      · cases step

/-- A program that has carried out its request has come to the end of its run, or to where it tells
about a failure. -/
theorem Returned.cases (returned : Returned start talk result)
    (run : Run Process.Step (program start) talk process) :
    (Supervisor.of talk).duty.Ends result ∧
      ((diagnosticsIn talk = [] ∧ process = finish result) ∨
        ∃ failure, result = .error failure ∧ diagnosticsIn talk = [line failure] ∧
          process = .done (exitCodeOf failure.exitCode)) := by
  obtain ⟨request, preparing, serving, rest, read, rfl, all, served⟩ := returned
  obtain ⟨between, before, after⟩ := run.split
  have reached : Run Process.Step (program start) (preparing ++ serving) (finish result) :=
    (leads_preparations read).run_of_all all |>.trans (Process.run_bind served finish)
  obtain rfl := Process.run_unique before reached
  have silent : diagnosticsIn (preparing ++ serving) = [] := by
    refine diagnosticsIn_eq_nil fun exchange made => ?_
    rcases List.mem_append.1 made with made | made
    · exact not_write_of_preparing ⟨[], (List.append_nil _).trans all⟩ exchange made
    · exact not_write_of_serving served exchange made
  have ends : (Supervisor.of (preparing ++ serving)).duty.Ends result := by
    rw [Supervisor.of_append fun _ _ => True]
    exact ends_of_serving (supervisor_of_preparing all) served
  rcases finish_cases after with ⟨rfl, rfl⟩ | ⟨failure, reply, rfl, rfl, rfl⟩
  · rw [List.append_nil]
    exact ⟨ends, .inl ⟨silent, rfl⟩⟩
  · rw [Supervisor.of_concat, diagnosticsIn_append, silent]
    refine ⟨ends, .inr ⟨failure, rfl, ?_, rfl⟩⟩
    simp [diagnosticsIn, Exchange.diagnostic?, mark_isPrefix_line]

/-- Where its command line is read, the program has written nothing, or it has carried out its
request, without writing, and goes on by what that has come to. -/
theorem silent_or_returned (read : CommandLine.parse start.args = .ok request)
    (run : Run Process.Step (program start) talk process) :
    (∀ exchange ∈ talk, ∀ descriptor bytes, exchange.request ≠ .write descriptor bytes) ∨
      ∃ before rest result, talk = before ++ rest ∧ Returned start talk result ∧
        (∀ exchange ∈ before, ∀ descriptor bytes, exchange.request ≠ .write descriptor bytes) ∧
        Run Process.Step (finish result) rest process := by
  rcases (leads_preparations read).run_cases run with
    ⟨rest, calls, -⟩ | ⟨preparing, later, rfl, all, goesOn⟩
  · exact .inl (not_write_of_preparing ⟨rest, calls.symm⟩)
  · have prepared := not_write_of_preparing ⟨[], (List.append_nil _).trans all⟩
    rcases (keeps_serve read).run_bind_cases goesOn with
      ⟨between, serving, -⟩ | ⟨serving, rest, result, rfl, served, finishes⟩
    · exact .inl (List.forall_mem_append.2 ⟨prepared, not_write_of_serving serving⟩)
    · refine .inr ⟨preparing ++ serving, rest, result, by simp, ?_, ?_, finishes⟩
      · exact ⟨request, preparing, serving, rest, read, by simp, all, served⟩
      · exact List.forall_mem_append.2 ⟨prepared, not_write_of_serving served⟩

/-- Where its command line is read, the program writes nothing but the line about the failure that
its request has come to, and that to its standard error. -/
theorem line_of_write (read : CommandLine.parse start.args = .ok request)
    (run : Run Process.Step (program start) talk process) {exchange : Exchange}
    (made : exchange ∈ talk) {descriptor : Descriptor} {bytes : Bytes}
    (writes : exchange.request = .write descriptor bytes) :
    ∃ failure, Returned start talk (.error failure) ∧ descriptor = Descriptor.error ∧
      bytes = line failure := by
  rcases silent_or_returned read run with
    silent | ⟨before, rest, result, rfl, returned, silent, finishes⟩
  · exact absurd writes (silent exchange made descriptor bytes)
  · rcases List.mem_append.1 made with early | late
    · exact absurd writes (silent exchange early descriptor bytes)
    · rcases finish_cases finishes with ⟨rfl, -⟩ | ⟨failure, reply, rfl, rfl, -⟩
      · cases late
      · obtain rfl := List.mem_singleton.1 late
        cases writes
        exact ⟨failure, returned, rfl, rfl⟩

/-- Whatever the program has done, it has told about no failure, or once about the one that its
request has come to. -/
theorem diagnosticsIn_cases (run : Run Process.Step (program start) talk process) :
    diagnosticsIn talk = [] ∨
      ∃ failure, Returned start talk (.error failure) ∧ diagnosticsIn talk = [line failure] := by
  cases read : CommandLine.parse start.args with
  | error refusal =>
      refine .inl (List.filterMap_eq_nil_iff.2 fun exchange made => ?_)
      have member := (leads_of_refused read).request_mem run made
      obtain ⟨asked, reply⟩ := exchange
      rcases List.mem_append.1 member with reacts | writes
      · obtain ⟨entry, -, rfl⟩ := List.mem_map.1 reacts
        rfl
      · obtain rfl := List.mem_singleton.1 writes
        exact if_neg fun told => refusal.not_mark_isPrefix_text .interrupts told.2
  | ok request =>
      rcases silent_or_returned read run with
        silent | ⟨before, rest, result, -, returned, -, -⟩
      · exact .inl (diagnosticsIn_eq_nil silent)
      · rcases (returned.cases run).2 with ⟨silent, -⟩ | ⟨failure, rfl, told, -⟩
        · exact .inl silent
        · exact .inr ⟨failure, returned, told⟩

end Sandbox

end HostnameSandbox
