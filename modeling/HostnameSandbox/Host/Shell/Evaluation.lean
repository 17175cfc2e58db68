import HostnameSandbox.Host.Shell.Simple

/-!
# Carrying out commands

A command is carried out by its form.  Its status is kept, and decides whether others are carried out;
where nobody looks at it, a failure may end the shell.
-/

namespace HostnameSandbox

namespace Shell

namespace Evaluation

/-- Counts a loop off among those that are left; the result tells what that means for this loop. -/
def skipLoop : Doing Skip := do
  let state ← get
  match state.skip with
  | .breaking count => do
      set { state with skip := if count ≤ 1 then .nothing else .breaking (count - 1) }
      return .breaking count
  | .continuing count => do
      if count ≤ 1 then
        set { state with skip := .nothing }
        return .continuing count
      else
        set { state with skip := .continuing (count - 1) }
        return .breaking count
  | skip => return skip

/-- Whether a loop goes on. -/
def goesOn : Skip → Bool
  | .nothing | .continuing _ => true
  | _ => false

/-- Does something within a loop. -/
def inLoop {α : Type} (doing : Doing α) : Doing α := do
  modify fun state => { state with loops := state.loops + 1 }
  let result ← doing
  modify fun state => { state with loops := state.loops - 1 }
  return result

/-- Remembers where the program of a command is before the command is carried out. -/
def lookAhead : Code → Doing Unit
  | .simple _ _ (word :: _) _ =>
      match Word.plain? word with
      | some name => do
          if isName name then
            let _ ← Lookup.find name ⟨false, true, none⟩
      | none => pure ()
  | _ => pure ()

/-- Takes a place for a command, as the line that complaints tell. -/
def standAt (line : Nat) : Doing Unit :=
  if line = 0 then pure () else modify fun state => { state with line }

/-- How often a loop runs at most. -/
def limit : Nat := Nat.pow 2 60

section

variable (evaluate : Evaluator)

/-- Carries out one of two commands behind another one. -/
def conditional (context : Context) (test whenTrue : Code) (whenFalse : Option Code) :
    Doing Nat := do
  let tested ← evaluate { isTested := true } test
  if (← get).skip ≠ .nothing then return tested
  else if tested = 0 then evaluate context whenTrue
  else
    match whenFalse with
    | some code => evaluate context code
    | none => return 0

/-- Carries out a second command unless the status of the first one forbids that. -/
def joined (context : Context) (isTested : Bool) (allows : Nat → Bool) (first second : Code) :
    Doing Nat := do
  let status ← evaluate { isTested := context.isTested || isTested } first
  if allows status && (← get).skip = .nothing then evaluate context second else return status

/-- Carries out commands as long as a test says so, at most so often. -/
def repetition (context : Context) (untilTrue : Bool) (test body : Code) :
    Nat → Nat → Doing Nat
  | 0, status => return status
  | count + 1, status => do
      Trap.note
      let tested ← evaluate { isTested := true } test
      match ← skipLoop with
      | .nothing =>
          if (tested = 0) = untilTrue then return status
          else
            let status ← evaluate { isTested := context.isTested } body
            if goesOn (← skipLoop) then repetition context untilTrue test body count status
            else return status
      | .continuing _ => repetition context untilTrue test body count status
      | .returning true => return tested
      | _ => return status

/-- Carries out commands for every value of a variable. -/
def iteration (context : Context) (name : Bytes) (body : Code) : Nat → List Bytes → Doing Nat
  | status, [] => return status
  | _, value :: values => do
      Trap.note
      setVariable name value
      let status ← evaluate { isTested := context.isTested } body
      if goesOn (← skipLoop) then iteration context name body status values else return status

/-- Whether a text matches one of some patterns. -/
def matchesAny (text : Bytes) : List Word → Doing Bool
  | [] => return false
  | word :: words => do
      let pattern ← Expansion.toPattern (Session.output evaluate) word
      if Pattern.matchesText pattern text then return true else matchesAny text words

/-- Carries out the first clause with a pattern that a text matches. -/
def selection (context : Context) (text : Bytes) : List Clause → Doing Nat
  | [] => return 0
  | clause :: clauses => do
      if ← matchesAny evaluate text clause.patterns then
        if clause.body.isNothing then return 0 else evaluate context clause.body
      else selection context text clauses

/-- Connects commands by pipes, the first of which reads from `input` if that is given; the result
is their processes. -/
def connect (context : Context) (inBackground : Bool) :
    Option Descriptor → Bool → List Code → Doing (List Pid)
  | _, _, [] => return []
  | input, isFirst, code :: codes => do
      lookAhead code
      let pipe ← if codes.isEmpty then pure none
        else
          let ends ← Redirecting.pipe
          pure (some ends)
      let pid ← Session.fork evaluate do
        if inBackground then Session.detach isFirst
        pipe.forM fun (outlet, _) => Redirecting.close outlet
        input.forM fun input => Session.attach input Descriptor.input
        pipe.forM fun (_, inlet) => Session.attach inlet Descriptor.output
        let _ ← evaluate { context with isLast := true } code
      input.forM Redirecting.close
      pipe.forM fun (_, inlet) => Redirecting.close inlet
      return pid :: (← connect context inBackground (pipe.map Prod.fst) false codes)

/-- Remembers processes that go on in the background. -/
def leaveRunning (pids : List Pid) : Doing Nat := do
  Jobs.add pids
  modify fun state => { state with background := pids.getLast? }
  return 0

/-- Carries out commands that are connected by pipes. -/
def pipeline (context : Context) (inBackground : Bool) (codes : List Code) : Doing Nat := do
  if inBackground then leaveRunning (← connect evaluate context true none true codes)
  else
    Jobs.makeRoom
    Jobs.await (← connect evaluate context false none true codes)

/-- Carries out commands in another shell. -/
def apart (context : Context) (inBackground : Bool) (line : Nat) (body : Code)
    (redirections : List Redirection) : Doing Nat := do
  let output := Session.output evaluate
  standAt line
  let expanded ← redirections.mapM (Redirecting.expand output)
  let work (context : Context) : Doing Unit := do
    Redirecting.redirect output (Session.fork evaluate) false expanded
    let _ ← evaluate { context with isLast := true } body
  if inBackground then
    leaveRunning [← Session.fork evaluate do
      Session.detach true
      work {}]
  else if context.isLast && !Trap.isAny (← get) then
    Session.becomeInner
    work context
    return (← get).status
  else Session.runApart evaluate (work context)

/-- Carries out commands with other open files. -/
def redirected (context : Context) (line : Nat) (body : Code) (redirections : List Redirection) :
    Doing Nat := do
  let output := Session.output evaluate
  standAt line
  let expanded ← redirections.mapM (Redirecting.expand output)
  modify fun state => { state with kept := [] :: state.kept }
  let opened ← Doing.attempt
    (Redirecting.redirect output (Session.fork evaluate) true expanded)
  let status ← match opened with
    | .ok () => evaluate { isTested := context.isTested } body
    | .error .failed => pure 2
    | .error escape => throw escape
  Redirecting.leave false
  return status

/-- Defines a function. -/
def define (name : Bytes) (body : Code) : Doing Nat := do
  modify fun state =>
    { state with
      functions := ⟨name, body⟩ :: state.functions.filter fun found => found.name ≠ name
      tracked := state.tracked.filter fun found => found.name ≠ name }
  return 0

/-- Carries out a command by its form. -/
def byForm (context : Context) : Code → Doing Nat
  | .nothing => return 0
  | .simple line assignments words redirections =>
      Simple.run evaluate context line assignments words redirections
  | .pipeline inBackground commands => pipeline evaluate context inBackground commands
  | .redirected line body redirections => redirected evaluate context line body redirections
  | .background line body redirections => apart evaluate context true line body redirections
  | .subshell line body redirections => apart evaluate context false line body redirections
  | .conjunction first second => joined evaluate context true (· = 0) first second
  | .disjunction first second => joined evaluate context true (· ≠ 0) first second
  | .sequence first second => joined evaluate context false (fun _ => true) first second
  | .negation body => do
      let status ← evaluate { isTested := true } body
      return if (← get).skip ≠ .nothing then status else if status = 0 then 1 else 0
  | .conditional test whenTrue whenFalse => conditional evaluate context test whenTrue whenFalse
  | .repetition untilTrue test body =>
      inLoop (repetition evaluate context untilTrue test body limit 0)
  | .iteration line name words body => do
      standAt line
      let values ← words.mapM (Expansion.toFields (Session.output evaluate))
      inLoop (iteration evaluate context name body 0 values.flatten)
  | .selection line word clauses => do
      standAt line
      selection evaluate context (← Expansion.toText (Session.output evaluate) .text word) clauses
  | .definition _ name body => define name body

/-- Whether a failure of a command ends the shell if that is asked for. -/
def endsShell : Code → Bool
  | .simple _ _ _ _ | .pipeline _ _ | .background _ _ _ | .subshell _ _ _ => true
  | _ => false

/-- Carries out a command, with what is to be done about signals before and after it; that may change
its status. -/
def around (context : Context) (code : Code) : Doing Nat := do
  let heed := Trap.run (Session.runText evaluate {})
  let status ← if code.isNothing then pure 0
    else do
      heed
      if (← get).has .readsOnly then pure 0
      else
        let status ← byForm evaluate context code
        modify fun state => { state with status }
        pure status
  heed
  let isFatal := endsShell code && (← get).has .stopsOnFailure && !context.isTested && status ≠ 0
  if isFatal || context.isLast then throw .ended
  return (← get).status

end

/-- Carries out commands, nested at most so deep. -/
def evaluateAt : Nat → Evaluator
  | 0 => fun _ _ => return 0
  | depth + 1 => around (evaluateAt depth)

/-- Carries out commands. -/
def evaluate : Evaluator := evaluateAt limit

end Evaluation

end Shell

end HostnameSandbox
