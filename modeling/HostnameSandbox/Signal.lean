/-!
# Signals and exit statuses

A process ends by exiting with a code or by a signal that it does not handle.
-/

namespace HostnameSandbox

/-- A signal, by its number. -/
structure Signal where
  number : Nat
deriving DecidableEq, Repr

namespace Signal

/-- The request to hang up. -/
def hangup : Signal := ⟨1⟩

/-- The report of an access to memory that is not there. -/
def busError : Signal := ⟨7⟩

/-- The report of an arithmetic operation without a result. -/
def arithmeticError : Signal := ⟨8⟩

/-- The interruption that a user asks for. -/
def interrupt : Signal := ⟨2⟩

/-- The quit that a user asks for. -/
def quit : Signal := ⟨3⟩

/-- The kill that cannot be handled. -/
def kill : Signal := ⟨9⟩

/-- The report of an access to memory that is not allowed. -/
def segmentFault : Signal := ⟨11⟩

/-- The report that nobody reads what is written. -/
def brokenPipe : Signal := ⟨13⟩

/-- The request to terminate. -/
def terminate : Signal := ⟨15⟩

/-- The report that a child has ended. -/
def childEnded : Signal := ⟨17⟩

/-- The request to go on after a stop. -/
def resume : Signal := ⟨18⟩

/-- The stop that cannot be handled. -/
def stop : Signal := ⟨19⟩

/-- The report that a file would become larger than it may. -/
def fileTooLarge : Signal := ⟨25⟩

/-- The signals that the C library keeps for itself. -/
def reserved : List Signal := [⟨32⟩, ⟨33⟩]

/-- The signals with a name, without the common beginning of their names. -/
def names : List (String × Signal) :=
  [("HUP", ⟨1⟩), ("INT", ⟨2⟩), ("QUIT", ⟨3⟩), ("ILL", ⟨4⟩), ("TRAP", ⟨5⟩), ("ABRT", ⟨6⟩),
    ("BUS", ⟨7⟩), ("FPE", ⟨8⟩), ("KILL", ⟨9⟩), ("USR1", ⟨10⟩), ("SEGV", ⟨11⟩),
    ("USR2", ⟨12⟩), ("PIPE", ⟨13⟩), ("ALRM", ⟨14⟩), ("TERM", ⟨15⟩), ("STKFLT", ⟨16⟩),
    ("CHLD", ⟨17⟩), ("CONT", ⟨18⟩), ("STOP", ⟨19⟩), ("TSTP", ⟨20⟩), ("TTIN", ⟨21⟩),
    ("TTOU", ⟨22⟩), ("URG", ⟨23⟩), ("XCPU", ⟨24⟩), ("XFSZ", ⟨25⟩), ("VTALRM", ⟨26⟩),
    ("PROF", ⟨27⟩), ("WINCH", ⟨28⟩), ("IO", ⟨29⟩), ("PWR", ⟨30⟩), ("SYS", ⟨31⟩)]

/-- How the C library describes the signals that have names. -/
def descriptions : List String :=
  ["Hangup", "Interrupt", "Quit", "Illegal instruction", "Trace/breakpoint trap", "Aborted",
    "Bus error", "Floating point exception", "Killed", "User defined signal 1",
    "Segmentation fault", "User defined signal 2", "Broken pipe", "Alarm clock", "Terminated",
    "Stack fault", "Child exited", "Continued", "Stopped (signal)", "Stopped",
    "Stopped (tty input)", "Stopped (tty output)", "Urgent I/O condition",
    "CPU time limit exceeded", "File size limit exceeded", "Virtual timer expired",
    "Profiling timer expired", "Window changed", "I/O possible", "Power failure",
    "Bad system call"]

/-- The first of the signals that have numbers only. -/
def firstNumbered : Nat := 34

/-- The greatest signal number. -/
def greatest : Nat := 64

/-- The full name of a signal, or its number if it has none. -/
def name (signal : Signal) : String :=
  match names.find? fun entry => entry.2 = signal with
  | some entry => "SIG" ++ entry.1
  | none => toString signal.number

/-- How the C library describes a signal. -/
def description (signal : Signal) : String :=
  match descriptions[signal.number - 1]? with
  | some text => if signal.number = 0 then "Unknown signal 0" else text
  | none =>
      if firstNumbered ≤ signal.number then
        "Real-time signal " ++ toString (signal.number - firstNumbered)
      else "Unknown signal " ++ toString signal.number

/-- Whether a process that does nothing about the signal stops until it is told to go on. -/
def stops (signal : Signal) : Bool :=
  [19, 20, 21, 22].contains signal.number

/-- Whether a process that does nothing about the signal dies of it.  The others stop it or are
dropped. -/
def isFatal (signal : Signal) : Bool :=
  decide (signal.number ≠ 0) &&
    !([17, 18, 19, 20, 21, 22, 23, 28].contains signal.number)

/-- Whether a process may choose to handle or drop the signal. -/
def canBeHandled (signal : Signal) : Bool :=
  decide (signal ≠ kill) && decide (signal ≠ stop)

end Signal

/-- How a process ended. -/
inductive ExitStatus where
  | exited (code : UInt8)
  | killed (signal : Signal)
deriving DecidableEq, Repr

/-- The code that a process ends with when it asks for `status`: the lowest eight bits. -/
def exitCodeOf (status : Int) : UInt8 :=
  UInt8.ofNat (status % 256).toNat

end HostnameSandbox
