/-!
# How a process ended

A process exits with a code or is ended by a signal. The status word of the operating system knows
two more states, which are decoded and shown like the others. A word that encodes none of them is
shown as it is.
-/

namespace PluginBundle

/-- The end of a process, or a change that its parent was told of. -/
inductive ExitStatus where
  | exited (code : Nat)
  | signaled (signal : Nat) (coreDumped : Bool)
  | stopped (signal : Nat)
  | continued
  | unrecognized (word : Nat)
  deriving DecidableEq, Repr

namespace ExitStatus

/-- The state that a status word of 32 bits encodes. -/
def ofWaitStatus (word : Nat) : ExitStatus :=
  let low := word % 128
  if low = 0 then .exited (word / 256 % 256)
  else if low ≠ 127 then .signaled low (word / 128 % 2 = 1)
  else if word % 256 = 127 then .stopped (word / 256 % 256)
  else if word = 0xFFFF then .continued
  else .unrecognized word

def success (s : ExitStatus) : Bool := s == .exited 0

/-- The names of the signals from 1 on. -/
def signalNames : List String :=
  ["SIGHUP", "SIGINT", "SIGQUIT", "SIGILL", "SIGTRAP", "SIGABRT", "SIGBUS", "SIGFPE", "SIGKILL",
   "SIGUSR1", "SIGSEGV", "SIGUSR2", "SIGPIPE", "SIGALRM", "SIGTERM", "SIGSTKFLT", "SIGCHLD",
   "SIGCONT", "SIGSTOP", "SIGTSTP", "SIGTTIN", "SIGTTOU", "SIGURG", "SIGXCPU", "SIGXFSZ",
   "SIGVTALRM", "SIGPROF", "SIGWINCH", "SIGIO", "SIGPWR", "SIGSYS"]

/-- The number of a signal and its name where it has one. -/
def signalText (signal : Nat) : String :=
  Nat.repr signal ++
    match signalNames[signal - 1]? with
    | some name => if signal = 0 then "" else " (" ++ name ++ ")"
    | none => ""

/-- A word of 32 bits as a signed number and in hexadecimal digits. -/
def wordText (word : Nat) : String :=
  let signed := if word < 2147483648 then Nat.repr word else "-" ++ Nat.repr (4294967296 - word)
  signed ++ " 0x" ++ String.ofList (Nat.toDigits 16 word)

/-- The state as messages show it. -/
def text : ExitStatus → String
  | .exited code => "exit status: " ++ Nat.repr code
  | .signaled signal false => "signal: " ++ signalText signal
  | .signaled signal true => "signal: " ++ signalText signal ++ " (core dumped)"
  | .stopped signal => "stopped (not terminated) by signal: " ++ signalText signal
  | .continued => "continued (WIFCONTINUED)"
  | .unrecognized word => "unrecognised wait status: " ++ wordText word

end ExitStatus

end PluginBundle
