import PluginBundle.Process.ExitStatus
import PluginBundle.Shell.Arithmetic

/-!
# Signals

The names and numbers of signals, and what a signal does that no script looks after.
-/

namespace PluginBundle.Shell

/-- The names of signals without their common front, by number. Number zero is the end of a
script. -/
def signalNames : List String :=
  "EXIT" :: ExitStatus.signalNames.map fun name => String.ofList (name.toList.drop 3)

/-- The name of a signal. -/
def signalName (n : Nat) : List Char :=
  match signalNames[n]? with
  | some name => name.toList
  | none =>
      if n = 34 then "RTMIN".toList
      else if n = 64 then "RTMAX".toList
      else if n < 50 then "RTMIN+".toList ++ Nat.toDigits 10 (n - 34)
      else "RTMAX-".toList ++ Nat.toDigits 10 (64 - n)

/-- The number of a signal that is named by a number or a name. -/
def signalNumber? (cs : List Char) : Option Nat :=
  if !cs.isEmpty && cs.all Char.isDigit then
    let n := Reader.numberIn 10 cs
    if n ≤ 64 then some n else none
  else
    let name := cs.map Char.toUpper
    let short := if "SIG".toList.isPrefixOf name then name.drop 3 else name
    (List.range 65).find? fun n => signalName n == short

/-- What the larger dialect can wait for besides signals, by its number. -/
def eventNames : List (Nat × String) :=
  [(65, "DEBUG"), (66, "ERR"), (67, "RETURN")]

/-- The number of what a script can wait for. -/
def eventNumber? (plain : Bool) (cs : List Char) : Option Nat :=
  match signalNumber? cs with
  | some n => some n
  | none =>
      if plain then none
      else (eventNames.find? fun e => e.2.toList == cs.map Char.toUpper).map (·.1)

/-- What a signal does by itself. -/
inductive SignalEffect where
  | ignored
  | stops
  | kills
  deriving DecidableEq, Repr

def signalEffect (n : Nat) : SignalEffect :=
  if n = 0 ∨ n = 17 ∨ n = 18 ∨ n = 23 ∨ n = 28 then .ignored
  else if n = 19 ∨ n = 20 ∨ n = 21 ∨ n = 22 then .stops
  else .kills

/-- What a shell says about a program that a signal ended. -/
def signalDescription (n : Nat) : String :=
  let known : List (Nat × String) :=
    [(1, "Hangup"), (2, "Interrupt"), (3, "Quit"), (4, "Illegal instruction"),
     (5, "Trace/breakpoint trap"), (6, "Aborted"), (7, "Bus error"),
     (8, "Floating point exception"), (9, "Killed"), (10, "User defined signal 1"),
     (11, "Segmentation fault"), (12, "User defined signal 2"), (13, "Broken pipe"),
     (14, "Alarm clock"), (15, "Terminated"), (16, "Stack fault"),
     (24, "CPU time limit exceeded"), (25, "File size limit exceeded"),
     (26, "Virtual timer expired"), (27, "Profiling timer expired"), (29, "I/O possible"),
     (30, "Power failure"), (31, "Bad system call")]
  match known.lookup n with
  | some text => text
  | none =>
      if 34 ≤ n then "Real-time signal " ++ Nat.repr (n - 34) else "Unknown signal " ++ Nat.repr n

end PluginBundle.Shell
