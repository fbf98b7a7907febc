import PluginBundle.Shell.Expand
import PluginBundle.Shell.Lookup
import PluginBundle.Shell.Signal

/-!
# Processes

A process works on a copy of the state of the shell that starts it. The disk and the channels are
shared, so what it does to them stays; of all else only the way it ended comes back.
-/

namespace PluginBundle.Shell

/-- How commands are run, and what a process does that has the contents of a program and words. -/
structure Runner extends Engine where
  run : Command → Act Unit
  launch : ByteArray → List (List Char) → Act Unit

/-- How a process ended. -/
inductive Ending where
  | exited (status : Nat)
  | killed (signal : Nat)
  deriving DecidableEq, Repr

/-- The status that a shell sees. -/
def Ending.status : Ending → Nat
  | .exited status => status
  | .killed signal => 128 + signal

namespace State

/-- What a new process still does for signals: it leaves out those that are left out already. -/
def keptTraps (s : State) : List (Nat × List Char) := s.traps.filter (·.2.isEmpty)

/-- A copy of the shell as a process of its own. -/
def copied (s : State) : State :=
  { s with
    traps := s.keptTraps, inner := true, jobs := [], ending := none, depth := s.depth + 1
    drains := [] }

/-- What a program inherits of a variable. -/
def inherited? (b : List Char × Variable) : Option (List Char × Variable) :=
  if b.2.exported && b.2.names = .single then
    b.2.value?.map fun text => (b.1, .holding text true)
  else none

/-- The state in which a program starts. -/
def started (words : List (List Char)) (s : State) : State :=
  { s with
    dialect := .plain
    name := words.headD []
    arguments := words.drop 1
    bindings := s.bindings.filterMap inherited?
    functions := []
    aliases := []
    status := 0
    nested := 0
    ending := none
    world := { s.world with nextProcess := s.world.nextProcess + 1 }
    options := []
    pipeFails := false
    traps := s.keptTraps
    loops := 0
    calls := 0
    saved := []
    tested := false
    line := 0
    command := none
    process := s.world.nextProcess
    inner := false
    background := none
    jobs := []
    optionsTaken := 0
    muted := false
    doomed := none
    frames := []
    pipeStatuses := []
    depth := 0
    switches := []
    stacked := []
    drains := []
    levels := 0 }

end State

namespace Act

/-- Runs a process that starts in another state, and says how it ended. A signal that it sent to the
process of the shell arrives there. -/
def asChild (start : State → State) (act : Act Unit) : Act Ending := do
  let s ← get
  let (result, t) := act.from (start s)
  let doomed := if t.process = s.process then t.doomed else none
  set { s with world := t.world, doomed := s.doomed.or doomed }
  match result with
  | .error (.killed signal) => return .killed signal
  | .error .exhausted => throw .exhausted
  | _ => return .exited (t.status % 256)

/-- Says which signal ended a process, unless that is usual. -/
def tell (e : Ending) : Act Unit :=
  match e with
  | .killed signal =>
      if signal = 2 ∨ signal = 13 then return ()
      else printError (ofText (signalDescription signal) ++ ['\n'])
  | .exited _ => return ()

/-- Waits for a process: its status becomes that of the shell. -/
def waitFor (e : Ending) : Act Unit := do
  tell e
  setStatus e.status

/-- A message about a command that cannot be run. -/
def refuse (name cause : List Char) (status : Nat) : Act Unit := do
  complain (name ++ [':', ' '] ++ cause)
  setStatus status

/-- What the shell says about a name that stands for nothing. -/
def missingText (s : State) : List Char :=
  ofText (if s.isPlain then "not found" else "command not found")

/-- Runs the program of a name in a process, and says how it ended; nothing if there is none that
can be run. -/
def runProgram? (again : Runner) (name : List Char) (arguments : List (List Char)) :
    Act (Option Ending) := do
  let s ← get
  match s.program name with
  | .missing =>
      refuse name (missingText s) 127
      return none
  | .denied =>
      refuse name (ofText "Permission denied") (if s.isPlain then 127 else 126)
      return none
  | .found file =>
      match s.prepare file name arguments with
      | .ok (image, words) => return some (← asChild (·.started words) (again.launch image words))
      | .error e =>
          let (text, status) := s.refusal e
          let isDirectory := !s.isPlain && s.world.disk.isDirectory s.cwd (State.path file)
          refuse name (if isDirectory then ofText "Is a directory" else text) status
          return none

/-- Runs the program of a name and waits for it. -/
def runProgram (again : Runner) (name : List Char) (arguments : List (List Char)) : Act Unit := do
  match ← runProgram? again name arguments with
  | some ending => waitFor ending
  | none => return ()

/-- Runs the program of a name, which the larger dialect makes absolute for it. A program that
cannot be run is told of twice. -/
def extendedProgram? (again : Runner) (name : List Char) (arguments : List (List Char)) :
    Act (Option Ending) := do
  let s ← get
  let front := if name.contains '/' && name.head? != some '/' then
      ofText (Path.ofNames true s.cwd).text ++ ['/'] else []
  let name := front ++ (if name.take 2 = ['.', '/'] && !front.isEmpty then name.drop 2 else name)
  let command := s.command
  if !name.contains '/' && s.program name matches .missing then
    refuse name (ofText "not found") 127
    return none
  else
    modify fun s => { s with command := none }
    let before := (← get).status
    setStatus 0
    let ending ← runProgram? again name arguments
    let t ← get
    modify fun t => { t with command := command }
    if ending.isNone && t.status = 126 then
      let isDirectory := s.world.disk.isDirectory s.cwd (State.path name)
      let cause := if isDirectory then "Is a directory" else "Permission denied"
      complain (name ++ ofText (": cannot execute: " ++ cause))
    else setStatus (if ending.isNone then t.status else before)
    return ending

/-- Runs the program of a name in the place of the shell. -/
def replaceBy (again : Runner) (name : List Char) (arguments : List (List Char)) : Act Unit := do
  let s ← get
  let ending ←
    if s.isPlain then runProgram? again name arguments else extendedProgram? again name arguments
  match ending with
  | some (.killed signal) => throw (.killed signal)
  | some (.exited status) =>
      modify fun s => { s with status := status, traps := [] }
      throw .exit
  | none => throw .exit

end Act

end PluginBundle.Shell
