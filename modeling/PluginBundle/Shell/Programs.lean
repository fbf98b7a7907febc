import PluginBundle.Shell.Start
import PluginBundle.Tools.Table

/-!
# What programs do

A process that runs a shell runs a script, and one that runs another system program does what that
program does. What both print is collected.

Nothing of the tool itself is here. Its bundler is a process of its own, which no definition can
start, so `programs` stands in for started processes: a run whose bundler is a script can be carried
out to its end. Theorems about runs hold for all `Programs`, and none is about these.
-/

namespace PluginBundle.Shell

/-- What a process does that has the contents of a program and words. -/
def launch (again : Runner) (image : ByteArray) (words : List (List Char)) : Act Unit := do
  match Tools.ofImage? image with
  | some "sh" => Act.shell again .plain words
  | some "dash" => Act.shell again .plain words
  | some "bash" => Act.shell again .extended words
  | some name =>
      match Tools.tool? name with
      | some tool => Tools.runTool (tool again (words.drop 1))
      | none => Act.setStatus 0
  | none => Act.setStatus 126

/-- Runs and expands what is nested so deep. -/
def runner : Nat → Runner
  | 0 =>
      { nest := fun _ => throw .exhausted
        segments := fun _ _ => throw .exhausted
        run := fun _ => throw .exhausted
        launch := fun _ _ => throw .exhausted }
  | depth + 1 =>
      { nest := fun c s =>
          (do
            let ending ← Act.nested (runner depth) ((runner depth).run c)
            Act.setStatus ending.status : Act Unit) s
        segments := fun purpose w s => Expand.wordSegments (runner depth).toEngine purpose w s
        run := fun c s => Act.step (runner depth) c s
        launch := fun image words s => launch (runner depth) image words s }

/-- The deepest nesting of commands, and the steps of a whole run. -/
def deepest : Nat := 20000

def stepLimit : Nat := 5000000

/-- The state in which a process starts that nothing is handed over to but its surroundings. -/
def State.initial (start : ProcessStart) (disk : Disk) : State :=
  let binding (p : String × String) : List Char × Variable :=
    (ofText p.1, .holding (ofText p.2) true)
  let channels := [(0, Channel.nowhere), (1, .collected []), (2, .collected [])]
  { dialect := .plain
    name := ofText (start.words.headD "")
    arguments := (start.words.drop 1).map ofText
    bindings := start.surroundings.environment.map binding
    functions := []
    aliases := []
    status := 0
    nested := 0
    ending := none
    streams := [(0, 0), (1, 1), (2, 2)]
    world := ⟨disk, channels, 3, 1001, stepLimit, ⟨0⟩⟩
    cwd := start.surroundings.cwd
    options := []
    pipeFails := false
    traps := []
    loops := 0
    calls := 0
    saved := []
    tested := false
    line := 0
    command := none
    process := 1000
    inner := false
    background := none
    jobs := []
    mask := 18
    optionsTaken := 0
    muted := false
    doomed := none
    frames := []
    pipeStatuses := []
    depth := 0
    switches := []
    stacked := []
    drains := []
    levels := 0 }

/-- Runs a process to its end. -/
def runProcess (start : ProcessStart) (disk : Disk) : Reply ProcessReport × Disk :=
  let act := (runner deepest).launch start.image (start.words.map ofText)
  let (result, s) := act.from (.initial start disk)
  let report (status : ExitStatus) : Reply ProcessReport :=
    let r : ProcessReport :=
      ⟨status, toBytes (s.world.collection 1), toBytes (s.world.collection 2)⟩
    if s.world.waited.nanos = 0 then .now r else .later s.world.waited r
  match result with
  | .error (.killed signal) => (report (.signaled signal false), s.world.disk)
  | .error .exhausted => (.never, s.world.disk)
  | _ => (report (.exited (s.status % 256)), s.world.disk)

/-- The system programs. -/
def programs : Programs := ⟨Tools.isProgram, runProcess⟩

end PluginBundle.Shell
