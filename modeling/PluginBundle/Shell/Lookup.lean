import PluginBundle.Process.Spawn
import PluginBundle.Shell.State
import PluginBundle.Tools.Image

/-!
# Looking up commands

A name without a slash is looked up along the search path. A shell takes a file that is in no format
that can be run for a script.
-/

namespace PluginBundle.Shell

/-- What a name along the search path leads to. -/
inductive FoundProgram where
  | found (path : List Char)
  | denied
  | missing
  deriving DecidableEq, Repr

namespace State

/-- The first executable file of a name along the search path. -/
def along (s : State) (name : List Char) (denied : Bool) : List Path → FoundProgram
  | [] => if denied then .denied else .missing
  | dir :: rest =>
      let p : Path := if dir.isEmpty then path name else ⟨dir.text ++ "/" ++ textOf name⟩
      if s.world.disk.isExecutableFile s.cwd p then .found (ofText p.text)
      else s.along name (denied || s.world.disk.isFile s.cwd p) rest

/-- The program that a name stands for. -/
def program (s : State) (name : List Char) : FoundProgram :=
  if name.contains '/' then .found name
  else s.along name false (splitSearchPath (textOf (s.value "PATH")))

/-- The words with which a script is run whose file is in no format that can be run. -/
def scriptWords (file : List Char) (arguments : List (List Char)) : List (List Char) :=
  "/bin/sh".toList :: file :: arguments

/-- The program of a path, made ready to run with its words. -/
def prepare (s : State) (file name : List Char) (arguments : List (List Char)) :
    Except IoError (ByteArray × List (List Char)) :=
  let load (p : Path) := Executable.load Tools.isProgram s.world.disk s.cwd p
  match load (path file) with
  | .ok e =>
      let front := if e.front.isEmpty then [name] else e.front.map ofText
      .ok (e.image, front ++ arguments)
  | .error (.system .execFormat) =>
      match load ⟨"/bin/sh"⟩ with
      | .ok e => .ok (e.image, scriptWords file arguments)
      | .error e => .error e
  | .error e => .error e

/-- The cause of a failure to run a program, as the shell shows it, and the status for it. -/
def refusal (s : State) (e : IoError) : List Char × Nat :=
  match e with
  | .system .notFound =>
      (ofText (if s.isPlain then "not found" else "No such file or directory"), 127)
  | .system .notADirectory => (ofText "not found", 127)
  | .system .tooManyLinks => (ofText SystemCause.tooManyLinks.describe, 127)
  | .system .nameTooLong => (ofText SystemCause.nameTooLong.describe, 127)
  | .system cause => (ofText cause.describe, 126)
  | e => (ofText e.message, 126)

end State

end PluginBundle.Shell
