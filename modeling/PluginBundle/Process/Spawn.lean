import PluginBundle.Bundler.Basic
import PluginBundle.Process.Environment
import PluginBundle.Process.Executable

/-!
# Starting programs

A program that is named with a slash is the file that its path leads to from the directory in which
it is started; any other name is looked up along the search path, or along the system's own one
where none is set. What a program then does is not said here: it is a parameter, given the contents
of the file that was found.
-/

namespace PluginBundle

/-- A program to start, with its arguments and the directory to start it in. -/
structure Invocation where
  program : Path
  arguments : List String
  workingDir : Option Path

/-- What is left of a process that has ended. -/
structure ProcessReport where
  status : ExitStatus
  stdout : ByteArray
  stderr : ByteArray

/-- A process at its start: the contents of its program, the words that the program is given, the
first of them its name, and what the process inherits. -/
structure ProcessStart where
  image : ByteArray
  words : List String
  surroundings : Surroundings

/-- What programs do, and which files are programs. -/
structure Programs where
  isProgram : ByteArray → Bool
  run : ProcessStart → Disk → Reply ProcessReport × Disk

namespace Invocation

/-- A null character cannot be handed to a process. -/
def checkText (i : Invocation) : Except IoError Unit :=
  let texts := i.program.text :: (i.workingDir.map (·.text)).toList ++ i.arguments
  if texts.any (·.toList.contains '\x00') then .error .nulInData else .ok ()

/-- The directory that a process is started in. -/
def directory (d : Disk) (s : Surroundings) (i : Invocation) : Except IoError Place :=
  match i.workingDir with
  | none => .ok s.cwd
  | some dir =>
      match d.resolve s.cwd dir with
      | .error e => .error e
      | .ok (place, .directory) => .ok place
      | .ok (_, .file _ _) => .error (.system .notADirectory)

/-- A failure for one piece of the search path after which the next one is tried. -/
def isPassable (e : IoError) : Bool :=
  e == .system .notFound || e == .system .notADirectory || e == .system .permissionDenied

/-- The first of the paths that can be run. A file that may not be run is passed over, but
remembered. -/
def firstExecutable (load : Path → Except IoError Executable) :
    Bool → IoError → List Path → Except IoError Executable
  | denied, last, [] => .error (if denied then .system .permissionDenied else last)
  | denied, _, p :: rest =>
      match load p with
      | .ok found => .ok found
      | .error e =>
          if isPassable e then
            firstExecutable load (denied || e == .system .permissionDenied) e rest
          else .error e

/-- The search path of the system. -/
def systemSearchPath : String := "/bin:/usr/bin"

/-- A name along the search path. -/
def candidates (s : Surroundings) (name : Path) : List Path :=
  let searchPath := s.searchPath?.getD systemSearchPath
  let dirs := (splitSearchPath searchPath).filter (·.text.utf8ByteSize < Disk.pathLimit)
  dirs.map fun dir => if dir.isEmpty then name else ⟨dir.text ++ "/" ++ name.text⟩

/-- The program that an invocation runs from a directory. -/
def executable (isProgram : ByteArray → Bool) (d : Disk) (s : Surroundings) (i : Invocation)
    (directory : Place) : Except IoError Executable :=
  let load := Executable.load isProgram d directory
  -- A path with a slash is followed from the directory of the child, not of the caller.
  if i.program.chars.contains '/' || i.program.isEmpty then load i.program
  else if i.program.text.utf8ByteSize > Disk.nameLimit then .error (.system .nameTooLong)
  else firstExecutable load false (.system .notFound) (candidates s i.program)

/-- A process at its start, or why it cannot be started. -/
def prepare (programs : Programs) (s : Surroundings) (i : Invocation) (d : Disk) :
    Except IoError ProcessStart := do
  i.checkText
  let directory ← i.directory d s
  let e ← i.executable programs.isProgram d s directory
  let words := e.words i.program.text i.arguments
  if words.any (·.utf8ByteSize > Executable.wordLimit) then throw (.system .argumentsTooLong)
  return ⟨e.image, words, ⟨directory, s.environment⟩⟩

/-- Starts a program, or says why it cannot be started. -/
def start (programs : Programs) (s : Surroundings) (i : Invocation) (d : Disk) :
    Reply (Except IoError ProcessReport) × Disk :=
  match i.prepare programs s d with
  | .error e => (.now (.error e), d)
  | .ok process =>
      let (reply, d) := programs.run process d
      (reply.map .ok, d)

end Invocation

end PluginBundle
