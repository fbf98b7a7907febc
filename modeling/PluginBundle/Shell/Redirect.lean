import PluginBundle.Shell.Expand

/-!
# Redirections

The streams of a command are connected to files, to each other, or to text in the script, one after
the other. The first one that cannot be connected fails the command.
-/

namespace PluginBundle.Shell

/-- What a path leads to that names a stream. -/
inductive SpecialFile where
  | sink
  | stream (n : Nat)
  deriving DecidableEq, Repr

def specialFile? (path : List Char) : Option SpecialFile :=
  match String.ofList path with
  | "/dev/null" => some .sink
  | "/dev/stdin" => some (.stream 0)
  | "/dev/stdout" => some (.stream 1)
  | "/dev/stderr" => some (.stream 2)
  | _ =>
      let digits := path.drop 8
      if "/dev/fd/".toList.isPrefixOf path && digits.all Char.isDigit then
        some (.stream (Reader.numberIn 10 digits))
      else none

namespace Redirect

/-- Why a file cannot be opened, as the shell shows it. -/
def openingFault (plain : Bool) (input : Bool) (name : List Char) (e : IoError) : List Char :=
  let missing := e == .system .notFound || e == .system .notADirectory
  let cause :=
    match e with
    | .system cause => ofText cause.describe
    | e => ofText e.message
  if !plain then name ++ [':', ' '] ++ cause
  else if input then
    ofText "cannot open " ++ name ++ ofText ": " ++ if missing then ofText "No such file" else cause
  else
    ofText "cannot create " ++ name ++ ofText ": "
      ++ if missing then ofText "Directory nonexistent" else cause

/-- The channel of a file that is opened, and the world in which it is. -/
def openFile (s : State) (opening : Opening) (name : List Char) :
    Except IoError (Nat × World) := do
  let path := State.path name
  let disk := s.world.disk
  match opening with
  | .input =>
      match ← disk.resolve s.cwd path with
      | (place, .file _ _) => return s.world.connect (.file place 0 false true false)
      | (_, .directory) => return s.world.connect .directory
  | _ =>
      let old := disk.resolve s.cwd path
      let isFile := disk.isFile s.cwd path
      if opening = .output && s.option 'C' && isFile then throw (.system .alreadyExists)
      let keeps := opening = .append || opening = .both
      let contents :=
        match old with
        | .ok (_, .file contents _) => if keeps then contents else ByteArray.empty
        | _ => ByteArray.empty
      let disk ← disk.writeFile s.cwd path contents
      let (place, _) ← disk.resolve s.cwd path
      let channel := Channel.file place 0 (opening = .append) (opening = .both) true
      return { s.world with disk := disk }.connect channel

/-- Connects a stream to a file. -/
def toFile (stream : Nat) (opening : Opening) (name : List Char) : Act (Option (List Char)) := do
  let s ← get
  match specialFile? name with
  | some .sink =>
      let (id, w) := s.world.connect .nowhere
      set ({ s with world := w }.setStream stream id)
      return none
  | some (.stream n) =>
      match s.channel? n with
      | some id =>
          set (s.setStream stream id)
          return none
      | none => return some (openingFault s.isPlain true name (.system .notFound))
  | none =>
      match openFile s opening name with
      | .ok (id, w) =>
          set ({ s with world := w }.setStream stream id)
          return none
      | .error e => return some (openingFault s.isPlain (opening == .input) name e)

/-- Connects a stream to where another one leads. -/
def toStream (stream : Nat) (target : List Char) : Act (Option (List Char)) := do
  let s ← get
  if target = ['-'] then
    set (s.closeStream stream)
    return none
  else if target.isEmpty || !target.all Char.isDigit then
    return some (if s.isPlain then ofText "Syntax error: Bad fd number"
      else target ++ ofText ": ambiguous redirect")
  else
    match s.channel? (Reader.numberIn 10 target) with
    | some id =>
        set (s.setStream stream id)
        return none
    | none => return some (target ++ ofText ": Bad file descriptor")

/-- Connects a stream to text. -/
def toText (stream : Nat) (text : List Char) : Act Unit := do
  let s ← get
  let (id, w) := s.world.connect (.waiting text)
  set ({ s with world := w }.setStream stream id)

/-- Connects one stream; what could not be done is returned. -/
def connect (again : Engine) : Redirection → Act (Option (List Char))
  | .file stream opening name => do
      toFile stream opening (← Expand.assignedText again name)
  | .duplicate stream target => do
      let target ← Expand.wholeText again target
      -- A stream may be moved, which closes the other one.
      match target.getLast?, target.dropLast with
      | some '-', digit :: more => do
          let fault ← toStream stream (digit :: more)
          modify (·.closeStream (Reader.numberIn 10 (digit :: more)))
          return fault
      | _, _ => toStream stream target
  | .inline stream text => do
      toText stream (← Expand.wholeText again text)
      return none
  | .outputs opening name => do
      match ← toFile 1 opening (← Expand.wholeText again name) with
      | some fault => return some fault
      | none => toStream 2 ['1']

/-- Connects streams in order. -/
def connectAll (again : Engine) : List Redirection → Act Bool
  | [] => return true
  | r :: rest => do
      match ← connect again r with
      | none => connectAll again rest
      | some fault =>
          let s ← get
          let outer := s.command
          set { s with command := none }
          Act.complain fault
          modify fun s => { s with command := outer, status := if s.isPlain then 2 else 1 }
          return false

end Redirect

end PluginBundle.Shell
