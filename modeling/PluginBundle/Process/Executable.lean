import PluginBundle.Files.Disk
import PluginBundle.Text.Bytes

/-!
# Files that can be run

A file is run as a program if it may be and if its contents are those of a program. A script is run
by the interpreter that its first line names, which may be a script in turn.
-/

namespace PluginBundle

/-- What the first line of a script names: a program, and the argument that may follow it. -/
structure InterpreterLine where
  program : List Char
  argument : Option (List Char)
  deriving DecidableEq, Repr

namespace InterpreterLine

def blank (c : Char) : Bool := c == ' ' || c == '\t'

/-- So much of a file is looked at; behind a shorter one stand null characters. -/
def headSize : Nat := 256

/-- The head of a file, behind the two characters that mark a script. -/
def head (contents : ByteArray) : List Char :=
  let start := ofBytes (contents.extract 2 headSize)
  start ++ List.replicate (headSize - 2 - start.length) '\x00'

/-- The line in the head of a file. A line without an end must at least name the whole program. -/
def line? (head : List Char) : Option (List Char) :=
  let line := head.takeWhile fun c => c != '\n' && c != '\x00'
  if head[line.length]? == some '\n' then some line
  else
    let named := head.dropWhile blank
    if named.any fun c => blank c || c == '\x00' then some head.dropLast else none

/-- The program and the argument of a line. -/
def ofLine? (line : List Char) : Option InterpreterLine :=
  let named := ((line.reverse.dropWhile blank).reverse).dropWhile blank
  let program := named.takeWhile fun c => !blank c && c != '\x00'
  let rest := named.drop program.length
  if named.isEmpty then none
  else
    let argument :=
      if rest.head?.any blank then some ((rest.dropWhile blank).takeWhile (· != '\x00')) else none
    some ⟨program, argument⟩

end InterpreterLine

/-- A program that is ready to run: its contents, and the words that take the place of its name. -/
structure Executable where
  image : ByteArray
  front : List String

namespace Executable

/-- The longest word that a program can be given, in bytes. -/
def wordLimit : Nat := 131071

/-- The file that is run for a path. -/
def fileAt (d : Disk) (cwd : Place) (p : Path) : Except IoError ByteArray :=
  match d.resolve cwd p with
  | .error e => .error e
  | .ok (_, .directory) => .error (.system .permissionDenied)
  | .ok (_, .file contents executable) =>
      if executable then .ok contents else .error (.system .permissionDenied)

def isScript (contents : ByteArray) : Bool := ofBytes (contents.extract 0 2) == ['#', '!']

/-- Makes the file of a path ready to run. The number bounds how many scripts may be interpreters
of each other. -/
def loadWithin (isProgram : ByteArray → Bool) (d : Disk) (cwd : Place) :
    Nat → Path → Except IoError Executable
  | 0, _ => .error (.system .tooManyLinks)
  | scripts + 1, p => do
      let contents ← fileAt d cwd p
      if !isScript contents then
        if isProgram contents then return ⟨contents, []⟩ else throw (.system .execFormat)
      else
        match (InterpreterLine.line? (InterpreterLine.head contents)).bind
            InterpreterLine.ofLine? with
        | none => throw (.system .execFormat)
        | some line =>
            let interpreter : Path := ⟨textOf line.program⟩
            let e ← loadWithin isProgram d cwd scripts interpreter
            let front := if e.front.isEmpty then [interpreter.text] else e.front
            return ⟨e.image, front ++ (line.argument.map textOf).toList ++ [p.text]⟩

/-- Makes the file of a path ready to run. -/
def load (isProgram : ByteArray → Bool) (d : Disk) (cwd : Place) (p : Path) :
    Except IoError Executable :=
  loadWithin isProgram d cwd 6 p

/-- The words that the program gets when it is called by a name with arguments. -/
def words (e : Executable) (name : String) (arguments : List String) : List String :=
  (if e.front.isEmpty then [name] else e.front) ++ arguments

end Executable

end PluginBundle
