import PluginBundle.Duration
import PluginBundle.Files.IoError
import PluginBundle.Files.Path
import PluginBundle.Log.Record
import PluginBundle.Process.ExitStatus

/-!
# Bundlers

The programs that turn an entry script into one file, the arguments they take, and the ways in which
they fail. When an answer arrives is kept apart from what it says, so that a time limit can be put
on any bundler.
-/

namespace PluginBundle

/-- The supported programs. -/
inductive BundlerKind where
  | browserify
  | esbuild
  deriving DecidableEq, Repr

namespace BundlerKind

/-- All kinds in the order in which they are looked for. -/
def all : List BundlerKind := [.browserify, .esbuild]

/-- The name of the executable. -/
def program : BundlerKind → String
  | .browserify => "browserify"
  | .esbuild => "esbuild"

/-- The arguments for bundling an entry, as a script of its own if a name is given. -/
def arguments (kind : BundlerKind) (entry : Path) (standalone : Option String) : List String :=
  match kind, standalone with
  | .browserify, none => [entry.text]
  | .browserify, some name => [entry.text, "--standalone", name]
  | .esbuild, none => [entry.text, "--bundle"]
  | .esbuild, some name =>
      [entry.text, "--bundle", "--format=iife", "--global-name=" ++ name]

end BundlerKind

/-- The name under which a bundle offers itself. -/
def standaloneName : String := "opendatalayer"

/-- Why there is no bundle. -/
inductive BundlerError where
  | notFound (program : String)
  | spawn (program : Path) (cause : IoError)
  | failed (program : Path) (status : ExitStatus) (stderr : String)
  | emptyOutput (program : Path)
  | timeout (limit : Duration)
  | other (text : String)
  deriving DecidableEq, Repr

namespace BundlerError

def message : BundlerError → String
  | .notFound program =>
      "`" ++ program ++ "` not found. Install it (e.g., npm install --save-dev " ++ program
        ++ ") or pass --bundler-bin"
  | .spawn program cause => "failed to start `" ++ program.text ++ "`: " ++ cause.message
  | .failed program status stderr =>
      "`" ++ program.text ++ "` failed (" ++ status.text ++ "): " ++ stderr
  | .emptyOutput program => "`" ++ program.text ++ "` produced no output"
  | .timeout limit => "bundler did not finish within " ++ limit.text
  | .other text => text

/-- The message and those of the causes below it. -/
def chain : BundlerError → List String
  | .spawn program cause => [(spawn program cause).message, cause.message]
  | e => [e.message]

end BundlerError

/-! ## Waiting for an answer -/

/-- When an answer comes. -/
inductive Reply (α : Type) where
  | now (answer : α)
  | later (delay : Duration) (answer : α)
  | never

/-- The answer turned into another one, which comes at the same time. -/
def Reply.map {α β : Type} (f : α → β) : Reply α → Reply β
  | .now answer => .now (f answer)
  | .later delay answer => .later delay (f answer)
  | .never => .never

/-- What waiting comes to. -/
inductive Await (α : Type) where
  | answered (answer : α)
  | timedOut (limit : Duration)
  | unending

/-- Waits up to a limit. An answer that comes just at the limit is still taken. -/
def Reply.within {α : Type} (limit : Option Duration) : Reply α → Await α
  | .now answer => .answered answer
  | .later delay answer =>
      match limit with
      | none => .answered answer
      | some limit => if delay ≤ limit then .answered answer else .timedOut limit
  | .never =>
      match limit with
      | none => .unending
      | some limit => .timedOut limit

/-- What a bundler says, and what was reported until then. -/
structure BundlerAnswer where
  outcome : Except BundlerError ByteArray
  log : List LogRecord

/-- A call of a bundler: what is reported at once, and the answer when it comes. -/
structure BundlerCall where
  log : List LogRecord
  reply : Reply BundlerAnswer

end PluginBundle
