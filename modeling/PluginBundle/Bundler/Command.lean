import PluginBundle.Process.Lookup
import PluginBundle.Process.Spawn
import PluginBundle.Text.Blank
import PluginBundle.Text.Lossy

/-!
# Bundlers that are programs

A bundler is found in the project that is built or along the search path. It is run on the entry
script, and what it prints is the bundle.

A run of the tool detects a bundler at most once. The tool keeps its answer for the rest of the
process; since a run never asks again, nothing is kept here.
-/

namespace PluginBundle

/-- A program with the argument convention to use, and the directory to run it in. -/
structure CommandBundler where
  kind : BundlerKind
  program : Path
  workingDir : Option Path
  deriving DecidableEq, Repr

/-- Where a project keeps a program of its own. -/
def localProgram (projectDir : Path) (program : String) : Path :=
  ((projectDir.join ⟨"node_modules"⟩).join ⟨".bin"⟩).join ⟨program⟩

/-- The project's own file for a program. -/
def findLocal (d : Disk) (s : Surroundings) (projectDir : Option Path) (program : String) :
    Option Path :=
  match projectDir with
  | none => none
  | some dir =>
      let candidate := localProgram dir program
      if d.isFile s.cwd candidate then some candidate else none

namespace CommandBundler

/-- Finds the program of a kind, the project's own one first. -/
def locate (d : Disk) (s : Surroundings) (kind : BundlerKind) (projectDir : Option Path) :
    Except BundlerError CommandBundler × List LogRecord :=
  let found :=
    match findLocal d s projectDir kind.program with
    | some path => some path
    | none => d.which s kind.program
  match found with
  | none => (.error (.notFound kind.program), [.programMissing kind.program])
  | some path =>
      (.ok ⟨kind, path, projectDir⟩, [.programChosen kind.program path])

/-- The answer for a process that has ended, or was not started. -/
def answer (b : CommandBundler) (result : Except IoError ProcessReport) : BundlerAnswer :=
  match result with
  | .error cause => ⟨.error (.spawn b.program cause), []⟩
  | .ok report =>
      let stderr := trim (lossyText report.stderr)
      let log : List LogRecord :=
        if stderr.isEmpty then [] else [.programComplained b.kind.program stderr]
      if !report.status.success then ⟨.error (.failed b.program report.status stderr), log⟩
      else if report.stdout.isEmpty then ⟨.error (.emptyOutput b.program), log⟩
      else ⟨.ok report.stdout, log⟩

/-- The invocation for bundling an entry. -/
def invocation (b : CommandBundler) (entry : Path) (standalone : Option String) : Invocation :=
  ⟨b.program, b.kind.arguments entry standalone, b.workingDir⟩

/-- Runs the program on an entry. -/
def bundle (programs : Programs) (s : Surroundings) (b : CommandBundler) (entry : Path)
    (standalone : Option String) (d : Disk) : BundlerCall × Disk :=
  let (reply, d) := (b.invocation entry standalone).start programs s d
  (⟨[.programStarted b.kind.program], reply.map b.answer⟩, d)

end CommandBundler

/-! ## Detection -/

/-- Looks along the search path for the programs of kinds, in order. -/
def detectAmong (d : Disk) (s : Surroundings) :
    List BundlerKind → Option BundlerKind × List LogRecord
  | [] => (none, [.nothingDetected])
  | kind :: rest =>
      match d.which s kind.program with
      | some path => (some kind, [.programDetected kind.program path])
      | none =>
          let (found, log) := detectAmong d s rest
          (found, .programUndetected kind.program :: log)

/-- The first kind that the search path has, as the first detection of a process finds it. -/
def detectBundler (d : Disk) (s : Surroundings) : Option BundlerKind × List LogRecord :=
  detectAmong d s BundlerKind.all

end PluginBundle
