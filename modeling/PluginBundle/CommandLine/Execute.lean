import PluginBundle.Build.Builder
import PluginBundle.Bundler.Command
import PluginBundle.CommandLine.Help
import PluginBundle.CommandLine.Parse
import PluginBundle.Configuration.Loading
import PluginBundle.Log.Line

/-!
# Runs of the command line tool

A run loads a configuration, applies the command line to it, and either prints the entry script or
builds the bundle on the disk. Everything outside is a parameter: the disk, the working directory,
the search path, the environment, and what the programs do that are started.
-/

namespace PluginBundle

/-- Why a run fails. -/
inductive CommandError where
  | arguments (reason : String)
  | configuration (error : ConfigurationError)
  | bundler (error : BundlerError)
  | build (error : BuildError)
  deriving DecidableEq, Repr

namespace CommandError

/-- The message for arguments that are refused. -/
def argumentsMessage (reason : String) : String := "Invalid arguments: " ++ reason

/-- The message and those of the causes below it. -/
def chain : CommandError → List String
  | .arguments reason => [argumentsMessage reason]
  | .configuration error => error.chain
  | .bundler error => error.chain
  | .build error => "build failed" :: error.chain

/-- The line that is shown for the error. -/
def line (e : CommandError) : String := "Error: " ++ ": ".intercalate e.chain ++ "\n"

end CommandError

/-- How a run ends. -/
inductive CommandEnd where
  | succeeded
  | failed (error : CommandError)
  | unending
  deriving DecidableEq, Repr

/-- A run that has ended: what it printed and reported, and the disk it left. -/
structure CommandRun where
  result : CommandEnd
  stdout : String
  log : List LogRecord
  disk : Disk

/-- The files of a disk and a program for a bundler, as a build reaches them. -/
def CommandBundler.host (programs : Programs) (s : Surroundings) (b : CommandBundler) :
    BuildHost Disk where
  write path contents d := d.write s.cwd path contents
  remove path d :=
    match d.remove s.cwd path with
    | .error e => (.error e, d)
    | .ok d => (.ok (), d)
  bundle entry standalone d := b.bundle programs s entry standalone d

namespace Arguments

/-- The file that holds the configuration: the one that is named, or one found in the base directory
or in the working directory. -/
def configurationFile (s : Surroundings) (d : Disk) (a : Arguments) : Option Path :=
  match a.configFile with
  | some path => some path
  | none => Configuration.discover d s.cwd (a.baseDir.getD s.cwdPath)

/-- The configuration that the command line works with, before it is overridden. -/
def loadConfiguration (s : Surroundings) (d : Disk) (a : Arguments) :
    Except ConfigurationError Configuration × List LogRecord :=
  match a.configurationFile s d with
  | some path => Configuration.load d s.cwd path
  | none => (.ok .empty, [.noConfigurationFile])

/-- The bundler that a run uses: the program that is given, else one of the kind that is asked for,
else one of any kind, the project's own ones first. -/
def selectBundler (s : Surroundings) (d : Disk) (a : Arguments) (projectDir : Option Path) :
    Except BundlerError CommandBundler × List LogRecord :=
  match a.bundler, a.bundlerBin with
  | some kind, some bin => (.ok ⟨kind, bin, projectDir⟩, [])
  | some kind, none => CommandBundler.locate d s kind projectDir
  | none, _ =>
      match BundlerKind.all.find? fun kind => (findLocal d s projectDir kind.program).isSome with
      | some kind => CommandBundler.locate d s kind projectDir
      | none =>
          match detectBundler d s with
          | (some kind, log) =>
              let (result, more) := CommandBundler.locate d s kind projectDir
              (result, log ++ more)
          | (none, log) => (.error (.notFound BundlerKind.browserify.program), log)

/-- What is printed about a bundle. -/
def summary (artifact : Artifact) : String :=
  "✓ Created " ++ artifact.target.text ++ "\n"
    ++ "  Size:   " ++ Nat.repr artifact.contents.size ++ " bytes\n"
    ++ "  SHA256: " ++ artifact.checksum ++ "\n"
    ++ if artifact.tempRetained then "  Init script kept at " ++ artifact.temp.text ++ "\n" else ""

/-- Prints the entry script of a configuration that is accepted. -/
def emit (d : Disk) (a : Arguments) (c : Configuration) (log : List LogRecord) : CommandRun :=
  match c.check with
  | .error e => ⟨.failed (.configuration e), "", log, d⟩
  | .ok () => ⟨.succeeded, c.script a.moduleFormat, log, d⟩

/-- Builds the bundle of a configuration. -/
def buildBundle (programs : Programs) (s : Surroundings) (d : Disk) (a : Arguments)
    (c : Configuration) (log : List LogRecord) : CommandRun :=
  match a.selectBundler s d c.baseDir? with
  | (.error e, more) => ⟨.failed (.bundler e), "", log ++ more, d⟩
  | (.ok bundler, more) =>
      let builder := { Builder.initial with style := a.moduleFormat, timeout := a.timeLimit }
      let (outcome, r) := builder.build (bundler.host programs s) s.cwdPath (some c) d
      let log := log ++ more ++ r.log
      match outcome with
      | .failed e => ⟨.failed (.build e), "", log, r.world⟩
      | .unending => ⟨.unending, "", log, r.world⟩
      | .built artifact => ⟨.succeeded, summary artifact, log, r.world⟩

/-- Carries out arguments. -/
def execute (programs : Programs) (s : Surroundings) (d : Disk) (a : Arguments) : CommandRun :=
  match a.validate with
  | .error reason => ⟨.failed (.arguments reason), "", [], d⟩
  | .ok () =>
      match a.loadConfiguration s d with
      | (.error e, log) => ⟨.failed (.configuration e), "", log, d⟩
      | (.ok loaded, log) =>
          let c := a.override loaded
          if a.emitScript then a.emit d c log else a.buildBundle programs s d c log

end Arguments

/-! ## The whole tool -/

/-- The name and version of the tool. -/
def versionText : String := "odl-builder 0.1.0\n"

/-- What is printed for a command line that cannot be carried out. -/
def usageText : String := "error: invalid command line\n\nFor more information, try '--help'.\n"

/-- How the tool ends for its caller. A run that never ends has no exit code. -/
structure ToolResult where
  code : Option Nat
  stdout : String
  stderr : String
  disk : Disk

/-- The filter that the environment sets, or else the level of the command line, with what makes no
sense in it. -/
def logFilter (s : Surroundings) (verbose : Bool) : LogFilter × List LogFilterFault :=
  match s.value? "RUST_LOG" with
  | some text => LogFilter.parse text
  | none => (.ofLevel (if verbose then .debug else .info), [])

/-- Runs the tool on the words of a command line. -/
def runTool (programs : Programs) (s : Surroundings) (words : List String) (d : Disk) :
    ToolResult :=
  match Arguments.parse words s.value? with
  | .error (.displayHelp isFull) => ⟨some 0, helpText isFull s.value?, "", d⟩
  | .error .displayVersion => ⟨some 0, versionText, "", d⟩
  | .error e => ⟨some e.exitCode, "", usageText, d⟩
  | .ok a =>
      let run := a.execute programs s d
      let (filter, faults) := logFilter s a.verbose
      let warnings := String.join (faults.map LogFilterFault.line)
      let shown := warnings ++ filter.lines (.ofLogEnvironment s.value?) run.log
      match run.result with
      | .succeeded => ⟨some 0, run.stdout, shown, run.disk⟩
      | .failed e => ⟨some 1, run.stdout, shown ++ e.line, run.disk⟩
      | .unending => ⟨none, run.stdout, shown, run.disk⟩

end PluginBundle
