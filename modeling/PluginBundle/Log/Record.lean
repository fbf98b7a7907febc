import PluginBundle.Build.Stage
import PluginBundle.Files.IoError
import PluginBundle.Files.Path

/-!
# Log records

What the parts of the program report while they work. A record says what happened; its level, the
part it comes from and its wording follow from that.
-/

namespace PluginBundle

inductive LogLevel where
  | debug
  | info
  | warn
  deriving DecidableEq, Repr

namespace LogLevel

def name : LogLevel → String
  | .debug => "DEBUG"
  | .info => "INFO"
  | .warn => "WARN"

/-- The weight of a level; warnings weigh most. -/
def weight : LogLevel → Nat
  | .debug => 0
  | .info => 1
  | .warn => 2

end LogLevel

/-- The part of the program that reports. -/
inductive LogSource where
  | commandLine
  | loading
  | detection
  | bundler
  | builder
  deriving DecidableEq, Repr

/-- The name of the part in a log line. -/
def LogSource.name : LogSource → String
  | .commandLine => "odl_builder::cli"
  | .loading => "odl_builder::config::loading"
  | .detection => "odl_builder::bundler::tool_detection"
  | .bundler => "odl_builder::bundler::command"
  | .builder => "odl_builder::builder::orchestrator"

/-- Something that is reported. -/
inductive LogRecord where
  /-- No configuration file was named and none was found. -/
  | noConfigurationFile
  | configurationLoaded (path : Path)
  /-- Detection passed a program that the search path does not have. -/
  | programUndetected (program : String)
  | programDetected (program : String) (path : Path)
  /-- Detection passed every program. -/
  | nothingDetected
  /-- The program of the bundler that is wanted was not found. -/
  | programMissing (program : String)
  | programChosen (program : String) (path : Path)
  | programStarted (program : String)
  /-- A program wrote to its standard error. -/
  | programComplained (program : String) (text : String)
  /-- A build left one stage for another. -/
  | stageEntered (left entered : BuildStage)
  | baseDirectory (path : Path)
  | tempPath (path : Path)
  | targetPath (path : Path)
  /-- The temporary file stays because debugging is on. -/
  | tempKept (path : Path)
  /-- The temporary file stays because it cannot be removed. -/
  | tempNotRemoved (path : Path) (cause : IoError)
  /-- The temporary file stays because it could not be bundled. -/
  | tempNotBundled (path : Path)
  | bundleCreated (path : Path) (size : Nat)
  deriving DecidableEq, Repr

namespace LogRecord

def level : LogRecord → LogLevel
  | noConfigurationFile => .debug
  | configurationLoaded _ => .debug
  | programUndetected _ => .debug
  | programDetected _ _ => .debug
  | nothingDetected => .warn
  | programMissing _ => .debug
  | programChosen _ _ => .debug
  | programStarted _ => .info
  | programComplained _ _ => .debug
  | stageEntered _ _ => .debug
  | baseDirectory _ => .info
  | tempPath _ => .info
  | targetPath _ => .info
  | tempKept _ => .debug
  | tempNotRemoved _ _ => .warn
  | tempNotBundled _ => .warn
  | bundleCreated _ _ => .info

def source : LogRecord → LogSource
  | noConfigurationFile => .commandLine
  | configurationLoaded _ => .loading
  | programUndetected _ => .detection
  | programDetected _ _ => .detection
  | nothingDetected => .detection
  | programMissing _ => .bundler
  | programChosen _ _ => .bundler
  | programStarted _ => .bundler
  | programComplained _ _ => .bundler
  | stageEntered _ _ => .builder
  | baseDirectory _ => .builder
  | tempPath _ => .builder
  | targetPath _ => .builder
  | tempKept _ => .builder
  | tempNotRemoved _ _ => .builder
  | tempNotBundled _ => .builder
  | bundleCreated _ _ => .builder

/-- The wording for a program that the search path does not have. -/
def notInPath (program : String) : String :=
  program ++ " not found in PATH: cannot find binary path"

def message : LogRecord → String
  | noConfigurationFile => "No configuration file found, using command line options only"
  | configurationLoaded path => "Loaded configuration from " ++ path.text
  | programUndetected program => notInPath program
  | programDetected program path => "Found " ++ program ++ " at: " ++ path.text
  | nothingDetected => "No bundler found in PATH (tried browserify, esbuild)"
  | programMissing program => notInPath program
  | programChosen program path => "Using " ++ program ++ " at " ++ path.text
  | programStarted program => "Running " ++ program ++ "..."
  | programComplained program text => program ++ " stderr: " ++ text
  | stageEntered left entered => "Build stage: " ++ left.name ++ " -> " ++ entered.name
  | baseDirectory path => "Running builder in: " ++ path.text
  | tempPath path => "Writing temp file to: " ++ path.text
  | targetPath path => "Writing target file to: " ++ path.text
  | tempKept path => "Debug mode - keeping " ++ path.text
  | tempNotRemoved path cause => "Failed to delete " ++ path.text ++ ": " ++ cause.message
  | tempNotBundled path => "Bundling failed, keeping " ++ path.text
  | bundleCreated path size => "Created " ++ path.text ++ " (" ++ Nat.repr size ++ " bytes)"

end LogRecord

end PluginBundle
