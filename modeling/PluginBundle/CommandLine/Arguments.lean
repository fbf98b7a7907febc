import PluginBundle.Bundler.Basic
import PluginBundle.Configuration.Basic
import PluginBundle.Script.Program

/-!
# Command line arguments

What the command line asks for, which combinations are refused, and how the options of a
configuration are overridden. How the words of a command line become arguments is said by the
module on parsing.
-/

namespace PluginBundle

/-- The arguments of the command line tool. -/
structure Arguments where
  configFile : Option Path
  baseDir : Option Path
  outputPath : Option Path
  outputFilename : Option String
  debug : Bool
  bundler : Option BundlerKind
  bundlerBin : Option Path
  /-- The time limit of the bundler in seconds. -/
  timeout : Option Nat
  moduleFormat : ImportStyle
  emitScript : Bool
  verbose : Bool
  deriving DecidableEq, Repr

namespace Arguments

/-- The arguments of an empty command line. -/
def empty : Arguments :=
  ⟨none, none, none, none, false, none, none, none, .commonJs, false, false⟩

/-- Refuses arguments that are each well-formed but make no sense together, with the reason. -/
def validate (a : Arguments) : Except String Unit :=
  if a.timeout = some 0 then .error "--timeout must be at least 1 second"
  else if a.outputFilename = some "" then .error "--output-filename cannot be empty"
  else if a.bundlerBin.isSome && a.bundler.isNone then
    .error "--bundler-bin requires --bundler to select the argument convention"
  else .ok ()

/-- The time limit of the bundler. -/
def timeLimit (a : Arguments) : Option Duration := a.timeout.map .ofSeconds

/-- The configuration with the options that the command line gives. -/
def override (a : Arguments) (c : Configuration) : Configuration :=
  { c with
    baseDir := a.baseDir <|> c.baseDir
    outputPath := a.outputPath <|> c.outputPath
    outputFilename := a.outputFilename <|> c.outputFilename
    debug := a.debug || c.debug }

end Arguments

end PluginBundle
