import PluginBundle.Bundler.Basic
import PluginBundle.Script.Program

/-!
# Options of the command line

The names of each option, whether a value follows it, the variable of the environment that may give
the value, and what is said about it to a reader.
-/

namespace PluginBundle

/-- The options of the command line. -/
inductive Switch where
  | config
  | baseDir
  | outputPath
  | outputFilename
  | debug
  | bundler
  | bundlerBin
  | timeout
  | moduleFormat
  | emitScript
  | verbose
  | help
  | version
  deriving DecidableEq, Repr

namespace Switch

def all : List Switch :=
  [.config, .baseDir, .outputPath, .outputFilename, .debug, .bundler, .bundlerBin, .timeout,
   .moduleFormat, .emitScript, .verbose, .help, .version]

/-- The name after two hyphens. -/
def long : Switch → String
  | .config => "config"
  | .baseDir => "base-dir"
  | .outputPath => "output-path"
  | .outputFilename => "output-filename"
  | .debug => "debug"
  | .bundler => "bundler"
  | .bundlerBin => "bundler-bin"
  | .timeout => "timeout"
  | .moduleFormat => "module-format"
  | .emitScript => "emit-script"
  | .verbose => "verbose"
  | .help => "help"
  | .version => "version"

/-- The letter after one hyphen. -/
def short? : Switch → Option Char
  | .config => some 'c'
  | .outputPath => some 'p'
  | .outputFilename => some 'o'
  | .verbose => some 'v'
  | .help => some 'h'
  | .version => some 'V'
  | _ => none

/-- The option is followed by a value. -/
def takesValue : Switch → Bool
  | .debug => false
  | .emitScript => false
  | .verbose => false
  | .help => false
  | .version => false
  | _ => true

/-- The variable of the environment that may give the value. -/
def environmentName? : Switch → Option String
  | .bundler => some "ODL_BUNDLER"
  | .bundlerBin => some "ODL_BUNDLER_BIN"
  | .timeout => some "ODL_TIMEOUT"
  | _ => none

def ofLong? (name : String) : Option Switch := all.find? (·.long == name)

def ofShort? (letter : Char) : Option Switch := all.find? (·.short? == some letter)

/-- What an option does. -/
def about : Switch → String
  | .config => "Configuration file (.json or .toml)"
  | .baseDir => "Base directory for output paths (overrides \x60baseDir\x60)"
  | .outputPath => "Output directory relative to the base directory (overrides \x60outputPath\x60)"
  | .outputFilename => "Bundled file name (overrides \x60outputFilename\x60)"
  | .debug => "Keep the temporary init script and print resolved paths (sets \x60debug\x60)"
  | .bundler => "Bundler to run. Defaults to the first one found on PATH"
  | .bundlerBin => "Path to the bundler executable"
  | .timeout => "Abort if the bundler runs longer than this many seconds"
  | .moduleFormat => "Import flavor of the generated init script"
  | .emitScript => "Print the generated init script and exit without bundling"
  | .verbose => "Enable debug logging"
  | .help => "Print help"
  | .version => "Print version"

/-- The word that stands for the value of an option. -/
def valueName? : Switch → Option String
  | .config => some "FILE"
  | .baseDir => some "DIR"
  | .outputPath => some "PATH"
  | .outputFilename => some "NAME"
  | .bundler => some "BUNDLER"
  | .bundlerBin => some "PATH"
  | .timeout => some "SECS"
  | .moduleFormat => some "MODULE_FORMAT"
  | _ => none

end Switch

/-- The words for import styles. -/
def ImportStyle.word : ImportStyle → String
  | .commonJs => "commonjs"
  | .esm => "esm"

namespace Switch

/-- The words that the value of an option may be, and what each stands for. -/
def choices : Switch → List (String × String)
  | .bundler =>
      [(BundlerKind.browserify.program, "browserify --standalone"),
       (BundlerKind.esbuild.program, "esbuild --format=iife")]
  | .moduleFormat =>
      [(ImportStyle.commonJs.word, "require(...)"), (ImportStyle.esm.word, "import ... from ...")]
  | _ => []

/-- The value of an option that is not used. -/
def default? : Switch → Option String
  | .moduleFormat => some ImportStyle.commonJs.word
  | _ => none

end Switch

end PluginBundle
