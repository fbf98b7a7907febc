import PluginBundle.Build.Stage
import PluginBundle.Bundler.Basic
import PluginBundle.Configuration.Error

/-!
# Why a build failed
-/

namespace PluginBundle

/-- Why a build failed. -/
inductive BuildError where
  | configuration (error : ConfigurationError)
  | bundler (error : BundlerError)
  | filesystem (stage : BuildStage) (path : Path) (cause : IoError)
  deriving DecidableEq, Repr

/-- The causes below the message of a configuration error. -/
def ConfigurationError.chain : ConfigurationError → List String
  | .unreadable path cause => [(unreadable path cause).message, cause.message]
  | e => [e.message]

namespace BuildError

def message : BuildError → String
  | .configuration error => error.message
  | .bundler error => "bundler error: " ++ error.message
  | .filesystem stage path cause =>
      "filesystem error while " ++ stage.name ++ " `" ++ path.text ++ "`: " ++ cause.message

/-- The message and those of the causes below it. -/
def chain : BuildError → List String
  | .configuration error => error.chain
  | .bundler error => (bundler error).message :: error.chain
  | .filesystem stage path cause => [(filesystem stage path cause).message, cause.message]

/-- The build was refused for its configuration, before anything was written. -/
def isConfiguration : BuildError → Bool
  | .configuration _ => true
  | _ => false

end BuildError

end PluginBundle
