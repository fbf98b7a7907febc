import PluginBundle.Configuration.Basic
import PluginBundle.Files.IoError

/-!
# What is wrong with a configuration

Every cause for which a configuration is refused, with the message that is shown for it.
-/

namespace PluginBundle

/-- Why a configuration is refused. -/
inductive ConfigurationError where
  | unknownOption (name : String)
  | notAnObject (found : Json.Kind)
  | missingPluginField (plugin : String) (field : PluginField)
  | emptyPluginName
  | invalidPluginName (plugin identifier : String)
  | identifierCollision (first second identifier : String)
  | missingOption (option : ConfigurationOption)
  | invalidValue (option reason : String)
  | unreadable (path : Path) (cause : IoError)
  | malformed (path : Path) (reason : String)
  | unsupportedFormat (path : Path)
  deriving DecidableEq, Repr

namespace ConfigurationError

def quoted (name : String) : String := "\"" ++ name ++ "\""

def ticked (text : String) : String := "`" ++ text ++ "`"

def message : ConfigurationError → String
  | .unknownOption name => "configure: option " ++ quoted name ++ " is unknown"
  | .notAnObject found => "configure: expected an object, got " ++ found.describe
  | .missingPluginField plugin field =>
      "configure: plugin " ++ quoted plugin ++ " is missing " ++ ticked field.key
  | .emptyPluginName => "configure: plugin names must not be empty"
  | .invalidPluginName plugin identifier =>
      "configure: plugin " ++ quoted plugin ++ " normalizes to " ++ ticked identifier
        ++ ", which is not a valid identifier"
  | .identifierCollision first second identifier =>
      "configure: plugins " ++ quoted first ++ " and " ++ quoted second
        ++ " both normalize to identifier " ++ ticked identifier
  | .missingOption option => "configure: option " ++ quoted option.key ++ " is required"
  | .invalidValue option reason =>
      "configure: invalid value for " ++ quoted option ++ ": " ++ reason
  | .unreadable path cause =>
      "failed to read configuration file " ++ ticked path.text ++ ": " ++ cause.message
  | .malformed path reason =>
      "failed to parse configuration file " ++ ticked path.text ++ ": " ++ reason
  | .unsupportedFormat path =>
      "unsupported configuration file " ++ ticked path.text ++ " (expected .json or .toml)"

end ConfigurationError

end PluginBundle
