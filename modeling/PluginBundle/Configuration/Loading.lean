import PluginBundle.Configuration.Decoding
import PluginBundle.Files.Disk
import PluginBundle.Json.Reader
import PluginBundle.Log.Record
import PluginBundle.Toml.Reader

/-!
# Configurations from files

A file is read before its format is looked at. JSON and TOML both become a JSON value, and the value
is accepted or refused in the same way.
-/

namespace PluginBundle

/-- The formats of configuration files. -/
inductive ConfigurationFormat where
  | json
  | toml
  deriving DecidableEq, Repr

namespace ConfigurationFormat

/-- The format that the extension of a path tells. -/
def ofPath? (p : Path) : Option ConfigurationFormat :=
  match p.extension? with
  | some "json" => some .json
  | some "toml" => some .toml
  | _ => none

/-- The value that a text of the format spells, or the reason why it spells none. -/
def parse (text : String) : ConfigurationFormat → Except String Json.Value
  | .json => Json.parse text
  | .toml =>
      match Toml.read? text with
      | some entries => .ok (Toml.Value.table entries).toJson
      | none => .error "TOML parse error"

end ConfigurationFormat

namespace Configuration

/-- The value that a configuration file spells. -/
def readValue (disk : Disk) (cwd : Place) (p : Path) : Except ConfigurationError Json.Value :=
  match disk.readText cwd p with
  | .error cause => .error (.unreadable p cause)
  | .ok text =>
      match ConfigurationFormat.ofPath? p with
      | none => .error (.unsupportedFormat p)
      | some format =>
          match format.parse text with
          | .error reason => .error (.malformed p reason)
          | .ok value => .ok value

/-- The accepted configuration of a file, and what is reported on the way. -/
def load (disk : Disk) (cwd : Place) (p : Path) :
    Except ConfigurationError Configuration × List LogRecord :=
  match readValue disk cwd p with
  | .error e => (.error e, [])
  | .ok value => (fromValue value, [.configurationLoaded p])

/-- The names under which a configuration is looked for, in order. -/
def fileNames : List String := ["opendatalayer.config.json", "opendatalayer.config.toml"]

/-- The first configuration file of a directory. -/
def discover (disk : Disk) (cwd : Place) (dir : Path) : Option Path :=
  (fileNames.map fun name => dir.join ⟨name⟩).find? (disk.isFile cwd)

end Configuration

end PluginBundle
