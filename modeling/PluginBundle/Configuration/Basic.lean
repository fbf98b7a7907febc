import PluginBundle.Files.Path
import PluginBundle.Json.Text
import PluginBundle.Keyed
import PluginBundle.Text.Blank

/-!
# Configurations

What a build is asked to do: where its files go, which plugins the script starts and in what order,
and a hook that runs before it. Every option may be left unset; which of them a build needs is said
elsewhere.
-/

namespace PluginBundle

/-- When a plugin is active: a plain flag, or a source expression that the runtime evaluates. -/
inductive Rule where
  | flag (on : Bool)
  | expression (source : String)
  deriving DecidableEq, Repr

namespace Rule

/-- The rule as source text. -/
def source : Rule → String
  | .flag true => "true"
  | .flag false => "false"
  | .expression source => source

/-- An expression without any source. -/
def isBlank : Rule → Bool
  | .flag _ => false
  | .expression source => isBlankText source

end Rule

/-- A configured plugin: data that is handed on as it is, and its rule. -/
structure PluginEntry where
  config : Json.Value
  rule : Rule

/-- The configured plugins in the order of their first registration, each name once. -/
structure PluginTable where
  entries : List (String × PluginEntry)
  distinct : (Keyed.keys entries).Nodup

namespace PluginTable

def empty : PluginTable := ⟨[], List.nodup_nil⟩

instance : EmptyCollection PluginTable := ⟨empty⟩

/-- Registers a plugin: in its place if the name is there, else at the end. -/
def insert (t : PluginTable) (name : String) (entry : PluginEntry) : PluginTable :=
  ⟨Keyed.set name entry t.entries, Keyed.keys_set_nodup t.distinct⟩

def names (t : PluginTable) : List String := Keyed.keys t.entries

/-- The table that registering a list of plugins leaves. -/
def ofList (entries : List (String × PluginEntry)) : PluginTable :=
  ⟨Keyed.collect entries, Keyed.collect_nodup entries⟩

theorem ext {s t : PluginTable} (h : s.entries = t.entries) : s = t := by
  cases s; cases t; cases h; rfl

end PluginTable

/-- A request for a build. -/
structure Configuration where
  /-- Keeps the entry script and logs the resolved paths. -/
  debug : Bool
  /-- The root of output paths. -/
  baseDir : Option Path
  /-- The directory of the bundle as seen from the root. -/
  outputPath : Option Path
  outputFilename : Option String
  plugins : PluginTable
  /-- A function expression that runs first and starts the rest by calling its continuation. -/
  onBeforeInitialize : Option String

namespace Configuration

/-- The configuration in which nothing is set. -/
def empty : Configuration := ⟨false, none, none, none, ∅, none⟩

instance : Inhabited Configuration := ⟨empty⟩

/-- The hook without blanks around it, if that leaves any text. -/
def hook? (c : Configuration) : Option String :=
  match c.onBeforeInitialize with
  | none => none
  | some source => if (trim source).isEmpty then none else some (trim source)

/-- The base directory; an empty one counts as unset. -/
def baseDir? (c : Configuration) : Option Path :=
  match c.baseDir with
  | none => none
  | some dir => if dir.isEmpty then none else some dir

end Configuration

/-- The options of a configuration, in the order in which they are written. -/
inductive ConfigurationOption where
  | debug
  | baseDir
  | outputPath
  | outputFilename
  | plugins
  | onBeforeInitialize
  deriving DecidableEq, Repr

namespace ConfigurationOption

def all : List ConfigurationOption :=
  [.debug, .baseDir, .outputPath, .outputFilename, .plugins, .onBeforeInitialize]

/-- The key of the option in a file. -/
def key : ConfigurationOption → String
  | .debug => "debug"
  | .baseDir => "baseDir"
  | .outputPath => "outputPath"
  | .outputFilename => "outputFilename"
  | .plugins => "plugins"
  | .onBeforeInitialize => "onBeforeInitialize"

/-- The option with a key. -/
def ofKey? (key : String) : Option ConfigurationOption := all.find? (·.key == key)

end ConfigurationOption

/-- The two fields that a plugin entry must have. -/
inductive PluginField where
  | config
  | rule
  deriving DecidableEq, Repr

def PluginField.key : PluginField → String
  | .config => "config"
  | .rule => "rule"

/-! ## Configurations as JSON -/

def Rule.toJson : Rule → Json.Value
  | .flag on => .bool on
  | .expression source => .string source

def PluginEntry.toJson (e : PluginEntry) : Json.Value :=
  .object [(PluginField.config.key, e.config), (PluginField.rule.key, e.rule.toJson)]

namespace Configuration

/-- The member of an option that is set. -/
def member? (key : ConfigurationOption) (value : Option String) : List (String × Json.Value) :=
  match value with
  | none => []
  | some text => [(key.key, .string text)]

/-- The configuration as an object: unset options are left out, the flag and the plugins are always
there. -/
def toJson (c : Configuration) : Json.Value :=
  .object <|
    [(ConfigurationOption.debug.key, .bool c.debug)]
      ++ member? .baseDir (c.baseDir.map (·.text))
      ++ member? .outputPath (c.outputPath.map (·.text))
      ++ member? .outputFilename c.outputFilename
      ++ [(ConfigurationOption.plugins.key,
            .object (c.plugins.entries.map fun p => (p.1, p.2.toJson)))]
      ++ member? .onBeforeInitialize c.onBeforeInitialize

/-- The compact JSON text of a configuration. -/
def text (c : Configuration) : String := c.toJson.text

end Configuration

end PluginBundle
