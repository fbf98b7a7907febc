import PluginBundle.Configuration.Error
import PluginBundle.Script.Name

/-!
# Which configurations are accepted

Raw values are checked for their options and for the fields of their plugins, before anything is
read from them. Configurations are checked for what the script could not survive: plugins without a
name, a rule or a variable of their own. The first fault in order decides the error.
-/

namespace PluginBundle

open Json (Value)

/-! ## Raw values -/

/-- An entry lacks a field that is absent or null; a rule of blanks only counts as absent too. -/
def lacksField (fields : List (String × Value)) (field : PluginField) : Bool :=
  match Keyed.find? field.key fields with
  | none => true
  | some .null => true
  | some (.string source) => field == .rule && isBlankText source
  | some _ => false

/-- Checks that a plugin entry is an object with both fields. -/
def checkPluginEntry (name : String) (entry : Value) : Except ConfigurationError Unit :=
  match entry with
  | .object fields =>
      if lacksField fields .config then .error (.missingPluginField name .config)
      else if lacksField fields .rule then .error (.missingPluginField name .rule)
      else .ok ()
  | other =>
      .error (.invalidValue ("plugins." ++ name)
        ("expected an object, got " ++ other.kind.describe))

/-- Checks the plugin entries one after the other. -/
def checkPluginEntries : List (String × Value) → Except ConfigurationError Unit
  | [] => .ok ()
  | (name, entry) :: rest =>
      match checkPluginEntry name entry with
      | .error e => .error e
      | .ok () => checkPluginEntries rest

/-- The first key that names no option. -/
def unknownKey? (options : List (String × Value)) : Option String :=
  (Keyed.keys options).find? fun key => (ConfigurationOption.ofKey? key).isNone

/-- Checks a raw configuration: an object, of known options only, with complete plugins. -/
def checkOptions (value : Value) : Except ConfigurationError Unit :=
  match value with
  | .object options =>
      match unknownKey? options with
      | some key => .error (.unknownOption key)
      | none =>
          match Keyed.find? ConfigurationOption.plugins.key options with
          | none => .ok ()
          | some .null => .ok ()
          | some (.object plugins) => checkPluginEntries plugins
          | some other =>
              .error (.invalidValue "plugins" ("expected an object, got " ++ other.kind.describe))
  | other => .error (.notAnObject other.kind)

/-! ## Configurations -/

/-- Checks plugins in order, given the variables of those before them with their plugins. -/
def checkPlugins : List (String × String) → List (String × PluginEntry) →
    Except ConfigurationError Unit
  | _, [] => .ok ()
  | taken, (name, entry) :: rest =>
      let identifier := normalizeName name
      if name.isEmpty then .error .emptyPluginName
      else if entry.rule.isBlank then .error (.missingPluginField name .rule)
      else if !isIdentifier identifier then .error (.invalidPluginName name identifier)
      else
        -- The variables so far are distinct, so at most one plugin before has this one.
        match Keyed.find? identifier taken with
        | some first => .error (.identifierCollision first name identifier)
        | none => checkPlugins ((identifier, name) :: taken) rest

/-- Checks that every plugin has a name, a rule and a variable of its own. -/
def Configuration.check (c : Configuration) : Except ConfigurationError Unit :=
  checkPlugins [] c.plugins.entries

end PluginBundle
