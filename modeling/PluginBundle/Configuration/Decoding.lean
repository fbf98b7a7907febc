import PluginBundle.Configuration.Validation
import PluginBundle.Text.Quoted

/-!
# Configurations from JSON values

Decoding looks at the shape of a value only: which member is an option, and whether it has the type
of that option. Members are taken in the order of the value, so the first one that is wrong decides
the error. An array is decoded as well, its elements standing for the options in their order.
-/

namespace PluginBundle

open Json (Value)

/-- What was wanted where something else was found. -/
inductive Wanted where
  | boolean
  | string
  | path
  | map
  | pluginEntry
  | configuration
  deriving DecidableEq, Repr

def Wanted.describe : Wanted → String
  | .boolean => "a boolean"
  | .string => "a string"
  | .path => "path string"
  | .map => "a map"
  | .pluginEntry => "struct PluginEntry"
  | .configuration => "struct BuildConfiguration"

/-- Why a value is no configuration. -/
inductive DecodeError where
  | wrongType (found : Value) (wanted : Wanted)
  | unknownField (name : String)
  | missingField (field : PluginField)
  | noRule
  | tooFewElements (count : Nat)
  | tooManyElements (count : Nat)

/-- A value as messages name it. -/
def describeFound : Value → String
  | .null => "null"
  | .bool b => "boolean " ++ ConfigurationError.ticked (if b then "true" else "false")
  | .number (.whole i _) => "integer " ++ ConfigurationError.ticked (Json.wholeText i)
  | .number (.float x _) => "floating point " ++ ConfigurationError.ticked (floatText .json x)
  | .string s => "string " ++ showQuoted s
  | .array _ => "sequence"
  | .object _ => "map"

def DecodeError.message : DecodeError → String
  | .wrongType found wanted =>
      "invalid type: " ++ describeFound found ++ ", expected " ++ wanted.describe
  | .unknownField name =>
      "unknown field " ++ ConfigurationError.ticked name ++ ", expected one of "
        ++ ", ".intercalate (ConfigurationOption.all.map (ConfigurationError.ticked ·.key))
  | .missingField field => "missing field " ++ ConfigurationError.ticked field.key
  | .noRule => "data did not match any variant of untagged enum Rule"
  | .tooFewElements count =>
      "invalid length " ++ Nat.repr count ++ ", expected struct PluginEntry with 2 elements"
  | .tooManyElements count =>
      "invalid length " ++ Nat.repr count ++ ", expected fewer elements in array"

def decodeRule : Value → Except DecodeError Rule
  | .bool on => .ok (.flag on)
  | .string source => .ok (.expression source)
  | _ => .error .noRule

/-- Null stands for an option that is not set. -/
def decodeText? (wanted : Wanted) : Value → Except DecodeError (Option String)
  | .null => .ok none
  | .string text => .ok (some text)
  | other => .error (.wrongType other wanted)

/-- Null stands for a flag that is off. -/
def decodeFlag : Value → Except DecodeError Bool
  | .null => .ok false
  | .bool on => .ok on
  | other => .error (.wrongType other .boolean)

/-- The fields of a plugin entry as far as they were met. -/
structure PartialEntry where
  config : Option Value
  rule : Option Rule

/-- Takes the members of a plugin entry in order. Those of other names are passed over. -/
def takeEntryMembers : PartialEntry → List (String × Value) → Except DecodeError PartialEntry
  | found, [] => .ok found
  | found, (key, value) :: rest =>
      if key = PluginField.config.key then takeEntryMembers { found with config := some value } rest
      else if key = PluginField.rule.key then
        match decodeRule value with
        | .error e => .error e
        | .ok rule => takeEntryMembers { found with rule := some rule } rest
      else takeEntryMembers found rest

def decodeEntry : Value → Except DecodeError PluginEntry
  | .object members =>
      match takeEntryMembers ⟨none, none⟩ members with
      | .error e => .error e
      | .ok ⟨none, _⟩ => .error (.missingField .config)
      | .ok ⟨some _, none⟩ => .error (.missingField .rule)
      | .ok ⟨some config, some rule⟩ => .ok ⟨config, rule⟩
  | .array items =>
      match items with
      | config :: rule :: rest =>
          match decodeRule rule with
          | .error e => .error e
          | .ok rule =>
              if rest.isEmpty then .ok ⟨config, rule⟩ else .error (.tooManyElements items.length)
      | few => .error (.tooFewElements few.length)
  | other => .error (.wrongType other .pluginEntry)

def decodeEntries : List (String × Value) → Except DecodeError (List (String × PluginEntry))
  | [] => .ok []
  | (name, value) :: rest =>
      match decodeEntry value with
      | .error e => .error e
      | .ok entry =>
          match decodeEntries rest with
          | .error e => .error e
          | .ok entries => .ok ((name, entry) :: entries)

/-- Null stands for no plugins. -/
def decodePlugins : Value → Except DecodeError PluginTable
  | .null => .ok ∅
  | .object members =>
      match decodeEntries members with
      | .error e => .error e
      | .ok entries => .ok (.ofList entries)
  | other => .error (.wrongType other .map)

/-- Gives an option the value that was found for it. -/
def decodeOption (c : Configuration) (option : ConfigurationOption) (value : Value) :
    Except DecodeError Configuration :=
  match option with
  | .debug => (decodeFlag value).map fun on => { c with debug := on }
  | .baseDir => (decodeText? .path value).map fun text => { c with baseDir := text.map Path.mk }
  | .outputPath =>
      (decodeText? .path value).map fun text => { c with outputPath := text.map Path.mk }
  | .outputFilename => (decodeText? .string value).map fun text => { c with outputFilename := text }
  | .plugins => (decodePlugins value).map fun plugins => { c with plugins := plugins }
  | .onBeforeInitialize =>
      (decodeText? .string value).map fun text => { c with onBeforeInitialize := text }

/-- Takes the members of a configuration in order. -/
def takeOptions : Configuration → List (String × Value) → Except DecodeError Configuration
  | c, [] => .ok c
  | c, (key, value) :: rest =>
      match ConfigurationOption.ofKey? key with
      | none => .error (.unknownField key)
      | some option =>
          match decodeOption c option value with
          | .error e => .error e
          | .ok c => takeOptions c rest

/-- Takes the elements of an array for the options in their order. -/
def takeElements : Configuration → List ConfigurationOption → List Value → Nat →
    Except DecodeError Configuration
  | c, _, [], _ => .ok c
  | _, [], _ :: _, count => .error (.tooManyElements count)
  | c, option :: options, value :: values, count =>
      match decodeOption c option value with
      | .error e => .error e
      | .ok c => takeElements c options values count

namespace Configuration

/-- The configuration that a value spells, whether or not it is accepted. -/
def decode (value : Value) : Except DecodeError Configuration :=
  match value with
  | .object members => takeOptions .empty members
  | .array items => takeElements .empty ConfigurationOption.all items items.length
  | other => .error (.wrongType other .configuration)

/-- The accepted configuration that a value spells. -/
def fromValue (value : Value) : Except ConfigurationError Configuration :=
  -- Faults that the raw check sees win over those that decoding would find.
  match checkOptions value with
  | .error e => .error e
  | .ok () =>
      match decode value with
      | .error e => .error (.invalidValue "configuration" e.message)
      | .ok c =>
          match c.check with
          | .error e => .error e
          | .ok () => .ok c

end Configuration

end PluginBundle
