import PluginBundle.Configuration.Validation

/-!
# Configurations put together step by step

Each step sets an option or registers a plugin; a later step for the same option wins. What the
steps leave is accepted or refused as a whole.
-/

namespace PluginBundle

/-- One step in putting a configuration together. -/
inductive ConfigurationStep where
  | debug (on : Bool)
  | baseDir (dir : Path)
  | outputPath (dir : Path)
  | outputFilename (name : String)
  | plugin (name : String) (config : Json.Value) (rule : Rule)
  | onBeforeInitialize (hook : String)

/-- The configuration after one more step. -/
def ConfigurationStep.apply (c : Configuration) : ConfigurationStep → Configuration
  | .debug on => { c with debug := on }
  | .baseDir dir => { c with baseDir := some dir }
  | .outputPath dir => { c with outputPath := some dir }
  | .outputFilename name => { c with outputFilename := some name }
  | .plugin name config rule => { c with plugins := c.plugins.insert name ⟨config, rule⟩ }
  | .onBeforeInitialize hook => { c with onBeforeInitialize := some hook }

namespace Configuration

/-- The configuration that a sequence of steps leaves. -/
def ofSteps (steps : List ConfigurationStep) : Configuration :=
  steps.foldl ConfigurationStep.apply .empty

/-- The same, if it is accepted. -/
def build (steps : List ConfigurationStep) : Except ConfigurationError Configuration :=
  match (ofSteps steps).check with
  | .error e => .error e
  | .ok () => .ok (ofSteps steps)

end Configuration

end PluginBundle
