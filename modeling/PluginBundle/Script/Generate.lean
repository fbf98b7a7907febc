import PluginBundle.Configuration.Basic
import PluginBundle.Script.Name
import PluginBundle.Script.Render

/-!
# The entry script of a configuration

The script imports the runtime and every plugin, collects the data, the rules and the bindings of
the plugins in three tables, and hands them to the runtime together with an empty container for its
state. With a hook the last step is left to the hook.
-/

namespace PluginBundle

/-- The module of the runtime and the export that is used of it. -/
def runtimeModule : String := "opendatalayer"

def runtimeExport : String := "odl"

/-- The variables that every script binds. -/
def runtimeBinding : String := "__$odl"

def configTable : String := "__$ODL_CONFIG"

def ruleTable : String := "__$ODL_RULES"

def mappingTable : String := "__$ODL_MAPPINGS"

def stateContainer : String := "__$ODL_DATA"

/-- The source text of a fresh object. -/
def emptyObject : String := "\x7b\x7d"

namespace Configuration

/-- The imports: the runtime, and then the plugins in order. -/
def importBlock (c : Configuration) : List Statement :=
  .importModule runtimeBinding runtimeModule (.named runtimeExport)
    :: c.plugins.names.map fun name => .importModule (normalizeName name) name .default

/-- The three tables, from the name of a plugin to its data, its rule and its binding. -/
def tableBlock (c : Configuration) : List Statement :=
  [.table configTable (c.plugins.entries.map fun p => (p.1, .json p.2.config)),
   .table ruleTable (c.plugins.entries.map fun p => (p.1, .raw p.2.rule.source)),
   .table mappingTable (c.plugins.names.map fun name => (name, .ident (normalizeName name)))]

/-- The call that starts the runtime. -/
def initializeCall : InitializeCall :=
  ⟨runtimeBinding, [stateContainer, ruleTable, configTable, emptyObject, mappingTable]⟩

def initialization (c : Configuration) : Initialization :=
  match c.hook? with
  | some hook => .deferred hook [runtimeBinding, stateContainer] initializeCall
  | none => .immediate initializeCall

/-- The state container, and the start. -/
def startBlock (c : Configuration) : List Statement :=
  [.declare stateContainer (.raw emptyObject), .start c.initialization]

/-- The entry script as statements. -/
def program (c : Configuration) : Program :=
  ((Program.empty.push c.importBlock).push c.tableBlock).push c.startBlock

/-- The entry script as text. -/
def script (c : Configuration) (style : ImportStyle) : String := c.program.render style

end Configuration

end PluginBundle
