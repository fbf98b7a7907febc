import PluginBundle.Proofs.Configuration.Acceptance
import PluginBundle.Script.Generate

/-!
# The variables of an entry script

An entry script binds five variables of its own and one for each plugin.  A configuration is
accepted if the variables of its plugins differ from each other, but they are not compared with the
five: a plugin whose name normalizes to one of them is accepted, and its variable is bound twice.
`program_bindings_nodup_iff` says that nothing else can bind a variable twice.
-/

namespace PluginBundle

/-- The variable that a statement binds. -/
def Statement.binding? : Statement → Option String
  | .importModule binding _ _ => some binding
  | .declare name _ => some name
  | .table name _ => some name
  | .start _ => none

/-- The variables of a program in the order in which they are bound. -/
def Program.bindings (p : Program) : List String := p.statements.filterMap Statement.binding?

/-- The variables that every entry script binds. -/
def fixedBindings : List String :=
  [runtimeBinding, configTable, ruleTable, mappingTable, stateContainer]

theorem fixedBindings_nodup : fixedBindings.Nodup := by decide

/-- No variable of a plugin is one that the script binds itself. -/
def Configuration.SparesFixed (c : Configuration) : Prop :=
  ∀ name ∈ c.plugins.names, normalizeName name ∉ fixedBindings

instance (c : Configuration) : Decidable c.SparesFixed :=
  inferInstanceAs (Decidable (∀ name ∈ c.plugins.names, normalizeName name ∉ fixedBindings))

theorem filterMap_binding?_imports (names : List String) :
    (names.map fun name => Statement.importModule (normalizeName name) name .default).filterMap
        Statement.binding? =
      names.map normalizeName := by
  induction names with
  | nil => rfl
  | cons name rest ih => simp [Statement.binding?, ih]

/-- The runtime comes first, then the plugins in order, then the tables and the state. -/
theorem program_bindings (c : Configuration) :
    c.program.bindings =
      runtimeBinding :: (c.plugins.names.map normalizeName
        ++ [configTable, ruleTable, mappingTable, stateContainer]) := by
  have himports := filterMap_binding?_imports c.plugins.names
  simp [Program.bindings, Program.statements, Configuration.program, Program.push, Program.empty,
    Configuration.importBlock, Configuration.tableBlock, Configuration.startBlock,
    Statement.binding?, himports]

/-- The variables of accepted plugins differ from each other. -/
theorem names_map_normalizeName_nodup {c : Configuration} (h : c.check = .ok ()) :
    (c.plugins.names.map normalizeName).Nodup := by
  have hapart := ((check_eq_ok_iff c).1 h).apart
  simpa [PluginTable.names, Keyed.keys, List.map_map, Function.comp_def] using hapart

/-- **Which accepted configurations bind a variable twice.**  The variables of the plugins always
differ from each other, so all variables differ if and only if no plugin takes one of the five. -/
theorem program_bindings_nodup_iff (c : Configuration) (h : c.check = .ok ()) :
    (c.plugins.names.map normalizeName).Nodup ∧ (c.program.bindings.Nodup ↔ c.SparesFixed) := by
  have hplugins := names_map_normalizeName_nodup h
  refine ⟨hplugins, ?_⟩
  -- The order of binding does not matter: put the five in front.
  have hperm : c.program.bindings.Perm (c.plugins.names.map normalizeName ++ fixedBindings) := by
    rw [program_bindings]
    exact List.perm_middle.symm
  rw [hperm.nodup_iff, List.nodup_append]
  constructor
  · rintro ⟨-, -, hdisjoint⟩ name hname hfixed
    exact hdisjoint _ (List.mem_map_of_mem hname) _ hfixed rfl
  · intro hspares
    refine ⟨hplugins, fixedBindings_nodup, ?_⟩
    rintro _ hvariable fixed hfixed rfl
    obtain ⟨name, hname, rfl⟩ := List.mem_map.1 hvariable
    exact hspares name hname hfixed

/-- A plugin with an ordinary name. -/
theorem ordinary_plugin_bindings :
    let c : Configuration :=
      { Configuration.empty with
        plugins := .ofList [("my-plugin/example", ⟨.object [], .flag true⟩)] }
    c.check = .ok () ∧ c.program.bindings.Nodup := by
  intro c
  have hcheck : c.check = .ok () := by
    rw [check_eq_ok_iff]
    exact ⟨by decide, by decide, by decide +kernel, by decide⟩
  exact ⟨hcheck, (program_bindings_nodup_iff c hcheck).2.2 (by decide)⟩

/-- A plugin that is named like the variable of the runtime is accepted, and the script binds that
variable twice. -/
theorem runtime_variable_bound_twice :
    let c : Configuration :=
      { Configuration.empty with plugins := .ofList [("__$odl", ⟨.object [], .flag true⟩)] }
    c.check = .ok () ∧ ¬c.program.bindings.Nodup := by
  intro c
  have hcheck : c.check = .ok () := by
    rw [check_eq_ok_iff]
    exact ⟨by decide, by decide, by decide +kernel, by decide⟩
  refine ⟨hcheck, ?_⟩
  rw [program_bindings]
  decide

end PluginBundle
