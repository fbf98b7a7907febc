import PluginBundle.Proofs.Script.Bindings
import PluginBundle.Proofs.Script.Execution

/-!
# What an entry script starts

Running the script of an accepted configuration reads no variable that is not bound, and starts the
runtime by its last statement.  Without a hook that is the call of `initialize`; with a hook it is a
call of the hook, whose continuation makes the very call.  `Ready` is the invariant: what the scope
and the objects are before the last statement.  It has to be shown only once, since the call and the
continuation read the same variables.

It is assumed that no plugin takes a variable of the script itself.  A plugin that does may hide the
runtime, or be hidden by a table.
-/

namespace PluginBundle
namespace Execution

/-- The object `n` has one member for each plugin, in order, whose value is as `R` says.  It refers
to older objects only. -/
def Sends (R : String × PluginEntry → Heap → Denoted → Prop) (heap : Heap) (n : Nat)
    (plugins : List (String × PluginEntry)) : Prop :=
  ∃ members, heap[n]? = some members ∧ Keyed.keys members = Keyed.keys plugins ∧
    (∀ p ∈ plugins, ∃ value, Keyed.find? p.1 members = some value ∧ R p heap value) ∧
    ∀ p ∈ members, ∀ older, p.2 = .object older → older < n

/-- The value of a plugin in the table of the rules. -/
def IsRule (p : String × PluginEntry) (heap : Heap) (value : Denoted) : Prop :=
  Evaluated heap p.2.rule.source value

/-- The value of a plugin in the table of the data. -/
def IsData (p : String × PluginEntry) (_ : Heap) (value : Denoted) : Prop :=
  value = .data p.2.config

/-- The value of a plugin in the table of the bindings. -/
def IsModule (p : String × PluginEntry) (_ : Heap) (value : Denoted) : Prop :=
  value = .exported p.1 .default

/-- The runtime. -/
def runtime : Denoted := .exported runtimeModule (.named runtimeExport)

/-- The objects that a runtime is started with, apart from the reserved one. -/
structure Started where
  container : Nat
  rules : Nat
  config : Nat
  mappings : Nat

/-- The call of `initialize` with those objects and a reserved one. -/
def Started.call (o : Started) (reserved : Nat) : Action :=
  .callRuntime runtime
    [.object o.container, .object o.rules, .object o.config, .object reserved, .object o.mappings]

/-- The tables send each plugin to its rule, its data and its module, and the container and the
reserved object are empty.  These are five different objects: they were made in this order, so no
table refers to the container or to the reserved one either. -/
structure Started.Holds (o : Started) (c : Configuration) (heap : Heap) (reserved : Nat) :
    Prop where
  inOrder : o.config < o.rules ∧ o.rules < o.mappings ∧ o.mappings < o.container ∧
    o.container < reserved
  container : heap[o.container]? = some []
  reserved : heap[reserved]? = some []
  rules : Sends IsRule heap o.rules c.plugins.entries
  config : Sends IsData heap o.config c.plugins.entries
  mappings : Sends IsModule heap o.mappings c.plugins.entries

/-- What is said of values stays true while more objects are made, and is said of objects that were
made. -/
structure Lasting (R : String × PluginEntry → Heap → Denoted → Prop) : Prop where
  mono : ∀ p heap later value, heap <+: later → R p heap value → R p later value
  made : ∀ p heap n, R p heap (.object n) → n < heap.length

theorem Sends.mono {R : String × PluginEntry → Heap → Denoted → Prop} (hR : Lasting R)
    {heap later : Heap} {n : Nat} {plugins : List (String × PluginEntry)}
    (h : Sends R heap n plugins) (hgrow : heap <+: later) : Sends R later n plugins := by
  obtain ⟨members, hn, hkeys, hvalues, holder⟩ := h
  refine ⟨members, getElem?_of_prefix hgrow hn, hkeys, ?_, holder⟩
  intro p hp
  obtain ⟨value, hfind, hvalue⟩ := hvalues p hp
  exact ⟨value, hfind, hR.mono _ _ _ _ hgrow hvalue⟩

theorem lasting_isRule : Lasting IsRule where
  mono _ _ _ _ hgrow h := Evaluated.mono h hgrow
  made p heap n h := by
    rcases h with ⟨-, m, hvalue, hm⟩ | ⟨-, hvalue⟩
    · cases hvalue
      exact (List.getElem?_eq_some_iff.1 hm).1
    · cases hvalue

theorem lasting_isData : Lasting IsData where
  mono _ _ _ _ _ h := h
  made _ _ _ h := by cases h

theorem lasting_isModule : Lasting IsModule where
  mono _ _ _ _ _ h := h
  made _ _ _ h := by cases h

/-- Running a table makes one object, after whatever its entries make. -/
theorem runStatement_table {R : String × PluginEntry → Heap → Denoted → Prop} (hR : Lasting R)
    {plugins : List (String × PluginEntry)} (hkeys : (Keyed.keys plugins).Nodup)
    {s : State} (name : String) {e : String × PluginEntry → Expr}
    (heval : ∀ p ∈ plugins, ∀ heap, ∃ value later,
      evalExpr s.scope heap (e p) = some (value, later) ∧ heap <+: later ∧ R p later value) :
    ∃ n heap, runStatement s (.table name (plugins.map fun p => (p.1, e p))) =
        some (s.bind name (.object n) heap) ∧
      s.heap <+: heap ∧ s.heap.length ≤ n ∧ n < heap.length ∧ Sends R heap n plugins := by
  obtain ⟨members, later, hentries, hgrow, hnames, hvalues⟩ :=
    evalEntries_of_forall Prod.fst hR.mono heval s.heap
  have hmade : later <+: later ++ [members] := List.prefix_append later _
  refine ⟨later.length, later ++ [members], ?_, hgrow.trans hmade, hgrow.length_le, by simp, ?_⟩
  · simp [runStatement, hentries, make]
  · have hnodup : (Keyed.keys members).Nodup := by
      rw [hnames]
      exact hkeys
    refine ⟨members, by simp, hnames, ?_, ?_⟩
    · intro p hp
      obtain ⟨value, hmember, hvalue⟩ := hvalues p hp
      exact ⟨value, Keyed.find?_of_mem hnodup hmember, hR.mono _ _ _ _ hmade hvalue⟩
    · rintro ⟨key, value⟩ hmember older hobject
      have hkey : key ∈ plugins.map Prod.fst := hnames ▸ List.mem_map_of_mem hmember
      obtain ⟨p, hp, rfl⟩ := List.mem_map.1 hkey
      obtain ⟨found, hfound, hvalue⟩ := hvalues p hp
      have hsame := (Keyed.find?_of_mem hnodup hfound).symm.trans
        (Keyed.find?_of_mem hnodup hmember)
      cases hsame
      cases hobject
      exact hR.made p later older hvalue

/-- The three tables are bound and made. -/
structure Tabled (c : Configuration) (o : Started) (s : State) : Prop where
  rulesBound : Keyed.find? ruleTable s.scope = some (.object o.rules)
  configBound : Keyed.find? configTable s.scope = some (.object o.config)
  mappingsBound : Keyed.find? mappingTable s.scope = some (.object o.mappings)
  rules : Sends IsRule s.heap o.rules c.plugins.entries
  config : Sends IsData s.heap o.config c.plugins.entries
  mappings : Sends IsModule s.heap o.mappings c.plugins.entries
  tablesInOrder : o.config < o.rules ∧ o.rules < o.mappings ∧ o.mappings < s.heap.length

/-- What is bound and what was made before the last statement. -/
structure Ready (c : Configuration) (o : Started) (s : State) : Prop extends Tabled c o s where
  actions : s.actions = []
  runtimeBound : Keyed.find? runtimeBinding s.scope = some runtime
  containerBound : Keyed.find? stateContainer s.scope = some (.object o.container)
  container : s.heap[o.container]? = some []
  containerLast : o.mappings < o.container ∧ o.container < s.heap.length

/-- The tables stay while another variable is bound and more objects are made. -/
theorem Tabled.bind {c : Configuration} {o : Started} {s : State} (h : Tabled c o s) {name : String}
    (hname : name ∉ [ruleTable, configTable, mappingTable]) {heap : Heap} (hgrow : s.heap <+: heap)
    (value : Denoted) : Tabled c o (s.bind name value heap) := by
  simp only [List.mem_cons, List.not_mem_nil, or_false, not_or] at hname
  obtain ⟨hrules, hconfig, hmappings⟩ := hname
  have hlength := hgrow.length_le
  have horder := h.tablesInOrder
  exact {
    rulesBound := by rw [find?_bind, if_neg hrules]; exact h.rulesBound
    configBound := by rw [find?_bind, if_neg hconfig]; exact h.configBound
    mappingsBound := by rw [find?_bind, if_neg hmappings]; exact h.mappingsBound
    rules := h.rules.mono lasting_isRule hgrow
    config := h.config.mono lasting_isData hgrow
    mappings := h.mappings.mono lasting_isModule hgrow
    tablesInOrder := by rw [bind_heap]; omega }

/-- The call reads bound variables only and makes nothing but the reserved object, whatever has
been made or changed since. -/
theorem Ready.performCall {c : Configuration} {o : Started} {s : State} (h : Ready c o s)
    (heap : Heap) :
    performCall s.scope heap Configuration.initializeCall =
      some (o.call heap.length, heap ++ [[]]) := by
  have hcontainer : stateContainer ≠ emptyObject := by decide
  have hrules : ruleTable ≠ emptyObject := by decide
  have hconfig : configTable ≠ emptyObject := by decide
  have hmappings : mappingTable ≠ emptyObject := by decide
  simp [Execution.performCall, Configuration.initializeCall, evalArgs, evalExpr, evalSource, make,
    Started.call, h.runtimeBound, h.containerBound, h.rulesBound, h.configBound, h.mappingsBound,
    hcontainer, hrules, hconfig, hmappings]

/-- The objects are as they should be when the reserved one is made after all others. -/
theorem Ready.holds {c : Configuration} {o : Started} {s : State} (h : Ready c o s)
    {heap : Heap} (hgrow : s.heap <+: heap) : o.Holds c (heap ++ [[]]) heap.length := by
  have hgrow' : s.heap <+: heap ++ [[]] := hgrow.trans (List.prefix_append heap _)
  refine ⟨?_, getElem?_of_prefix hgrow' h.container, by simp, h.rules.mono lasting_isRule hgrow',
    h.config.mono lasting_isData hgrow', h.mappings.mono lasting_isModule hgrow'⟩
  have hlength := hgrow.length_le
  have htables := h.tablesInOrder
  have hlast := h.containerLast
  omega

/-- The three tables, after the imports. -/
theorem runAll_tableBlock {c : Configuration} {s : State} (hspares : c.SparesFixed)
    (himports : ∀ name ∈ c.plugins.names,
      Keyed.find? (normalizeName name) s.scope = some (.exported name .default)) :
    ∃ (o : Started) (t : State), runAll s c.tableBlock = some t ∧ t.actions = s.actions ∧
      o.container = t.heap.length ∧
      Keyed.find? runtimeBinding t.scope = Keyed.find? runtimeBinding s.scope ∧ Tabled c o t := by
  have hkeys := c.plugins.distinct
  obtain ⟨config, heap₁, hconfig, hgrow₁, -, hlast₁, hsends₁⟩ :=
    runStatement_table lasting_isData hkeys (s := s) configTable (e := fun p => .json p.2.config)
      fun p _ heap => ⟨_, heap, rfl, List.prefix_rfl, rfl⟩
  obtain ⟨rules, heap₂, hrules, hgrow₂, hfirst₂, hlast₂, hsends₂⟩ :=
    runStatement_table lasting_isRule hkeys (s := s.bind configTable (.object config) heap₁)
      ruleTable
      (e := fun p => .raw p.2.rule.source)
      fun p _ heap =>
        have hrule := evaluated_evalSource p.2.rule.source heap
        ⟨_, _, rfl, hrule.1, hrule.2⟩
  let u := (s.bind configTable (.object config) heap₁).bind ruleTable (.object rules) heap₂
  have hlookup : ∀ p ∈ c.plugins.entries, ∀ heap, ∃ value later,
      evalExpr u.scope heap (.ident (normalizeName p.1)) = some (value, later) ∧
        heap <+: later ∧ IsModule p later value := by
    intro p hp heap
    have hname : p.1 ∈ c.plugins.names := List.mem_map_of_mem hp
    have hfree := hspares p.1 hname
    simp only [fixedBindings, List.mem_cons, not_or] at hfree
    have hfind : Keyed.find? (normalizeName p.1) u.scope = some (.exported p.1 .default) := by
      rw [find?_bind, if_neg (Ne.symm hfree.2.2.1), find?_bind, if_neg (Ne.symm hfree.2.1)]
      exact himports p.1 hname
    exact ⟨_, heap, by simp [evalExpr, hfind], List.prefix_rfl, rfl⟩
  obtain ⟨mappings, heap₃, hmappings, hgrow₃, hfirst₃, hlast₃, hsends₃⟩ :=
    runStatement_table lasting_isModule hkeys (s := u) mappingTable hlookup
  let t := u.bind mappingTable (.object mappings) heap₃
  have hrun : runAll s c.tableBlock = some t := by
    have hnames : (c.plugins.names.map fun name => (name, Expr.ident (normalizeName name))) =
        c.plugins.entries.map fun p => (p.1, .ident (normalizeName p.1)) := by
      simp [PluginTable.names, Keyed.keys, List.map_map, Function.comp_def]
    simp only [Configuration.tableBlock, runAll, hnames, hconfig, hrules]
    rw [hmappings]
  refine ⟨⟨heap₃.length, rules, config, mappings⟩, t, hrun, rfl, rfl, ?_, ?_⟩
  · simp [t, u, runtimeBinding, configTable, ruleTable, mappingTable]
  · exact {
      rulesBound := by simp [t, u, configTable, ruleTable, mappingTable]
      configBound := by simp [t, u, configTable, ruleTable, mappingTable]
      mappingsBound := by simp [t]
      rules := hsends₂.mono lasting_isRule hgrow₃
      config := hsends₁.mono lasting_isData (hgrow₂.trans hgrow₃)
      mappings := hsends₃
      tablesInOrder :=
        ⟨Nat.lt_of_lt_of_le hlast₁ hfirst₂, Nat.lt_of_lt_of_le hlast₂ hfirst₃, hlast₃⟩ }

/-- Everything before the last statement can be run, and leaves what the start needs. -/
theorem exists_ready {c : Configuration} (h : c.check = .ok ()) (hspares : c.SparesFixed) :
    ∃ o s, runAll .initial
        (c.importBlock ++ c.tableBlock ++ [.declare stateContainer (.raw emptyObject)]) = some s ∧
      Ready c o s := by
  obtain ⟨s, himports, hheap, hactions, hother, hplugins⟩ :=
    runAll_imports c.plugins.names (State.initial.bind runtimeBinding runtime [])
  have hspared : runtimeBinding ∉ c.plugins.names.map normalizeName := by
    intro hmem
    obtain ⟨name, hname, hequal⟩ := List.mem_map.1 hmem
    exact hspares name hname (by simp [hequal, fixedBindings])
  obtain ⟨o, t, htables, hquiet, hcontainer, hruntime, htabled⟩ :=
    runAll_tableBlock hspares (hplugins (names_map_normalizeName_nodup h))
  let ready := t.bind stateContainer (.object o.container) (t.heap ++ [[]])
  have hrun : runAll .initial
      (c.importBlock ++ c.tableBlock ++ [.declare stateContainer (.raw emptyObject)]) =
        some ready := by
    have hfront : runAll .initial c.importBlock = some s := himports
    rw [runAll_append, runAll_append, hfront, Option.bind_some, htables, Option.bind_some]
    simp [runAll, runStatement, evalExpr, evalSource, make, ready, hcontainer]
  have hlength : ready.heap.length = t.heap.length + 1 := by simp [ready]
  have horder := htabled.tablesInOrder
  refine ⟨o, ready, hrun, ?_⟩
  exact {
    toTabled := htabled.bind (by decide) (List.prefix_append t.heap _) _
    actions := by simp [ready, hquiet, hactions, State.initial]
    runtimeBound := by
      have hfound : Keyed.find? runtimeBinding t.scope = some runtime := by
        rw [hruntime, hother _ hspared, find?_bind, if_pos rfl]
      simpa [ready, stateContainer, runtimeBinding] using hfound
    containerBound := by simp [ready]
    container := by simp [ready, hcontainer]
    containerLast := by omega }

/-- The hook is the trimmed source that is set, unless that is blank. -/
theorem hook?_cases (c : Configuration) :
    (c.hook? = none ∧ ∀ source, c.onBeforeInitialize = some source → isBlankText source = true) ∨
      ∃ source, c.hook? = some (trim source) ∧ c.onBeforeInitialize = some source ∧
        isBlankText source = false := by
  cases hset : c.onBeforeInitialize with
  | none => exact .inl ⟨by simp [Configuration.hook?, hset], by simp⟩
  | some source =>
      cases hblank : isBlankText source with
      | true =>
          have htrim : trim source = "" := (trim_eq_empty_iff source).2 hblank
          exact .inl ⟨by simp [Configuration.hook?, hset, htrim], by simp [hblank]⟩
      | false =>
          have htrim : trim source ≠ "" := by
            intro h
            simp [(trim_eq_empty_iff source).1 h] at hblank
          exact .inr ⟨source, by simp [Configuration.hook?, hset, htrim], rfl, hblank⟩

/-- How the last statement starts the runtime: the state before it is `s` and the state after it is
`t`. -/
inductive Starts (c : Configuration) (s t : State) : Prop where
  /-- Without a hook the runtime is initialized. -/
  | atOnce (o : Started)
      (unhooked : ∀ source, c.onBeforeInitialize = some source → isBlankText source = true)
      (action : t.actions = [o.call s.heap.length])
      (heap : t.heap = s.heap ++ [[]])
      (holds : o.Holds c t.heap s.heap.length)
  /-- A hook is called with the runtime, the empty container and a continuation.  That makes the
  same call whenever it is invoked, and nothing but the reserved object. -/
  | byHook (o : Started) (source : String) (k : Continuation)
      (hooked : c.onBeforeInitialize = some source) (visible : isBlankText source = false)
      (action : t.actions = [.callHook (trim source) [runtime, .object o.container] k])
      (heap : t.heap = s.heap)
      (container : t.heap[o.container]? = some [])
      (continues : ∀ heap, k.invoke heap = some (o.call heap.length, heap ++ [[]]))
      (holds : ∀ heap, t.heap <+: heap → o.Holds c (heap ++ [[]]) heap.length)

/-- A state that is ready starts the runtime. -/
theorem Ready.starts {c : Configuration} {o : Started} {s : State} (h : Ready c o s) :
    ∃ t, runStatement s (.start c.initialization) = some t ∧ Starts c s t := by
  rcases hook?_cases c with ⟨hnone, hunhooked⟩ | ⟨source, hsome, hset, hvisible⟩
  · have hinit : c.initialization = .immediate Configuration.initializeCall := by
      simp [Configuration.initialization, hnone]
    refine ⟨{ s with heap := s.heap ++ [[]], actions := [o.call s.heap.length] }, ?_, ?_⟩
    · simp [runStatement, hinit, performStart, h.performCall, h.actions]
    · exact .atOnce o hunhooked rfl rfl (h.holds List.prefix_rfl)
  · have hinit : c.initialization =
        .deferred (trim source) [runtimeBinding, stateContainer] Configuration.initializeCall := by
      simp [Configuration.initialization, hsome]
    have hargs : evalArgs s.scope s.heap [runtimeBinding, stateContainer] =
        some ([runtime, .object o.container], s.heap) := by
      have hruntime : runtimeBinding ≠ emptyObject := by decide
      have hcontainer : stateContainer ≠ emptyObject := by decide
      simp [evalArgs, evalExpr, h.runtimeBound, h.containerBound, hruntime, hcontainer]
    let k : Continuation := ⟨s.scope, Configuration.initializeCall⟩
    let action : Action := .callHook (trim source) [runtime, .object o.container] k
    refine ⟨{ s with actions := [action] }, ?_, ?_⟩
    · simp [runStatement, hinit, performStart, hargs, h.actions, action, k]
    · exact .byHook o source k hset hvisible rfl rfl h.container h.performCall fun _ => h.holds

/-- **What an entry script does.**  If a configuration is accepted and no plugin takes a variable of
the script itself, then its script runs to its end, and the last statement is the only one that
starts anything. -/
theorem script_starts_runtime (c : Configuration) (h : c.check = .ok ()) (hspares : c.SparesFixed) :
    ∃ before last s t, c.program.statements = before ++ [last] ∧
      runAll .initial before = some s ∧ s.actions = [] ∧
      runStatement s last = some t ∧ runAll .initial c.program.statements = some t ∧
      Starts c s t := by
  obtain ⟨o, s, hbefore, hready⟩ := exists_ready h hspares
  obtain ⟨t, hlast, hstarts⟩ := hready.starts
  have hprogram : c.program.statements =
      (c.importBlock ++ c.tableBlock ++ [.declare stateContainer (.raw emptyObject)]) ++
        [.start c.initialization] := by
    simp [Program.statements, Configuration.program, Program.push, Program.empty,
      Configuration.startBlock]
  have hwhole : runAll .initial c.program.statements = some t := by
    rw [hprogram, runAll_append, hbefore, Option.bind_some]
    simp [runAll, hlast]
  exact ⟨_, _, s, t, hprogram, hbefore, hready.actions, hlast, hwhole, hstarts⟩

/-- Two plugins, one with the text of an object for its rule, and a hook. -/
theorem hooked_script_starts_runtime :
    let c : Configuration :=
      { Configuration.empty with
        plugins := .ofList
          [("my-plugin/example", ⟨.object [], .expression emptyObject⟩),
           ("other", ⟨.bool true, .flag true⟩)]
        onBeforeInitialize := some " (odl, data, next) => next() " }
    c.check = .ok () ∧ c.SparesFixed ∧
      ∃ before last s t, c.program.statements = before ++ [last] ∧
        runAll .initial before = some s ∧ s.actions = [] ∧
        runStatement s last = some t ∧ runAll .initial c.program.statements = some t ∧
        Starts c s t := by
  intro c
  have hcheck : c.check = .ok () := by
    rw [check_eq_ok_iff]
    exact ⟨by decide, by decide, by decide +kernel, by decide⟩
  have hspares : c.SparesFixed := by decide
  exact ⟨hcheck, hspares, script_starts_runtime c hcheck hspares⟩

end Execution
end PluginBundle
