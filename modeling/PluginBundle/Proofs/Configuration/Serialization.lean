import PluginBundle.Configuration.Steps
import PluginBundle.Proofs.Configuration.Values

/-!
# Configurations written as values and read again

A configuration is written as an object, and decoding that object gives the configuration back.  The
raw check looks at the object too, and it refuses something that `Configuration.check` lets pass:
data that is null.  A file cannot bring such data in, but a step can.

`Complete` says that no data is null.  It is all that stands between the two doors: what the steps
leave is accepted as a value if and only if it is accepted as it is and complete.
-/

namespace PluginBundle

open Json (Value)

/-! ## Decoding what was written -/

@[simp] theorem decodeRule_toJson (rule : Rule) : decodeRule rule.toJson = .ok rule := by
  cases rule <;> rfl

@[simp] theorem decodeEntry_toJson (entry : PluginEntry) :
    decodeEntry entry.toJson = .ok entry := by
  simp [PluginEntry.toJson, decodeEntry, takeEntryMembers, PluginField.key]

/-- Plugins as the members of an object. -/
def pluginMembers (entries : List (String × PluginEntry)) : List (String × Value) :=
  entries.map fun p => (p.1, p.2.toJson)

theorem decodeEntries_pluginMembers (entries : List (String × PluginEntry)) :
    decodeEntries (pluginMembers entries) = .ok entries := by
  induction entries with
  | nil => rfl
  | cons p rest ih =>
      rw [pluginMembers, List.map_cons, decodeEntries, decodeEntry_toJson]
      rw [pluginMembers] at ih
      simp only [ih]

theorem decodePlugins_pluginMembers (plugins : PluginTable) :
    decodePlugins (.object (pluginMembers plugins.entries)) = .ok plugins := by
  have hentries : (PluginTable.ofList plugins.entries).entries = plugins.entries :=
    Keyed.collect_eq_self plugins.distinct
  rw [decodePlugins, decodeEntries_pluginMembers]
  simp only [Except.ok.injEq]
  exact PluginTable.ext hentries

namespace Configuration

/-- What is written for an option; nothing for one that is not set. -/
def written? (c : Configuration) : ConfigurationOption → Option Value
  | .debug => some (.bool c.debug)
  | .baseDir => c.baseDir.map fun dir => .string dir.text
  | .outputPath => c.outputPath.map fun dir => .string dir.text
  | .outputFilename => c.outputFilename.map .string
  | .plugins => some (.object (pluginMembers c.plugins.entries))
  | .onBeforeInitialize => c.onBeforeInitialize.map .string

/-- The options for which something is written, in their order. -/
def members (c : Configuration) : List (String × Value) :=
  ConfigurationOption.all.filterMap fun option =>
    (c.written? option).map fun value => (option.key, value)

theorem toJson_eq_object (c : Configuration) : c.toJson = .object c.members := by
  obtain ⟨debug, baseDir, outputPath, outputFilename, plugins, hook⟩ := c
  cases baseDir <;> cases outputPath <;> cases outputFilename <;> cases hook <;> rfl

theorem mem_members_iff {c : Configuration} {p : String × Value} :
    p ∈ c.members ↔
      ∃ option : ConfigurationOption, option.key = p.1 ∧ c.written? option = some p.2 := by
  obtain ⟨key, value⟩ := p
  have hall : ∀ option, option ∈ ConfigurationOption.all := by
    intro option
    cases option <;> decide
  simp only [members, List.mem_filterMap, Option.map_eq_some_iff, Prod.mk.injEq]
  constructor
  · rintro ⟨option, -, v, hv, rfl, rfl⟩
    exact ⟨option, rfl, hv⟩
  · rintro ⟨option, rfl, hv⟩
    exact ⟨option, hall option, value, hv, rfl, rfl⟩

theorem knownKeys_members (c : Configuration) : KnownKeys c.members := by
  intro key hkey
  obtain ⟨p, hp, rfl⟩ := List.mem_map.1 hkey
  obtain ⟨option, hoption, -⟩ := mem_members_iff.1 hp
  exact ⟨option, hoption⟩

theorem keys_members_nodup (c : Configuration) : (Keyed.keys c.members).Nodup := by
  have hall : ConfigurationOption.all.Nodup := by decide
  rw [Keyed.keys, members, List.map_filterMap]
  refine List.Pairwise.filterMap _ ?_ hall
  intro option other hdiffer key hkey key' hkey' heq
  simp only [Option.map_map, Option.map_eq_some_iff, Function.comp_apply] at hkey hkey'
  obtain ⟨-, -, rfl⟩ := hkey
  obtain ⟨-, -, rfl⟩ := hkey'
  exact hdiffer (key_injective heq)

/-- The value at the key of an option is what was written for it. -/
theorem find?_members (c : Configuration) (option : ConfigurationOption) :
    Keyed.find? option.key c.members = c.written? option := by
  cases hwritten : c.written? option with
  | some value =>
      have hmem : (option.key, value) ∈ c.members := mem_members_iff.2 ⟨option, rfl, hwritten⟩
      exact Keyed.find?_of_mem c.keys_members_nodup hmem
  | none =>
      rw [Keyed.find?_eq_none_iff]
      intro hkey
      obtain ⟨p, hp, hname⟩ := List.mem_map.1 hkey
      obtain ⟨other, hother, hvalue⟩ := mem_members_iff.1 hp
      obtain rfl := key_injective (hother.trans hname)
      rw [hwritten] at hvalue
      cases hvalue

/-- What is written for an option settles it. -/
theorem settled_written? (c : Configuration) (option : ConfigurationOption) :
    empty.Settled c (c.written? option) option := by
  obtain ⟨debug, baseDir, outputPath, outputFilename, plugins, hook⟩ := c
  cases option with
  | debug => rfl
  | baseDir => cases baseDir <;> rfl
  | outputPath => cases outputPath <;> rfl
  | outputFilename => cases outputFilename <;> rfl
  | plugins => exact decodePlugins_pluginMembers plugins
  | onBeforeInitialize => cases hook <;> rfl

/-- **Nothing is lost in writing.**  Decoding gives back the configuration that was written. -/
theorem decode_toJson (c : Configuration) : decode c.toJson = .ok c := by
  rw [toJson_eq_object, decode, takeOptions_eq_ok_iff c.keys_members_nodup]
  refine ⟨c.knownKeys_members, fun option => ?_⟩
  rw [find?_members]
  exact c.settled_written? option

end Configuration

/-! ## Checking what was written -/

/-- The raw check of an entry that was written: its data first, and then its rule. -/
theorem checkPluginEntry_toJson_eq_ok_iff (name : String) (entry : PluginEntry) :
    checkPluginEntry name entry.toJson = .ok () ↔
      entry.config ≠ .null ∧ entry.rule.isBlank = false := by
  obtain ⟨config, rule⟩ := entry
  rw [checkPluginEntry_eq_ok_iff]
  constructor
  · rintro ⟨fields, hfields, hconfig, hrule⟩
    cases hfields
    obtain ⟨data, hdata, hnull⟩ := (lacksField_config_eq_false_iff _).1 hconfig
    obtain ⟨source, hsource, -, hvisible⟩ := (lacksField_rule_eq_false_iff _).1 hrule
    cases hdata
    cases hsource
    refine ⟨hnull, ?_⟩
    cases rule with
    | flag on => rfl
    | expression source => exact hvisible source rfl
  · rintro ⟨hnull, hvisible⟩
    refine ⟨_, rfl, (lacksField_config_eq_false_iff _).2 ⟨config, rfl, hnull⟩,
      (lacksField_rule_eq_false_iff _).2 ⟨rule.toJson, rfl, ?_, ?_⟩⟩
    · cases rule <;> simp [Rule.toJson]
    · intro source hsource
      cases rule with
      | flag on => cases hsource
      | expression text =>
          cases hsource
          exact hvisible

theorem checkPluginEntry_toJson_of_null (name : String) {entry : PluginEntry}
    (h : entry.config = .null) :
    checkPluginEntry name entry.toJson = .error (.missingPluginField name .config) := by
  simp [PluginEntry.toJson, checkPluginEntry, lacksField, Keyed.find?, h]

theorem checkPluginEntries_pluginMembers_eq_ok_iff (entries : List (String × PluginEntry)) :
    checkPluginEntries (pluginMembers entries) = .ok () ↔
      ∀ p ∈ entries, p.2.config ≠ .null ∧ p.2.rule.isBlank = false := by
  induction entries with
  | nil => simp [pluginMembers, checkPluginEntries]
  | cons p rest ih =>
      rw [List.forall_mem_cons, ← ih, ← checkPluginEntry_toJson_eq_ok_iff p.1]
      rw [pluginMembers, List.map_cons, checkPluginEntries]
      cases checkPluginEntry p.1 p.2.toJson with
      | error e => simp
      | ok _ => simp [pluginMembers]

/-- Of entries whose rules are not blank, the first one without data is refused. -/
theorem checkPluginEntries_pluginMembers_of_null {entries : List (String × PluginEntry)}
    (hruled : ∀ p ∈ entries, p.2.rule.isBlank = false) (hnull : ∃ p ∈ entries, p.2.config = .null) :
    ∃ p ∈ entries, p.2.config = .null ∧
      checkPluginEntries (pluginMembers entries) = .error (.missingPluginField p.1 .config) := by
  induction entries with
  | nil => simp at hnull
  | cons p rest ih =>
      obtain ⟨hrule, hothers⟩ := List.forall_mem_cons.1 hruled
      rw [pluginMembers, List.map_cons, checkPluginEntries]
      by_cases hdata : p.2.config = .null
      · refine ⟨p, List.mem_cons_self, hdata, ?_⟩
        rw [checkPluginEntry_toJson_of_null p.1 hdata]
      · have hfirst := (checkPluginEntry_toJson_eq_ok_iff p.1 p.2).2 ⟨hdata, hrule⟩
        obtain ⟨q, hq, hqnull⟩ := hnull
        have hrest : q ∈ rest := by
          rcases List.mem_cons.1 hq with rfl | hrest
          · exact absurd hqnull hdata
          · exact hrest
        obtain ⟨r, hr, hrnull, herror⟩ := ih hothers ⟨q, hrest, hqnull⟩
        refine ⟨r, List.mem_cons_of_mem p hr, hrnull, ?_⟩
        rw [hfirst]
        exact herror

namespace Configuration

/-- No plugin has null for its data. -/
def Complete (c : Configuration) : Prop := ∀ p ∈ c.plugins.entries, p.2.config ≠ .null

theorem checkOptions_toJson (c : Configuration) :
    checkOptions c.toJson = checkPluginEntries (pluginMembers c.plugins.entries) := by
  have hunknown := (unknownKey?_eq_none_iff c.members).2 c.knownKeys_members
  have hplugins := c.find?_members .plugins
  rw [toJson_eq_object, checkOptions, hunknown]
  simp only [hplugins, written?]

/-- What was written is accepted again if the configuration is accepted and complete. -/
theorem fromValue_toJson_eq_ok_iff (c d : Configuration) :
    fromValue c.toJson = .ok d ↔ c.check = .ok () ∧ c.Complete ∧ d = c := by
  rw [fromValue_eq_ok_iff, checkOptions_toJson, decode_toJson,
    checkPluginEntries_pluginMembers_eq_ok_iff]
  constructor
  · rintro ⟨hraw, hsame, hcheck⟩
    cases hsame
    exact ⟨hcheck, fun p hp => (hraw p hp).1, rfl⟩
  · rintro ⟨hcheck, hcomplete, rfl⟩
    have hruled := ((check_eq_ok_iff d).1 hcheck).ruled
    exact ⟨fun p hp => ⟨hcomplete p hp, hruled p hp⟩, rfl, hcheck⟩

theorem fromValue_toJson_of_not_complete {c : Configuration} (hcheck : c.check = .ok ())
    (hnull : ¬c.Complete) :
    ∃ p ∈ c.plugins.entries, p.2.config = .null ∧
      fromValue c.toJson = .error (.missingPluginField p.1 .config) := by
  have hruled := ((check_eq_ok_iff c).1 hcheck).ruled
  simp only [Complete, Classical.not_forall, Classical.not_not] at hnull
  obtain ⟨p, hp, hdata⟩ := hnull
  obtain ⟨q, hq, hqnull, herror⟩ := checkPluginEntries_pluginMembers_of_null hruled ⟨p, hp, hdata⟩
  refine ⟨q, hq, hqnull, ?_⟩
  rw [fromValue, checkOptions_toJson, herror]

end Configuration

/-! ## Steps -/

/-- The step registers no plugin with null data. -/
def ConfigurationStep.Complete : ConfigurationStep → Prop
  | .plugin _ config _ => config ≠ .null
  | _ => True

namespace Configuration

/-- One step keeps a configuration complete. -/
theorem Complete.apply {c : Configuration} (hc : c.Complete) {step : ConfigurationStep}
    (hstep : step.Complete) : (step.apply c).Complete := by
  cases step with
  | plugin name config rule =>
      intro p hp
      rcases Keyed.mem_of_mem_set hp with rfl | hold
      · exact hstep
      · exact hc p hold
  | _ => exact hc

/-- Steps without null data leave a complete configuration. -/
theorem complete_ofSteps {steps : List ConfigurationStep} (h : ∀ step ∈ steps, step.Complete) :
    (ofSteps steps).Complete := by
  have hempty : empty.Complete := by
    intro p hp
    cases hp
  suffices hfold : ∀ c : Configuration, c.Complete →
      (steps.foldl ConfigurationStep.apply c).Complete from hfold empty hempty
  induction steps with
  | nil =>
      intro c hc
      exact hc
  | cons step rest ih =>
      obtain ⟨hstep, hrest⟩ := List.forall_mem_cons.1 h
      intro c hc
      exact ih hrest _ (hc.apply hstep)

theorem build_eq_ok_iff (steps : List ConfigurationStep) (d : Configuration) :
    build steps = .ok d ↔ (ofSteps steps).check = .ok () ∧ d = ofSteps steps := by
  unfold build
  cases (ofSteps steps).check with
  | error e => simp
  | ok _ => simp [eq_comm]

/-- **The two doors differ in null data only.**  What the steps leave is accepted as a value, and
then unchanged, if and only if it is accepted as it is and complete.  So the doors agree on steps
without null data, and the value is refused for a plugin whose data is null where they differ. -/
theorem accepted_as_value_iff_complete (steps : List ConfigurationStep) :
    (∀ d, fromValue (ofSteps steps).toJson = .ok d ↔ build steps = .ok d ∧ d.Complete) ∧
      ((∀ step ∈ steps, step.Complete) →
        ∀ d, fromValue (ofSteps steps).toJson = .ok d ↔ build steps = .ok d) ∧
      ∀ d, build steps = .ok d → ¬d.Complete →
        ∃ p ∈ d.plugins.entries, p.2.config = .null ∧
          fromValue (ofSteps steps).toJson = .error (.missingPluginField p.1 .config) := by
  have hiff : ∀ d, fromValue (ofSteps steps).toJson = .ok d ↔
      build steps = .ok d ∧ d.Complete := by
    intro d
    rw [fromValue_toJson_eq_ok_iff, build_eq_ok_iff]
    constructor
    · rintro ⟨hcheck, hcomplete, rfl⟩
      exact ⟨⟨hcheck, rfl⟩, hcomplete⟩
    · rintro ⟨⟨hcheck, rfl⟩, hcomplete⟩
      exact ⟨hcheck, hcomplete, rfl⟩
  refine ⟨hiff, ?_, ?_⟩
  · intro hsteps d
    rw [hiff]
    constructor
    · exact And.left
    · intro hbuild
      obtain ⟨-, rfl⟩ := (build_eq_ok_iff steps d).1 hbuild
      exact ⟨hbuild, complete_ofSteps hsteps⟩
  · intro d hbuild hnull
    obtain ⟨hcheck, rfl⟩ := (build_eq_ok_iff steps d).1 hbuild
    exact fromValue_toJson_of_not_complete hcheck hnull

/-- A plugin with data is accepted at both doors, and one with null data at the one for steps. -/
theorem accepted_with_and_without_data :
    let plugin := fun data => [ConfigurationStep.plugin "my-plugin/example" data (.flag true)]
    (∃ d, build (plugin (.bool false)) = .ok d ∧
        fromValue (ofSteps (plugin (.bool false))).toJson = .ok d) ∧
      ∃ d, build (plugin .null) = .ok d ∧
        ∃ p ∈ d.plugins.entries,
          fromValue (ofSteps (plugin .null)).toJson = .error (.missingPluginField p.1 .config) := by
  intro plugin
  have hbuilt : ∀ data, build (plugin data) = .ok (ofSteps (plugin data)) := by
    intro data
    have hname : "my-plugin/example" ≠ "" := by decide
    have hlegal : isIdentifier (normalizeName "my-plugin/example") = true := by decide +kernel
    have hentry : Acceptable [("my-plugin/example", ⟨data, .flag true⟩)] :=
      (acceptable_cons_iff _ _).2 ⟨hname, rfl, hlegal, by simp, acceptable_nil⟩
    exact (build_eq_ok_iff _ _).2 ⟨(check_eq_ok_iff _).2 hentry, rfl⟩
  refine ⟨⟨_, hbuilt _, ?_⟩, _, hbuilt _, ?_⟩
  · have hsteps : ∀ step ∈ plugin (.bool false), step.Complete := by
      simp [plugin, ConfigurationStep.Complete]
    exact ((accepted_as_value_iff_complete (plugin (.bool false))).2.1 hsteps _).2 (hbuilt _)
  · have hnull : ¬(ofSteps (plugin .null)).Complete := fun h => h _ List.mem_cons_self rfl
    obtain ⟨p, hp, -, herror⟩ :=
      (accepted_as_value_iff_complete (plugin .null)).2.2 _ (hbuilt _) hnull
    exact ⟨p, hp, herror⟩

/-- Null data is refused at one door only. -/
theorem null_data_refused_as_value_only :
    let steps := [ConfigurationStep.plugin "ga" .null (.flag true)]
    build steps = .ok (ofSteps steps) ∧
      fromValue (ofSteps steps).toJson = .error (.missingPluginField "ga" .config) ∧
      ¬((∃ d, build steps = .ok d) ↔ ∃ d, fromValue (ofSteps steps).toJson = .ok d) := by
  intro steps
  have hbuilt : build steps = .ok (ofSteps steps) := by
    rw [build_eq_ok_iff, check_eq_ok_iff]
    exact ⟨⟨by decide, by decide, by decide +kernel, by decide⟩, rfl⟩
  have hrefused : fromValue (ofSteps steps).toJson = .error (.missingPluginField "ga" .config) :=
    rfl
  refine ⟨hbuilt, hrefused, fun hiff => ?_⟩
  obtain ⟨d, hd⟩ := hiff.1 ⟨_, hbuilt⟩
  rw [hrefused] at hd
  cases hd

end Configuration

end PluginBundle
