import PluginBundle.Proofs.Configuration.Acceptance
import PluginBundle.Proofs.Configuration.Decoding

/-!
# Which values are configurations

A value becomes a configuration in three passes: a check of the raw value, decoding, and a check of
what was decoded.  Each pass relies on the others: decoding lets an entry through that is an array
or has a null for its data, and the last check sees neither.

This module says what the three accept together, and what the result holds, in terms of the value
alone.  The predicates below relate a value, or one that may be absent, to what it stands for.  The
messages for values that are refused are not looked at.
-/

namespace PluginBundle

open Json (Value)

/-- A flag: absent and null stand for one that is off. -/
inductive FlagValue : Option Value → Bool → Prop where
  | absent : FlagValue none false
  | null : FlagValue (some .null) false
  | set (on : Bool) : FlagValue (some (.bool on)) on

/-- A text: absent and null stand for none. -/
inductive TextValue : Option Value → Option String → Prop where
  | absent : TextValue none none
  | null : TextValue (some .null) none
  | set (text : String) : TextValue (some (.string text)) (some text)

/-- A rule: a flag, or a text with a character that is not blank. -/
inductive RuleValue : Value → Rule → Prop where
  | flag (on : Bool) : RuleValue (.bool on) (.flag on)
  | expression {source : String} (visible : ∃ ch ∈ source.toList, isBlank ch = false) :
      RuleValue (.string source) (.expression source)

/-- An entry: an object with data that is not null, and a rule.  Other keys do not matter. -/
inductive EntryValue : Value → PluginEntry → Prop where
  | object {fields : List (String × Value)} {config value : Value} {rule : Rule}
      (hconfig : Keyed.find? PluginField.config.key fields = some config) (hdata : config ≠ .null)
      (hvalue : Keyed.find? PluginField.rule.key fields = some value)
      (hrule : RuleValue value rule) : EntryValue (.object fields) ⟨config, rule⟩

/-- Entries one after the other, each with the name that is its key. -/
inductive EntryValues : List (String × Value) → List (String × PluginEntry) → Prop where
  | nil : EntryValues [] []
  | cons (name : String) {value : Value} {entry : PluginEntry} {members : List (String × Value)}
      {entries : List (String × PluginEntry)} (hentry : EntryValue value entry)
      (hrest : EntryValues members entries) :
      EntryValues ((name, value) :: members) ((name, entry) :: entries)

/-- The plugins: absent and null stand for none. -/
inductive PluginsValue : Option Value → List (String × PluginEntry) → Prop where
  | absent : PluginsValue none []
  | null : PluginsValue (some .null) []
  | object {members : List (String × Value)} {entries : List (String × PluginEntry)}
      (hentries : EntryValues members entries) : PluginsValue (some (.object members)) entries

/-- The configuration holds what the members say. -/
structure HoldsMembers (c : Configuration) (members : List (String × Value)) : Prop where
  debug : FlagValue (Keyed.find? ConfigurationOption.debug.key members) c.debug
  baseDir : TextValue (Keyed.find? ConfigurationOption.baseDir.key members) (c.baseDir.map (·.text))
  outputPath :
    TextValue (Keyed.find? ConfigurationOption.outputPath.key members) (c.outputPath.map (·.text))
  outputFilename :
    TextValue (Keyed.find? ConfigurationOption.outputFilename.key members) c.outputFilename
  plugins : PluginsValue (Keyed.find? ConfigurationOption.plugins.key members) c.plugins.entries
  onBeforeInitialize :
    TextValue (Keyed.find? ConfigurationOption.onBeforeInitialize.key members) c.onBeforeInitialize

/-- Plugins that are accepted: each has an entry, a name, and a legal variable of its own. -/
structure AcceptedPlugins (members : List (String × Value)) : Prop where
  entries : ∀ p ∈ members, ∃ entry, EntryValue p.2 entry
  named : ∀ p ∈ members, p.1 ≠ ""
  legal : ∀ p ∈ members, isIdentifier (normalizeName p.1) = true
  apart : (members.map fun p => normalizeName p.1).Nodup

/-- The plugins are absent, null, or an object of accepted ones. -/
def AcceptsPlugins (found : Option Value) : Prop :=
  ∀ value, found = some value →
    value = .null ∨ ∃ plugins, value = .object plugins ∧ AcceptedPlugins plugins

/-- Members that are accepted: known options only, each absent, null, or of its own type. -/
structure AcceptedMembers (members : List (String × Value)) : Prop where
  known : KnownKeys members
  debug : ∃ on, FlagValue (Keyed.find? ConfigurationOption.debug.key members) on
  baseDir : ∃ text, TextValue (Keyed.find? ConfigurationOption.baseDir.key members) text
  outputPath : ∃ text, TextValue (Keyed.find? ConfigurationOption.outputPath.key members) text
  outputFilename :
    ∃ text, TextValue (Keyed.find? ConfigurationOption.outputFilename.key members) text
  plugins : AcceptsPlugins (Keyed.find? ConfigurationOption.plugins.key members)
  onBeforeInitialize :
    ∃ text, TextValue (Keyed.find? ConfigurationOption.onBeforeInitialize.key members) text

/-! ## One pass after the other -/

theorem settles_decodeFlag_iff (found : Option Value) (on : Bool) :
    Settles decodeFlag found false on ↔ FlagValue found on := by
  constructor
  · intro h
    cases found with
    | none =>
        obtain rfl : on = false := h
        exact .absent
    | some value =>
        cases value <;> simp only [Settles, decodeFlag, Except.ok.injEq, reduceCtorEq] at h <;>
          subst h <;> constructor
  · rintro (_ | _ | _) <;> rfl

theorem settles_decodeText_iff (wanted : Wanted) (found : Option Value) (text : Option String) :
    Settles (decodeText? wanted) found none text ↔ TextValue found text := by
  constructor
  · intro h
    cases found with
    | none =>
        obtain rfl : text = none := h
        exact .absent
    | some value =>
        cases value <;> simp only [Settles, decodeText?, Except.ok.injEq, reduceCtorEq] at h <;>
          subst h <;> constructor
  · rintro (_ | _ | _) <;> rfl

/-- A path is settled like its text. -/
theorem settles_path_iff (found : Option Value) (path : Option Path) :
    Settles (fun value => (decodeText? .path value).map (·.map Path.mk)) found none path ↔
      TextValue found (path.map (·.text)) := by
  rw [← settles_decodeText_iff .path]
  cases found with
  | none => cases path <;> simp [Settles]
  | some value =>
      simp only [Settles, map_eq_ok_iff]
      constructor
      · rintro ⟨text, htext, rfl⟩
        simpa [Function.comp_def] using htext
      · intro h
        exact ⟨_, h, by cases path <;> rfl⟩

theorem lacksField_config_eq_false_iff (fields : List (String × Value)) :
    lacksField fields .config = false ↔
      ∃ value, Keyed.find? PluginField.config.key fields = some value ∧ value ≠ .null := by
  unfold lacksField
  cases Keyed.find? PluginField.config.key fields with
  | none => simp
  | some value => cases value <;> simp

theorem lacksField_rule_eq_false_iff (fields : List (String × Value)) :
    lacksField fields .rule = false ↔
      ∃ value, Keyed.find? PluginField.rule.key fields = some value ∧ value ≠ .null ∧
        ∀ source, value = .string source → isBlankText source = false := by
  unfold lacksField
  cases Keyed.find? PluginField.rule.key fields with
  | none => simp
  | some value => cases value <;> simp

theorem checkPluginEntry_eq_ok_iff (name : String) (value : Value) :
    checkPluginEntry name value = .ok () ↔
      ∃ fields, value = .object fields ∧ lacksField fields .config = false ∧
        lacksField fields .rule = false := by
  cases value with
  | object fields =>
      cases hconfig : lacksField fields .config <;> cases hrule : lacksField fields .rule <;>
        simp [checkPluginEntry, hconfig, hrule]
  | _ => simp [checkPluginEntry]

/-- A rule that passes the raw check and is decoded. -/
theorem ruleValue_iff (value : Value) (rule : Rule) :
    (∀ source, value = .string source → isBlankText source = false) ∧ decodeRule value = .ok rule ↔
      RuleValue value rule := by
  constructor
  · rintro ⟨hvisible, hrule⟩
    cases value <;> simp only [decodeRule, Except.ok.injEq, reduceCtorEq] at hrule
    · subst hrule
      exact .flag _
    · subst hrule
      exact .expression ((isBlankText_eq_false_iff _).1 (hvisible _ rfl))
  · rintro (on | hvisible)
    · simp [decodeRule]
    · simpa [decodeRule] using (isBlankText_eq_false_iff _).2 hvisible

/-- An entry that passes the raw check and is decoded. -/
theorem entryValue_iff (name : String) {value : Value} (hvalue : value.KeysOnce)
    (entry : PluginEntry) :
    checkPluginEntry name value = .ok () ∧ decodeEntry value = .ok entry ↔
      EntryValue value entry := by
  rw [checkPluginEntry_eq_ok_iff]
  constructor
  · rintro ⟨⟨fields, rfl, hconfig, hrule⟩, hdecode⟩
    obtain ⟨hdata, source, hsource, hread⟩ :=
      (decodeEntry_object_eq_ok_iff hvalue.nodup entry).1 hdecode
    obtain ⟨config, hfound, hnull⟩ := (lacksField_config_eq_false_iff fields).1 hconfig
    obtain ⟨value, hfound', -, hvisible⟩ := (lacksField_rule_eq_false_iff fields).1 hrule
    rw [hdata] at hfound
    rw [hsource] at hfound'
    cases hfound
    cases hfound'
    exact .object hdata hnull hsource ((ruleValue_iff _ _).1 ⟨hvisible, hread⟩)
  · rintro ⟨hconfig, hdata, hsource, hrule⟩
    obtain ⟨hvisible, hread⟩ := (ruleValue_iff _ _).2 hrule
    refine ⟨⟨_, rfl, ?_, ?_⟩, ?_⟩
    · exact (lacksField_config_eq_false_iff _).2 ⟨_, hconfig, hdata⟩
    · refine (lacksField_rule_eq_false_iff _).2 ⟨_, hsource, ?_, hvisible⟩
      rintro rfl
      cases hrule
    · exact (decodeEntry_object_eq_ok_iff hvalue.nodup _).2 ⟨hconfig, _, hsource, hread⟩

/-- Entries that pass the raw check and are decoded. -/
theorem entryValues_iff {members : List (String × Value)} (hmembers : ∀ p ∈ members, p.2.KeysOnce)
    (entries : List (String × PluginEntry)) :
    checkPluginEntries members = .ok () ∧ decodeEntries members = .ok entries ↔
      EntryValues members entries := by
  induction members generalizing entries with
  | nil =>
      constructor
      · rintro ⟨-, hdecode⟩
        cases hdecode
        exact .nil
      · rintro ⟨⟩
        exact ⟨rfl, rfl⟩
  | cons p rest ih =>
      obtain ⟨name, value⟩ := p
      obtain ⟨hvalue, hrest⟩ := List.forall_mem_cons.1 hmembers
      constructor
      · rintro ⟨hcheck, hdecode⟩
        rw [checkPluginEntries] at hcheck
        rw [decodeEntries] at hdecode
        split at hcheck
        · cases hcheck
        · rename_i hfirst
          split at hdecode
          · cases hdecode
          · rename_i entry hentry
            split at hdecode
            · cases hdecode
            · rename_i others hothers
              cases hdecode
              exact .cons name ((entryValue_iff name hvalue entry).1 ⟨hfirst, hentry⟩)
                ((ih hrest others).1 ⟨hcheck, hothers⟩)
      · rintro (_ | ⟨_, hentry, hothers⟩)
        obtain ⟨hfirst, hread⟩ := (entryValue_iff name hvalue _).2 hentry
        obtain ⟨hcheck, hdecode⟩ := (ih hrest _).2 hothers
        simp [checkPluginEntries, decodeEntries, hfirst, hread, hcheck, hdecode]

theorem EntryValues.keys_eq {members : List (String × Value)}
    {entries : List (String × PluginEntry)} (h : EntryValues members entries) :
    Keyed.keys entries = Keyed.keys members := by
  induction h with
  | nil => rfl
  | cons name _ _ ih => simp [ih]

/-- What holds of the names of the entries holds of the keys they come from. -/
theorem EntryValues.forall_name_iff {members : List (String × Value)}
    {entries : List (String × PluginEntry)} (h : EntryValues members entries) (P : String → Prop) :
    (∀ p ∈ entries, P p.1) ↔ ∀ p ∈ members, P p.1 := by
  induction h with
  | nil => simp
  | cons name _ _ ih => rw [List.forall_mem_cons, List.forall_mem_cons, ih]

theorem EntryValues.visible {members : List (String × Value)}
    {entries : List (String × PluginEntry)} (h : EntryValues members entries) :
    ∀ p ∈ entries, p.2.rule.isBlank = false := by
  induction h with
  | nil => simp
  | cons name hentry _ ih =>
      refine List.forall_mem_cons.2 ⟨?_, ih⟩
      obtain ⟨-, -, -, _ | hvisible⟩ := hentry
      · rfl
      · exact (isBlankText_eq_false_iff _).2 hvisible

theorem EntryValues.exists_iff (members : List (String × Value)) :
    (∃ entries, EntryValues members entries) ↔ ∀ p ∈ members, ∃ entry, EntryValue p.2 entry := by
  induction members with
  | nil => exact ⟨by simp, fun _ => ⟨[], .nil⟩⟩
  | cons p rest ih =>
      obtain ⟨name, value⟩ := p
      rw [List.forall_mem_cons, ← ih]
      constructor
      · rintro ⟨_, _ | ⟨_, hentry, hrest⟩⟩
        exact ⟨⟨_, hentry⟩, _, hrest⟩
      · rintro ⟨⟨entry, hentry⟩, entries, hrest⟩
        exact ⟨_, .cons name hentry hrest⟩

/-- The last check sees the names only, since the raw check has seen the rest. -/
theorem EntryValues.acceptable_iff {members : List (String × Value)}
    {entries : List (String × PluginEntry)} (h : EntryValues members entries) :
    Acceptable entries ↔ AcceptedPlugins members := by
  have hvariables : entries.map (fun p => normalizeName p.1) =
      members.map fun p => normalizeName p.1 := by
    simpa [Keyed.keys, List.map_map, Function.comp_def] using
      congrArg (List.map normalizeName) h.keys_eq
  have hnamed := h.forall_name_iff fun name => name ≠ ""
  have hlegal := h.forall_name_iff fun name => isIdentifier (normalizeName name) = true
  constructor
  · intro hentries
    exact {
      entries := (EntryValues.exists_iff members).1 ⟨entries, h⟩
      named := hnamed.1 hentries.named
      legal := hlegal.1 hentries.legal
      apart := hvariables ▸ hentries.apart }
  · intro hmembers
    exact {
      named := hnamed.2 hmembers.named
      ruled := h.visible
      legal := hlegal.2 hmembers.legal
      apart := hvariables ▸ hmembers.apart }

/-- What the raw check asks of the plugins. -/
def CheckedPlugins : Option Value → Prop
  | none => True
  | some .null => True
  | some (.object members) => checkPluginEntries members = .ok ()
  | some _ => False

/-- Plugins that pass the raw check and are decoded. -/
theorem pluginsValue_iff (found : Option Value)
    (hfound : ∀ value, found = some value → value.KeysOnce) (table : PluginTable) :
    CheckedPlugins found ∧ Settles decodePlugins found ∅ table ↔
      PluginsValue found table.entries := by
  constructor
  · rintro ⟨hcheck, hsettles⟩
    cases found with
    | none =>
        obtain rfl : table = ∅ := hsettles
        exact .absent
    | some value =>
        cases value with
        | null =>
            cases hsettles
            exact .null
        | object members =>
            have hvalue := hfound _ rfl
            simp only [Settles, decodePlugins] at hsettles
            split at hsettles
            · cases hsettles
            · rename_i entries hentries
              cases hsettles
              have hread := (entryValues_iff (fun _ => hvalue.member) entries).1 ⟨hcheck, hentries⟩
              have hkeys : (Keyed.keys entries).Nodup := hread.keys_eq ▸ hvalue.nodup
              have hsame : (PluginTable.ofList entries).entries = entries :=
                Keyed.collect_eq_self hkeys
              rw [hsame]
              exact .object hread
        | _ => exact hcheck.elim
  · intro h
    obtain ⟨entries, hdistinct⟩ := table
    cases h with
    | absent => exact ⟨trivial, rfl⟩
    | null => exact ⟨trivial, rfl⟩
    | object hentries =>
        have hvalue := hfound _ rfl
        obtain ⟨hcheck, hdecode⟩ := (entryValues_iff (fun _ => hvalue.member) entries).2 hentries
        refine ⟨hcheck, ?_⟩
        simp only [Settles, decodePlugins, hdecode, Except.ok.injEq]
        exact PluginTable.ext (Keyed.collect_eq_self hdistinct)

theorem unknownKey?_eq_none_iff (members : List (String × Value)) :
    unknownKey? members = none ↔ KnownKeys members := by
  simp [unknownKey?, KnownKeys, ofKey?_eq_none_iff]

/-- The raw check of an object. -/
theorem checkOptions_object_eq_ok_iff (members : List (String × Value)) :
    checkOptions (.object members) = .ok () ↔
      KnownKeys members ∧ CheckedPlugins (Keyed.find? ConfigurationOption.plugins.key members) := by
  rw [← unknownKey?_eq_none_iff, checkOptions]
  cases unknownKey? members with
  | some key => simp
  | none =>
      simp only [true_and]
      cases Keyed.find? ConfigurationOption.plugins.key members with
      | none => simp [CheckedPlugins]
      | some value => cases value <;> simp [CheckedPlugins]

theorem fromValue_eq_ok_iff (value : Value) (c : Configuration) :
    Configuration.fromValue value = .ok c ↔
      checkOptions value = .ok () ∧ Configuration.decode value = .ok c ∧ c.check = .ok () := by
  unfold Configuration.fromValue
  cases checkOptions value with
  | error e => simp
  | ok _ =>
      cases Configuration.decode value with
      | error e => simp
      | ok d =>
          cases hcheck : d.check with
          | error e =>
              simp only [hcheck, reduceCtorEq, Except.ok.injEq, true_and, false_iff, not_and]
              rintro rfl
              simp [hcheck]
          | ok _ =>
              simp only [hcheck, Except.ok.injEq, true_and]
              exact ⟨fun h => ⟨h, h ▸ hcheck⟩, And.left⟩

/-- What decoding settles of plugins that pass the raw check is what the members say. -/
theorem holdsMembers_iff {members : List (String × Value)}
    (hmembers : (Value.object members).KeysOnce) (c : Configuration) :
    CheckedPlugins (Keyed.find? ConfigurationOption.plugins.key members) ∧
        (∀ option, Configuration.empty.Settled c (Keyed.find? option.key members) option) ↔
      HoldsMembers c members := by
  have hplugins := pluginsValue_iff (Keyed.find? ConfigurationOption.plugins.key members)
    (fun value hvalue => hmembers.member (Keyed.mem_of_find? hvalue)) c.plugins
  constructor
  · rintro ⟨hchecked, hsettled⟩
    exact {
      debug := (settles_decodeFlag_iff _ _).1 (hsettled .debug)
      baseDir := (settles_path_iff _ _).1 (hsettled .baseDir)
      outputPath := (settles_path_iff _ _).1 (hsettled .outputPath)
      outputFilename := (settles_decodeText_iff _ _ _).1 (hsettled .outputFilename)
      plugins := hplugins.1 ⟨hchecked, hsettled .plugins⟩
      onBeforeInitialize := (settles_decodeText_iff _ _ _).1 (hsettled .onBeforeInitialize) }
  · intro h
    refine ⟨(hplugins.2 h.plugins).1, fun option => ?_⟩
    cases option with
    | debug => exact (settles_decodeFlag_iff _ _).2 h.debug
    | baseDir => exact (settles_path_iff _ _).2 h.baseDir
    | outputPath => exact (settles_path_iff _ _).2 h.outputPath
    | outputFilename => exact (settles_decodeText_iff _ _ _).2 h.outputFilename
    | plugins => exact (hplugins.2 h.plugins).2
    | onBeforeInitialize => exact (settles_decodeText_iff _ _ _).2 h.onBeforeInitialize

/-- The three passes together. -/
theorem fromValue_object_eq_ok_iff {members : List (String × Value)}
    (hmembers : (Value.object members).KeysOnce) (c : Configuration) :
    Configuration.fromValue (.object members) = .ok c ↔
      KnownKeys members ∧ HoldsMembers c members ∧ Acceptable c.plugins.entries := by
  rw [fromValue_eq_ok_iff, checkOptions_object_eq_ok_iff, Configuration.decode,
    takeOptions_eq_ok_iff hmembers.nodup, check_eq_ok_iff, ← holdsMembers_iff hmembers]
  constructor
  · rintro ⟨⟨hknown, hchecked⟩, ⟨-, hsettled⟩, haccepted⟩
    exact ⟨hknown, ⟨hchecked, hsettled⟩, haccepted⟩
  · rintro ⟨hknown, ⟨hchecked, hsettled⟩, haccepted⟩
    exact ⟨⟨hknown, hchecked⟩, ⟨hknown, hsettled⟩, haccepted⟩

/-! ## Values that are accepted -/

/-- Plugins are accepted for what they say, and not for how they are held. -/
theorem PluginsValue.acceptable_iff {found : Option Value} {entries : List (String × PluginEntry)}
    (h : PluginsValue found entries) :
    Acceptable entries ↔ AcceptsPlugins found := by
  cases h with
  | absent => simp [AcceptsPlugins, acceptable_nil]
  | null => simp [AcceptsPlugins, acceptable_nil]
  | object hentries => simp [AcceptsPlugins, hentries.acceptable_iff]

/-- Accepted plugins fit into a table. -/
theorem exists_table {found : Option Value}
    (hfound : ∀ value, found = some value → value.KeysOnce) (h : AcceptsPlugins found) :
    ∃ table : PluginTable, PluginsValue found table.entries := by
  cases found with
  | none => exact ⟨∅, .absent⟩
  | some value =>
      rcases h value rfl with rfl | ⟨plugins, rfl, haccepted⟩
      · exact ⟨∅, .null⟩
      · obtain ⟨entries, hentries⟩ := (EntryValues.exists_iff plugins).2 haccepted.entries
        have hkeys : (Keyed.keys entries).Nodup := by
          rw [hentries.keys_eq]
          exact (hfound _ rfl).nodup
        exact ⟨⟨entries, hkeys⟩, .object hentries⟩

theorem acceptedMembers_iff {members : List (String × Value)}
    (hmembers : (Value.object members).KeysOnce) :
    AcceptedMembers members ↔
      ∃ c : Configuration,
        KnownKeys members ∧ HoldsMembers c members ∧ Acceptable c.plugins.entries := by
  constructor
  · intro h
    obtain ⟨debug, hdebug⟩ := h.debug
    obtain ⟨baseDir, hbaseDir⟩ := h.baseDir
    obtain ⟨outputPath, houtputPath⟩ := h.outputPath
    obtain ⟨outputFilename, houtputFilename⟩ := h.outputFilename
    obtain ⟨hook, hhook⟩ := h.onBeforeInitialize
    obtain ⟨plugins, hplugins⟩ := exists_table
      (fun value hvalue => hmembers.member (Keyed.mem_of_find? hvalue)) h.plugins
    have htext : ∀ text : Option String, (text.map Path.mk).map (·.text) = text := by
      intro text
      cases text <;> rfl
    refine ⟨⟨debug, baseDir.map Path.mk, outputPath.map Path.mk, outputFilename, plugins, hook⟩,
      h.known, ?_, hplugins.acceptable_iff.2 h.plugins⟩
    exact {
      debug := hdebug
      baseDir := by rw [htext]; exact hbaseDir
      outputPath := by rw [htext]; exact houtputPath
      outputFilename := houtputFilename
      plugins := hplugins
      onBeforeInitialize := hhook }
  · rintro ⟨c, hknown, hholds, haccepted⟩
    exact {
      known := hknown
      debug := ⟨_, hholds.debug⟩
      baseDir := ⟨_, hholds.baseDir⟩
      outputPath := ⟨_, hholds.outputPath⟩
      outputFilename := ⟨_, hholds.outputFilename⟩
      plugins := hholds.plugins.acceptable_iff.1 haccepted
      onBeforeInitialize := ⟨_, hholds.onBeforeInitialize⟩ }

/-- **Which values are configurations.**  A value becomes one if and only if it is an object with
accepted members, and then the result holds what they say. -/
theorem fromValue_accepts_exactly (v : Value) (hv : v.KeysOnce) :
    ((∃ c, Configuration.fromValue v = .ok c) ↔
        ∃ members, v = .object members ∧ AcceptedMembers members) ∧
      ∀ c, Configuration.fromValue v = .ok c →
        ∃ members, v = .object members ∧ HoldsMembers c members := by
  have hobject : ∀ c, Configuration.fromValue v = .ok c → ∃ members, v = .object members := by
    intro c h
    have hcheck := ((fromValue_eq_ok_iff v c).1 h).1
    cases v with
    | object members => exact ⟨members, rfl⟩
    | _ => cases hcheck
  refine ⟨⟨?_, ?_⟩, ?_⟩
  · rintro ⟨c, h⟩
    obtain ⟨members, rfl⟩ := hobject c h
    exact ⟨members, rfl, (acceptedMembers_iff hv).2 ⟨c, (fromValue_object_eq_ok_iff hv c).1 h⟩⟩
  · rintro ⟨members, rfl, haccepted⟩
    obtain ⟨c, hc⟩ := (acceptedMembers_iff hv).1 haccepted
    exact ⟨c, (fromValue_object_eq_ok_iff hv c).2 hc⟩
  · intro c h
    obtain ⟨members, rfl⟩ := hobject c h
    exact ⟨members, rfl, ((fromValue_object_eq_ok_iff hv c).1 h).2.1⟩

/-- An object with a plugin, whose entry has a key more than is needed. -/
theorem fromValue_accepts_extra_key :
    let fields := [("rule", Value.string "window.optIn"), ("note", .null), ("config", .bool false)]
    let plugins := [("my-plugin/example", Value.object fields)]
    let members := [("debug", Value.null), ("plugins", .object plugins)]
    (Value.object members).KeysOnce ∧ ∃ c, Configuration.fromValue (.object members) = .ok c := by
  intro fields plugins members
  have hfields : (Value.object fields).KeysOnce := by
    refine .object (by decide) ?_
    simp only [fields, List.forall_mem_cons, List.not_mem_nil, false_implies, implies_true,
      and_true]
    exact ⟨.string _, .null, .bool _⟩
  have hplugins : (Value.object plugins).KeysOnce :=
    .object (by decide) (by simpa [plugins] using hfields)
  have hmembers : (Value.object members).KeysOnce := by
    refine .object (by decide) ?_
    simp only [members, List.forall_mem_cons, List.not_mem_nil, false_implies, implies_true,
      and_true]
    exact ⟨.null, hplugins⟩
  have hentry : EntryValue (.object fields) ⟨.bool false, .expression "window.optIn"⟩ :=
    .object rfl (by simp) rfl (.expression ⟨'w', by decide, by decide⟩)
  have hknown : KnownKeys members := by
    simp only [KnownKeys, members, Keyed.keys_cons, Keyed.keys_nil, List.forall_mem_cons,
      List.not_mem_nil, false_implies, implies_true, and_true]
    exact ⟨⟨.debug, rfl⟩, .plugins, rfl⟩
  have haccepted : AcceptedMembers members := {
    known := hknown
    debug := ⟨_, .null⟩
    baseDir := ⟨_, .absent⟩
    outputPath := ⟨_, .absent⟩
    outputFilename := ⟨_, .absent⟩
    plugins := by
      intro value hvalue
      cases hvalue
      refine .inr ⟨plugins, rfl, ?_, by decide, by decide +kernel, by decide⟩
      simpa [plugins] using ⟨_, hentry⟩
    onBeforeInitialize := ⟨_, .absent⟩ }
  exact ⟨hmembers, (fromValue_accepts_exactly _ hmembers).1.2 ⟨members, rfl, haccepted⟩⟩

end PluginBundle
