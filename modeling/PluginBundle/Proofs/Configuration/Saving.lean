import PluginBundle.Configuration.Loading
import PluginBundle.Proofs.Configuration.Serialization
import PluginBundle.Proofs.Json.RoundTrip

/-!
# Configurations saved to a file and loaded from it

An accepted configuration that is written to a file is loaded from it as it was.  Two round trips
make this up.  That of values holds for every accepted configuration: it is complete, since a value
cannot bring null data in.  That of texts needs more of the data: no float in it, and no more
nesting than is read.

What is known of the data of a plugin comes from the value that the configuration was read from, and
from there it is carried over to the value that is written.
-/

namespace PluginBundle

open Json (Value)

/-! ## What is known of accepted data -/

/-- The data of an entry is not null and holds each key once. -/
theorem EntryValue.data {value : Value} {entry : PluginEntry} (h : EntryValue value entry)
    (hvalue : value.KeysOnce) : entry.config ≠ .null ∧ entry.config.KeysOnce := by
  cases h with
  | object hconfig hdata _ _ =>
      exact ⟨hdata, hvalue.member (Keyed.mem_of_find? hconfig)⟩

theorem EntryValues.data {members : List (String × Value)} {entries : List (String × PluginEntry)}
    (h : EntryValues members entries) (hmembers : ∀ p ∈ members, p.2.KeysOnce) :
    ∀ p ∈ entries, p.2.config ≠ .null ∧ p.2.config.KeysOnce := by
  induction h with
  | nil => simp
  | cons name hentry _ ih =>
      obtain ⟨hvalue, hrest⟩ := List.forall_mem_cons.1 hmembers
      exact List.forall_mem_cons.2 ⟨hentry.data hvalue, ih hrest⟩

theorem PluginsValue.data {found : Option Value} {entries : List (String × PluginEntry)}
    (h : PluginsValue found entries) (hfound : ∀ value, found = some value → value.KeysOnce) :
    ∀ p ∈ entries, p.2.config ≠ .null ∧ p.2.config.KeysOnce := by
  cases h with
  | absent => simp
  | null => simp
  | object hentries =>
      have hvalue := hfound _ rfl
      exact hentries.data fun p hp => hvalue.member hp

/-! ## What is known of the value that is written -/

theorem keysOnce_rule (rule : Rule) : rule.toJson.KeysOnce := by
  cases rule with
  | flag on => exact .bool on
  | expression source => exact .string source

theorem floatFree_rule (rule : Rule) : rule.toJson.FloatFree := by
  cases rule with
  | flag on => exact .bool on
  | expression source => exact .string source

theorem keysOnce_pluginMembers {plugins : PluginTable}
    (hdata : ∀ p ∈ plugins.entries, p.2.config.KeysOnce) :
    (Value.object (pluginMembers plugins.entries)).KeysOnce := by
  have hkeys : Keyed.keys (pluginMembers plugins.entries) = Keyed.keys plugins.entries := by
    simp [pluginMembers, Keyed.keys, Function.comp_def]
  refine .object (hkeys ▸ plugins.distinct) ?_
  intro member hmember
  obtain ⟨p, hp, rfl⟩ := List.mem_map.1 hmember
  have hfields : [PluginField.config.key, PluginField.rule.key].Nodup := by decide
  refine .object hfields ?_
  exact List.forall_mem_cons.2 ⟨hdata p hp, by simpa using keysOnce_rule p.2.rule⟩

theorem floatFree_pluginMembers {entries : List (String × PluginEntry)}
    (hdata : ∀ p ∈ entries, p.2.config.FloatFree) :
    (Value.object (pluginMembers entries)).FloatFree := by
  refine .object ?_
  intro member hmember
  obtain ⟨p, hp, rfl⟩ := List.mem_map.1 hmember
  refine .object ?_
  exact List.forall_mem_cons.2 ⟨hdata p hp, by simpa using floatFree_rule p.2.rule⟩

namespace Configuration

/-- The data of an accepted configuration. -/
theorem data_of_fromValue {v : Value} (hv : v.KeysOnce) {c : Configuration}
    (h : fromValue v = .ok c) :
    ∀ p ∈ c.plugins.entries, p.2.config ≠ .null ∧ p.2.config.KeysOnce := by
  cases v with
  | object members =>
      obtain ⟨-, hholds, -⟩ := (fromValue_object_eq_ok_iff hv c).1 h
      exact hholds.plugins.data fun value hvalue => hv.member (Keyed.mem_of_find? hvalue)
  | _ =>
      have hcheck := ((fromValue_eq_ok_iff _ c).1 h).1
      cases hcheck

/-- What is written is a flag, texts, and the plugins. -/
theorem forall_mem_members {P : Value → Prop} {c : Configuration} (hflag : ∀ on, P (.bool on))
    (htext : ∀ text, P (.string text))
    (hplugins : P (.object (pluginMembers c.plugins.entries))) : ∀ p ∈ c.members, P p.2 := by
  rintro ⟨key, value⟩ hp
  obtain ⟨option, -, hwritten⟩ := mem_members_iff.1 hp
  cases option with
  | debug =>
      cases hwritten
      exact hflag c.debug
  | plugins =>
      cases hwritten
      exact hplugins
  | baseDir | outputPath | outputFilename | onBeforeInitialize =>
      obtain ⟨text, -, htextual⟩ := Option.map_eq_some_iff.1 hwritten
      rw [← htextual]
      exact htext _

theorem keysOnce_toJson {c : Configuration}
    (hdata : ∀ p ∈ c.plugins.entries, p.2.config.KeysOnce) : c.toJson.KeysOnce := by
  rw [toJson_eq_object]
  exact .object c.keys_members_nodup
    (forall_mem_members .bool .string (keysOnce_pluginMembers hdata))

theorem floatFree_toJson {c : Configuration}
    (hdata : ∀ p ∈ c.plugins.entries, p.2.config.FloatFree) : c.toJson.FloatFree := by
  rw [toJson_eq_object]
  exact .object (forall_mem_members .bool .string (floatFree_pluginMembers hdata))

end Configuration

/-! ## Loading what was saved -/

/-- A file that holds the bytes of a text is read as that text. -/
theorem Disk.readText_of_read {disk : Disk} {cwd : Place} {p : Path} {text : String}
    (h : disk.read cwd p = .ok text.toUTF8) : disk.readText cwd p = .ok text := by
  have hdecoded : String.fromUTF8? text.toUTF8 = some text := by
    simp only [String.fromUTF8?, String.toUTF8_eq_toByteArray, dif_pos text.isValidUTF8]
    rfl
  rw [Disk.readText, h]
  simp only [hdecoded]

namespace Configuration

theorem readValue_of_json {disk : Disk} {cwd : Place} {p : Path} {v : Value}
    (hextension : p.extension? = some "json") (hread : disk.read cwd p = .ok v.text.toUTF8)
    (hkeys : v.KeysOnce) (hfree : v.FloatFree) (hdepth : v.depth ≤ Json.depthLimit) :
    readValue disk cwd p = .ok v := by
  have hformat : ConfigurationFormat.ofPath? p = some .json := by
    simp only [ConfigurationFormat.ofPath?, hextension]
  have hparse : ConfigurationFormat.json.parse v.text = .ok v := by
    rw [ConfigurationFormat.parse, Json.parse, Json.read_text hkeys hfree hdepth]
    rfl
  rw [readValue, Disk.readText_of_read hread, hformat]
  simp only [hparse]

/-- **What is saved is loaded again.**  An accepted configuration is accepted again as the value
that it is written as, and nothing of it is lost.  If its data has no float in it and the value
nests at most 127 arrays and objects, then it is also loaded from any JSON file that holds its
text. -/
theorem load_of_saved (v : Value) (hv : v.KeysOnce) (c : Configuration)
    (h : fromValue v = .ok c) :
    fromValue c.toJson = .ok c ∧
      ((∀ p ∈ c.plugins.entries, p.2.config.FloatFree) → c.toJson.depth ≤ 127 →
        ∀ (disk : Disk) (cwd : Place) (p : Path), p.extension? = some "json" →
          disk.read cwd p = .ok c.text.toUTF8 →
            load disk cwd p = (.ok c, [.configurationLoaded p])) := by
  have hdata := data_of_fromValue hv h
  have hcheck := ((fromValue_eq_ok_iff v c).1 h).2.2
  have hcomplete : c.Complete := fun p hp => (hdata p hp).1
  have hagain : fromValue c.toJson = .ok c :=
    (fromValue_toJson_eq_ok_iff c c).2 ⟨hcheck, hcomplete, rfl⟩
  refine ⟨hagain, ?_⟩
  intro hfree hdepth disk cwd p hextension hread
  have hvalue : readValue disk cwd p = .ok c.toJson :=
    readValue_of_json hextension hread (keysOnce_toJson fun p hp => (hdata p hp).2)
      (floatFree_toJson hfree) hdepth
  rw [load, hvalue]
  simp only [hagain]

/-- A configuration with data of several kinds, read from a value with a null and a further key,
then saved in a file and loaded from there. -/
theorem saved_example_loads :
    let data := Value.array [.number (.whole (-5) (by decide)), .string "\"a\n\"", .object []]
    let fields := [("rule", Value.string "window.optIn"), ("note", .null), ("config", data)]
    let v := Value.object
      [("plugins", .object [("my-plugin/example", .object fields)]), ("debug", .null),
        ("baseDir", .string "build")]
    let c : Configuration :=
      { Configuration.empty with
        baseDir := some ⟨"build"⟩
        plugins := .ofList [("my-plugin/example", ⟨data, .expression "window.optIn"⟩)] }
    let disk : Disk := ⟨[(["saved.json"], .file c.text.toUTF8 false)]⟩
    fromValue v = .ok c ∧ fromValue c.toJson = .ok c ∧
      load disk [] ⟨"saved.json"⟩ = (.ok c, [.configurationLoaded ⟨"saved.json"⟩]) := by
  intro data fields v c disk
  have hdata : data.KeysOnce := by
    refine .array ?_
    simp only [List.forall_mem_cons, List.not_mem_nil, false_implies, implies_true, and_true]
    exact ⟨.number _, .string _, .object (by decide) (by simp)⟩
  have hfields : (Value.object fields).KeysOnce := by
    refine .object (by decide) ?_
    simp only [fields, List.forall_mem_cons, List.not_mem_nil, false_implies, implies_true,
      and_true]
    exact ⟨.string _, .null, hdata⟩
  have hplugins : (Value.object [("my-plugin/example", .object fields)]).KeysOnce :=
    .object (by simp) (by simpa using hfields)
  have hkeys : v.KeysOnce := by
    refine .object (by decide) ?_
    simp only [List.forall_mem_cons, List.not_mem_nil, false_implies, implies_true, and_true]
    exact ⟨hplugins, .null, .string _⟩
  have hcheck : c.check = .ok () := by
    rw [check_eq_ok_iff]
    exact ⟨by decide, by decide, by decide +kernel, by decide⟩
  have haccepted : fromValue v = .ok c := (fromValue_eq_ok_iff v c).2 ⟨rfl, rfl, hcheck⟩
  have hfree : data.FloatFree := by
    refine .array ?_
    simp only [List.forall_mem_cons, List.not_mem_nil, false_implies, implies_true, and_true]
    exact ⟨.whole _ _, .string _, .object (by simp)⟩
  have hread : disk.read [] ⟨"saved.json"⟩ = .ok c.text.toUTF8 := rfl
  have hextension : (Path.mk "saved.json").extension? = some "json" := by decide
  obtain ⟨hagain, hload⟩ := load_of_saved v hkeys c haccepted
  have hloaded := hload (List.forall_mem_singleton.2 hfree) (by decide) disk [] _ hextension hread
  exact ⟨haccepted, hagain, hloaded⟩

end Configuration

end PluginBundle
