import PluginBundle.Configuration.Loading
import PluginBundle.Proofs.Configuration.Formats
import PluginBundle.Proofs.Configuration.Saving
import PluginBundle.Proofs.Toml.Translation

/-!
# Configurations from TOML documents

A TOML file is read into a document, and the value of the document is what a configuration is
decoded from.  `toml_document_mirrored_iff` says for which documents the value says the same, and
that a key which nobody wrote reaches the data of a plugin only where the document has a moment.

Data is handed on as it is, so `holds_of_fromValue` follows a key from the data of a plugin back to
the value, through the readers of entries, plugins and options.

Nothing is said of the reading of the text itself: the document is what the reader made of it before
it looked for moments that are written as tables.
-/

namespace PluginBundle

namespace Toml

/-- The entries of the document that a text spells, as they are written. -/
def written? (text : String) : Option (List (String × Value)) :=
  let cs :=
    match text.toList with
    | c :: r => if c = Char.ofNat 0xFEFF then r else c :: r
    | [] => []
  (readLinesOf (cs.length + 1) ⟨[], []⟩ cs).map fun p => entryValues p.root

/-- What is read is what is written, with the tables replaced that stand for moments. -/
theorem read?_eq (text : String) : read? text = (written? text).bind recognizeEntries? := by
  simp only [read?, written?, Option.bind_map]
  rfl

/-- Without the mark of the byte order in front, all of the text is read. -/
theorem written?_of_lines {text : String} {p : Progress}
    (hmark : text.toList.head? ≠ some (Char.ofNat 0xFEFF))
    (hlines : readLinesOf (text.toList.length + 1) ⟨[], []⟩ text.toList = some p) :
    written? text = some (entryValues p.root) := by
  unfold written?
  cases hchars : text.toList with
  | nil =>
      rw [hchars] at hlines
      simp only [hlines, Option.map_some]
  | cons c r =>
      have hc : c ≠ Char.ofNat 0xFEFF := by simpa [hchars] using hmark
      rw [hchars] at hlines
      simp only [if_neg hc, hlines, Option.map_some]

end Toml

open Json (Value)

/-! ## The data of a plugin in the value -/

variable {key : String}

/-- The data that an entry is left with is that of a member, or was there before. -/
theorem config_of_takeEntryMembers {members : List (String × Value)} {found after : PartialEntry}
    (h : takeEntryMembers found members = .ok after) :
    after.config = found.config ∨ ∃ p ∈ members, after.config = some p.2 := by
  induction members generalizing found with
  | nil =>
      cases h
      exact .inl rfl
  | cons p rest ih =>
      obtain ⟨k, value⟩ := p
      rw [takeEntryMembers] at h
      split at h
      · obtain hconfig | ⟨q, hq, hconfig⟩ := ih h
        · exact .inr ⟨(k, value), .head _, hconfig⟩
        · exact .inr ⟨q, .tail _ hq, hconfig⟩
      · -- The other members leave the data as it is.
        have hrest {found' : PartialEntry} (htake : takeEntryMembers found' rest = .ok after)
            (hsame : found'.config = found.config) :
            after.config = found.config ∨ ∃ q ∈ (k, value) :: rest, after.config = some q.2 := by
          obtain hconfig | ⟨q, hq, hconfig⟩ := ih htake
          · exact .inl (hconfig.trans hsame)
          · exact .inr ⟨q, .tail _ hq, hconfig⟩
        split at h
        · split at h
          · cases h
          · exact hrest h rfl
        · exact hrest h rfl

theorem holds_of_decodeEntry {value : Value} {entry : PluginEntry}
    (h : decodeEntry value = .ok entry) (hkey : entry.config.Holds key) : value.Holds key := by
  unfold decodeEntry at h
  cases value with
  | object members =>
      simp only at h
      split at h
      · cases h
      · cases h
      · cases h
      · rename_i config rule htake
        cases h
        obtain hnone | ⟨p, hp, hconfig⟩ := config_of_takeEntryMembers htake
        · cases hnone
        · cases hconfig
          exact .member hp hkey
  | array items =>
      simp only at h
      split at h
      · split at h
        · cases h
        · split at h
          · cases h
            exact .item (.head _) hkey
          · cases h
      · cases h
  | _ => cases h

theorem exists_of_decodeEntries {members : List (String × Value)}
    {entries : List (String × PluginEntry)} (h : decodeEntries members = .ok entries) :
    ∀ e ∈ entries, ∃ p ∈ members, decodeEntry p.2 = .ok e.2 := by
  induction members generalizing entries with
  | nil =>
      cases h
      simp
  | cons p rest ih =>
      obtain ⟨name, value⟩ := p
      rw [decodeEntries] at h
      cases hentry : decodeEntry value with
      | error e => simp [hentry] at h
      | ok entry =>
          cases hrest : decodeEntries rest with
          | error e => simp [hentry, hrest] at h
          | ok more =>
              simp only [hentry, hrest, Except.ok.injEq] at h
              subst h
              refine List.forall_mem_cons.2 ⟨⟨_, .head _, hentry⟩, fun e he => ?_⟩
              obtain ⟨p, hp, hdecode⟩ := ih hrest e he
              exact ⟨p, .tail _ hp, hdecode⟩

/-- The key is held by the data of a plugin. -/
def Configuration.DataHolds (c : Configuration) (key : String) : Prop :=
  ∃ e ∈ c.plugins.entries, e.2.config.Holds key

theorem holds_of_decodePlugins {value : Value} {plugins : PluginTable}
    (h : decodePlugins value = .ok plugins) {e : String × PluginEntry} (he : e ∈ plugins.entries)
    (hkey : e.2.config.Holds key) : value.Holds key := by
  unfold decodePlugins at h
  cases value with
  | null =>
      cases h
      cases he
  | object members =>
      simp only at h
      cases hentries : decodeEntries members with
      | error d => simp [hentries] at h
      | ok entries =>
          simp only [hentries, Except.ok.injEq] at h
          subst h
          obtain ⟨p, hp, hdecode⟩ :=
            exists_of_decodeEntries hentries e (Keyed.mem_of_mem_collect he)
          exact .member hp (holds_of_decodeEntry hdecode hkey)
  | _ => cases h

/-- One option brings no key into the data but those of its value. -/
theorem dataHolds_of_decodeOption {c d : Configuration} {option : ConfigurationOption}
    {value : Value} (h : decodeOption c option value = .ok d) (hkey : d.DataHolds key) :
    c.DataHolds key ∨ value.Holds key := by
  cases option with
  | plugins =>
      obtain ⟨plugins, hplugins, rfl⟩ := map_eq_ok_iff.1 h
      obtain ⟨e, he, hdata⟩ := hkey
      exact .inr (holds_of_decodePlugins hplugins he hdata)
  | debug | baseDir | outputPath | outputFilename | onBeforeInitialize =>
      obtain ⟨_, -, rfl⟩ := map_eq_ok_iff.1 h
      exact .inl hkey

theorem dataHolds_of_takeOptions {members : List (String × Value)} {c d : Configuration}
    (h : takeOptions c members = .ok d) (hkey : d.DataHolds key) :
    c.DataHolds key ∨ ∃ p ∈ members, p.2.Holds key := by
  induction members generalizing c with
  | nil =>
      cases h
      exact .inl hkey
  | cons p rest ih =>
      obtain ⟨name, value⟩ := p
      rw [takeOptions] at h
      split at h
      · cases h
      · split at h
        · cases h
        · rename_i next hnext
          obtain hbefore | ⟨q, hq, hbelow⟩ := ih h
          · obtain hc | hvalue := dataHolds_of_decodeOption hnext hbefore
            · exact .inl hc
            · exact .inr ⟨(name, value), .head _, hvalue⟩
          · exact .inr ⟨q, .tail _ hq, hbelow⟩

namespace Configuration

/-- The data of an accepted configuration has no keys but those of its value. -/
theorem holds_of_fromValue {value : Value} {c : Configuration} (h : fromValue value = .ok c)
    (hkey : c.DataHolds key) : value.Holds key := by
  obtain ⟨members, rfl⟩ := exists_members_of_fromValue h
  have hdecoded : takeOptions .empty members = .ok c := ((fromValue_eq_ok_iff _ c).1 h).2.1
  obtain ⟨e, he, -⟩ | ⟨p, hp, hbelow⟩ := dataHolds_of_takeOptions hdecoded hkey
  · cases he
  · exact .member hp hbelow

/-! ## Documents and their values -/

/-- A TOML file is read if its text has a document, and the value is the translation of that. -/
theorem readValue_toml_eq_ok_iff {disk : Disk} {cwd : Place} {p : Path} {value : Value}
    (hformat : ConfigurationFormat.ofPath? p = some .toml) :
    readValue disk cwd p = .ok value ↔
      ∃ text entries results, disk.readText cwd p = .ok text ∧
        Toml.written? text = some entries ∧ Toml.recognizeEntries? entries = some results ∧
        value = .object (Toml.entriesToJson results) := by
  unfold readValue
  cases htext : disk.readText cwd p with
  | error cause => simp
  | ok text =>
      simp only [hformat, ConfigurationFormat.parse, Toml.read?_eq]
      cases hwritten : Toml.written? text with
      | none => simp [hwritten]
      | some entries =>
          cases hresults : Toml.recognizeEntries? entries with
          | none => simp [hwritten, hresults]
          | some results => simp [hwritten, hresults, Toml.Value.toJson, eq_comm]

/-- **What a TOML configuration keeps.**  The value that is decoded has at every level the keys of
the document in their order, arrays of the same length, and each leaf as one leaf other than null, if
and only if the document has no moments and no floats that are infinite or no number.  (Below the
outermost table, one that begins with the private name of moments must have no other entry and spell
a moment as it is shown.)  In every case, a key in the data of a plugin is written in the document,
or is that private name while the document has a moment. -/
theorem toml_document_mirrored_iff (disk : Disk) (cwd : Place) (p : Path) (value : Value)
    (hformat : ConfigurationFormat.ofPath? p = some .toml)
    (hread : readValue disk cwd p = .ok value) :
    load disk cwd p = (fromValue value, [.configurationLoaded p]) ∧
      ∃ text entries, disk.readText cwd p = .ok text ∧ Toml.written? text = some entries ∧
        ((Toml.Value.table entries).Mirrors value ↔ ∀ e ∈ entries, e.2.Carried) ∧
        ∀ c, fromValue value = .ok c →
          ∀ plugin ∈ c.plugins.entries, ∀ key, plugin.2.config.Holds key →
            (Toml.Value.table entries).Writes key ∨
              key = Toml.momentKey ∧ (Toml.Value.table entries).HasMoment := by
  obtain ⟨text, entries, results, htext, hwritten, hresults, rfl⟩ :=
    (readValue_toml_eq_ok_iff hformat).1 hread
  refine ⟨by simp only [load, hread], text, entries, htext, hwritten, ?_, ?_⟩
  · exact Toml.mirrors_entriesToJson_iff hresults fun e _ => Toml.mirrors_toJson_iff e.2
  · intro c haccepted plugin hplugin key hkey
    have hholds : (Value.object (Toml.entriesToJson results)).Holds key :=
      holds_of_fromValue haccepted ⟨plugin, hplugin, hkey⟩
    exact Toml.accounts_of_entriesToJson hresults (fun e _ => Toml.accounts_of_holds e.2) hholds

/-- A document without moments and floats.  All of it is in the value, and the data of its plugin has
no key but those that are written. -/
theorem ordinary_document_is_mirrored :
    let text := "[plugins.ga]\nrule = true\nconfig.shop.ids = [1, true]\n"
    let disk : Disk := ⟨[(["odl.toml"], .file text.toUTF8 false)]⟩
    let ids : Toml.Value := .array [.integer 1 (by decide), .boolean true]
    let shop : Toml.Value := .table [("ids", ids)]
    let plugin : Toml.Value := .table [("rule", .boolean true), ("config", .table [("shop", shop)])]
    let document : Toml.Value := .table [("plugins", .table [("ga", plugin)])]
    ∃ value c, readValue disk [] ⟨"odl.toml"⟩ = .ok value ∧ document.Mirrors value ∧
      load disk [] ⟨"odl.toml"⟩ = (.ok c, [.configurationLoaded ⟨"odl.toml"⟩]) ∧
      c.DataHolds "ids" ∧
      ∀ plugin ∈ c.plugins.entries, ∀ key, plugin.2.config.Holds key → document.Writes key := by
  intro text disk ids shop plugin document
  let data : Value :=
    .object [("shop", .object [("ids", .array [.number (.whole 1 (by decide)), .bool true])])]
  let value : Value :=
    .object [("plugins", .object [("ga", .object [("rule", .bool true), ("config", data)])])]
  let c : Configuration :=
    { Configuration.empty with plugins := .ofList [("ga", ⟨data, .flag true⟩)] }
  have hformat : ConfigurationFormat.ofPath? ⟨"odl.toml"⟩ = some .toml := by decide
  have htext : disk.readText [] ⟨"odl.toml"⟩ = .ok text := Disk.readText_of_read rfl
  have hmark : text.toList.head? ≠ some (Char.ofNat 0xFEFF) := by decide
  let entries : Toml.Entries :=
    [("rule", .closed (.boolean true)),
      ("config", .section .dotted [("shop", .section .dotted [("ids", .closed ids)])])]
  have hlines : Toml.readLinesOf (text.toList.length + 1) ⟨[], []⟩ text.toList =
      some ⟨[("plugins", .section .implied [("ga", .section .header entries)])],
        ["plugins", "ga"]⟩ := by
    unfold text entries
    rfl
  have hwritten : Toml.written? text = some [("plugins", .table [("ga", plugin)])] :=
    Toml.written?_of_lines hmark hlines
  have hread : readValue disk [] ⟨"odl.toml"⟩ = .ok value :=
    (readValue_toml_eq_ok_iff hformat).2 ⟨text, _, _, htext, hwritten, rfl, rfl⟩
  have hcheck : c.check = .ok () := by
    rw [check_eq_ok_iff]
    exact ⟨by decide, by decide, by decide +kernel, by decide⟩
  have haccepted : fromValue value = .ok c := (fromValue_eq_ok_iff value c).2 ⟨rfl, rfl, hcheck⟩
  have hids : ids.Carried :=
    .array (List.forall_mem_cons.2
      ⟨.integer 1 _, List.forall_mem_singleton.2 (.boolean true)⟩)
  have hshop : shop.Carried := .table rfl (List.forall_mem_singleton.2 hids)
  have hconfig : (Toml.Value.table [("shop", shop)]).Carried :=
    .table rfl (List.forall_mem_singleton.2 hshop)
  have hplugin : plugin.Carried :=
    .table rfl (List.forall_mem_cons.2 ⟨.boolean true, List.forall_mem_singleton.2 hconfig⟩)
  have hentries : ∀ e ∈ [("plugins", Toml.Value.table [("ga", plugin)])], e.2.Carried :=
    List.forall_mem_singleton.2 (.table rfl (List.forall_mem_singleton.2 hplugin))
  have hcarried : document.Carried := .table rfl hentries
  obtain ⟨hload, text', entries, htext', hwritten', hmirrored, hdata⟩ :=
    toml_document_mirrored_iff disk [] ⟨"odl.toml"⟩ value hformat hread
  obtain rfl : text = text' := Except.ok.inj (htext.symm.trans htext')
  obtain rfl := Option.some.inj (hwritten.symm.trans hwritten')
  refine ⟨value, c, hread, hmirrored.2 hentries, ?_, ?_, ?_⟩
  · rw [hload, haccepted]
  · exact ⟨_, .head _, .member (.head _) (.here (.head _))⟩
  · intro plugin hplugin key hkey
    obtain hwrites | ⟨-, hmoment⟩ := hdata c haccepted plugin hplugin key hkey
    · exact hwrites
    · exact absurd hmoment hcarried.not_hasMoment

/-- A date that is written as the data of a plugin.  The data becomes an object with a key that the
document does not have. -/
theorem date_becomes_an_object :
    let text := "[plugins.ga]\nrule = true\nconfig = 1979-05-27\n"
    let disk : Disk := ⟨[(["odl.toml"], .file text.toUTF8 false)]⟩
    let plugin : Toml.Value := .table [("rule", .boolean true), ("config", .moment "1979-05-27")]
    let document : Toml.Value := .table [("plugins", .table [("ga", plugin)])]
    let data : Value := .object [("$__toml_private_datetime", .string "1979-05-27")]
    let value : Value :=
      .object [("plugins", .object [("ga", .object [("rule", .bool true), ("config", data)])])]
    let c : Configuration :=
      { Configuration.empty with plugins := .ofList [("ga", ⟨data, .flag true⟩)] }
    Toml.written? text = some [("plugins", .table [("ga", plugin)])] ∧
      readValue disk [] ⟨"odl.toml"⟩ = .ok value ∧ ¬document.Mirrors value ∧
      load disk [] ⟨"odl.toml"⟩ = (.ok c, [.configurationLoaded ⟨"odl.toml"⟩]) ∧
      c.DataHolds "$__toml_private_datetime" ∧ ¬document.Writes "$__toml_private_datetime" := by
  intro text disk plugin document data value c
  have hformat : ConfigurationFormat.ofPath? ⟨"odl.toml"⟩ = some .toml := by decide
  have htext : disk.readText [] ⟨"odl.toml"⟩ = .ok text := Disk.readText_of_read rfl
  have hmark : text.toList.head? ≠ some (Char.ofNat 0xFEFF) := by decide
  let entries : Toml.Entries :=
    [("rule", .closed (.boolean true)), ("config", .closed (.moment "1979-05-27"))]
  have hlines : Toml.readLinesOf (text.toList.length + 1) ⟨[], []⟩ text.toList =
      some ⟨[("plugins", .section .implied [("ga", .section .header entries)])],
        ["plugins", "ga"]⟩ := by
    unfold text entries
    rfl
  have hwritten : Toml.written? text = some [("plugins", .table [("ga", plugin)])] :=
    Toml.written?_of_lines hmark hlines
  have hread : readValue disk [] ⟨"odl.toml"⟩ = .ok value :=
    (readValue_toml_eq_ok_iff hformat).2 ⟨text, _, _, htext, hwritten, rfl, rfl⟩
  have hcheck : c.check = .ok () := by
    rw [check_eq_ok_iff]
    exact ⟨by decide, by decide, by decide +kernel, by decide⟩
  have haccepted : fromValue value = .ok c := (fromValue_eq_ok_iff value c).2 ⟨rfl, rfl, hcheck⟩
  have hload : load disk [] ⟨"odl.toml"⟩ = (.ok c, [.configurationLoaded ⟨"odl.toml"⟩]) := by
    simp only [load, hread, haccepted]
  refine ⟨hwritten, hread, ?_, hload, ⟨_, .head _, .here (.head _)⟩, ?_⟩
  · intro hmirrors
    -- The leaf is mirrored by a leaf only, and there is an object in its place.
    simp only [document, plugin, value, data, Toml.Value.mirrors_table_iff, List.map_cons,
      List.map_nil, List.forall₂_cons] at hmirrors
    obtain ⟨-, ⟨-, ⟨-, -, hdate, -⟩, -⟩, -⟩ := hmirrors
    cases hdate with
    | moment _ hscalar => exact hscalar
  · have hrule : ¬(Toml.Value.boolean true).Writes "$__toml_private_datetime" := by
      intro hwrites
      cases hwrites
    have hdate : ¬(Toml.Value.moment "1979-05-27").Writes "$__toml_private_datetime" := by
      intro hwrites
      cases hwrites
    simp [document, plugin, Toml.Value.writes_table_iff, hrule, hdate]

end Configuration
end PluginBundle
