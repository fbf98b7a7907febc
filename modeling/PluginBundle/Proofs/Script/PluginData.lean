import PluginBundle.Proofs.Script.Tables

/-!
# What the tables of a script come to

The data of a plugin reaches the runtime as an object literal in a table of object literals, its
rule as source text in a second table, and the plugin itself as a variable in a third.  This module
reads the tables of an accepted configuration from the script and says what they hold.

`plugin_data_survives_iff` puts it together.  All plugins have their places in all tables unless one
of them is named `__proto__`, and data arrives as it was configured if it is ordinary: if none of
its objects has that key or keys that change places, and all its numbers are doubles.

Two things are asked for, one for each of the other two tables.  A rule is written as it is, so it
has to be one expression; `rule_with_comma_adds_key` shows what another one can do.  And the
variables of the plugins have to be names for the script, which not all variables of accepted plugins
are.
-/

namespace PluginBundle

open Json (Value skipSpace)
open Literal (Taker takeLiteral)

/-! ## The names of plugins -/

/-- Normalization keeps digits. -/
theorem normalizeChar_of_isDigit {c : Char} (h : c.isDigit = true) : normalizeChar c = c := by
  have hother : ¬(c = '-' ∨ c = '/' ∨ c = '.') := by
    rintro (rfl | rfl | rfl) <;> cases h
  rw [normalizeChar, if_neg hother]

/-- A name whose variable is a name is no index, since it does not start with a digit. -/
theorem arrayIndex?_of_isIdentifier {name : String} (h : isIdentifier (normalizeName name) = true) :
    arrayIndex? name = none := by
  obtain ⟨first, rest, hchars, hfirst, -⟩ := ((isIdentifier_iff _).1 h).shape
  -- Normalization would keep the first digit, and no variable starts with one.
  have hdigits : name.toList ≠ Nat.toDigits 10 (Nat.ofDigitChars 10 name.toList 0) := by
    intro hindex
    obtain ⟨d, ds, htext, hd⟩ := Json.toDigits_cons (Nat.ofDigitChars 10 name.toList 0)
    rw [normalizeName, String.toList_ofList, hindex, htext, List.map_cons,
      normalizeChar_of_isDigit hd] at hchars
    rw [← (List.cons.inj hchars).1] at hfirst
    rw [isDigit_of_isNameStart hfirst] at hd
    cases hd
  rw [arrayIndex?, if_neg fun h => hdigits h.1]

namespace Configuration

variable {c : Configuration}

/-- An object lists the names of accepted plugins as they were made. -/
theorem names_listed (hcheck : c.check = .ok ()) : c.plugins.names.Pairwise ListedBefore := by
  refine List.pairwise_of_forall_mem_list fun a _ b hb => ?_
  have hlast : keyPlace b = ⊤ := by
    rw [keyPlace, arrayIndex?_of_isIdentifier (isIdentifier_of_check hcheck b hb)]
  rw [ListedBefore, hlast]
  exact le_top

/-! ## The tables of a configuration -/

/-- The tables of a script, each read from its text. -/
def readTables (others : Taker) (c : Configuration) (style : ImportStyle) :
    List (Option (String × Properties)) :=
  c.tableBlock.map fun table => readTable? others (table.text style)

/-- The own keys of the object are the names of the plugins but for the one that makes no property,
in order; so they are all names if no plugin has that one. -/
def HoldsPlugins (c : Configuration) (table : Properties) : Prop :=
  Keyed.keys table.own = c.plugins.names.filter (· ≠ prototypeKey) ∧
    (Keyed.keys table.own = c.plugins.names ↔ prototypeKey ∉ c.plugins.names)

theorem keys_pluginEntries (c : Configuration) (e : String × PluginEntry → Expr) :
    Keyed.keys (c.plugins.entries.map fun p => (p.1, e p)) = c.plugins.names := by
  simp [Keyed.keys, PluginTable.names]

theorem keys_nameEntries (c : Configuration) (e : String → Expr) :
    Keyed.keys (c.plugins.names.map fun name => (name, e name)) = c.plugins.names := by
  rw [Keyed.keys, List.map_map]
  exact List.map_id _

/-- A table with an entry for each plugin holds the plugins. -/
theorem holdsPlugins_of_keys (hcheck : c.check = .ok ()) {entries : List (String × Expr)}
    (hkeys : Keyed.keys entries = c.plugins.names) (value : String × Expr → Datum) :
    c.HoldsPlugins (Properties.blank.defineAll (entryData value entries)) := by
  have hown : Keyed.keys (Properties.blank.defineAll (entryData value entries)).own =
      c.plugins.names.filter (· ≠ prototypeKey) := by
    rw [← hkeys]
    exact keys_own_table (hkeys ▸ c.plugins.distinct) (hkeys ▸ names_listed hcheck)
  refine ⟨hown, ?_⟩
  rw [hown, List.filter_eq_self]
  constructor
  · intro hall hmem
    simpa using hall _ hmem
  · intro hfree name hname
    have hother : name ≠ prototypeKey := fun hsame => hfree (hsame ▸ hname)
    simpa using hother

/-- **A table with an entry for each plugin is read** if all values are expressions, and holds the
plugins with these values. -/
theorem exists_readTable? (others : Taker) (style : ImportStyle) (hcheck : c.check = .ok ())
    {name : String} (hname : Named name) {entries : List (String × Expr)}
    (hkeys : Keyed.keys entries = c.plugins.names)
    (hvalues : ∀ e ∈ entries, ∃ v, ReadsAs others e.2.text v) :
    ∃ table, readTable? others ((Statement.table name entries).text style) = some (name, table) ∧
      c.HoldsPlugins table ∧
      ∀ e ∈ entries, e.1 ≠ prototypeKey →
        ∃ v, ReadsAs others e.2.text v ∧ Keyed.find? e.1 table.own = some v := by
  choose! value hvalue using hvalues
  have hdistinct : (Keyed.keys entries).Nodup := hkeys ▸ c.plugins.distinct
  exact ⟨_, readTable?_table others style hname hdistinct hvalue,
    holdsPlugins_of_keys hcheck hkeys value,
    fun e he hkey => ⟨value e, hvalue e he, find?_own_table hdistinct he hkey⟩⟩

theorem named_tables : Named configTable ∧ Named ruleTable ∧ Named mappingTable :=
  ⟨named_of_ascii (by decide), named_of_ascii (by decide), named_of_ascii (by decide)⟩

/-- The table of the data is read, whatever the script makes of other expressions. -/
theorem exists_dataTable (others : Taker) (style : ImportStyle) (hcheck : c.check = .ok ())
    (hdata : ∀ p ∈ c.plugins.entries, p.2.config.KeysOnce) :
    ∃ data, readTable? others ((Statement.table configTable
        (c.plugins.entries.map fun p => (p.1, .json p.2.config))).text style) =
          some (configTable, data) ∧ c.HoldsPlugins data ∧
      ∀ p ∈ c.plugins.entries, p.1 ≠ prototypeKey →
        Keyed.find? p.1 data.own = some p.2.config.datum := by
  obtain ⟨data, hread, hplugins, hvalues⟩ := exists_readTable? others style hcheck named_tables.1
    (keys_pluginEntries c fun p => .json p.2.config)
    (List.forall_mem_map.2 fun p hp => ⟨_, readsAs_json others (hdata p hp)⟩)
  refine ⟨data, hread, hplugins, fun p hp hkey => ?_⟩
  obtain ⟨v, hv, hfind⟩ := hvalues _ (List.mem_map_of_mem hp) hkey
  rw [hfind, hv.unique (readsAs_json others (hdata p hp))]

/-- The table of the rules is read if all rules are expressions. -/
theorem exists_ruleTable {others : Taker} (style : ImportStyle) (hcheck : c.check = .ok ())
    (hrules : ∀ p ∈ c.plugins.entries, ∃ v, ReadsAs others p.2.rule.source v) :
    ∃ rules, readTable? others ((Statement.table ruleTable
        (c.plugins.entries.map fun p => (p.1, .raw p.2.rule.source))).text style) =
          some (ruleTable, rules) ∧ c.HoldsPlugins rules ∧
      ∀ p ∈ c.plugins.entries, p.1 ≠ prototypeKey →
        ∃ v, ReadsAs others p.2.rule.source v ∧ Keyed.find? p.1 rules.own = some v := by
  obtain ⟨rules, hread, hplugins, hvalues⟩ := exists_readTable? others style hcheck named_tables.2.1
    (keys_pluginEntries c fun p => .raw p.2.rule.source) (List.forall_mem_map.2 hrules)
  exact ⟨rules, hread, hplugins, List.forall_mem_map.1 hvalues⟩

/-- The table of the mappings is read if the variables have the form of names. -/
theorem exists_mappingTable (others : Taker) (style : ImportStyle) (hcheck : c.check = .ok ())
    (hnames : ∀ name ∈ c.plugins.names, hasBindingForm (normalizeName name) = true) :
    ∃ mappings, readTable? others ((Statement.table mappingTable
        (c.plugins.names.map fun name => (name, .ident (normalizeName name)))).text style) =
          some (mappingTable, mappings) ∧ c.HoldsPlugins mappings ∧
      ∀ name ∈ c.plugins.names, name ≠ prototypeKey →
        Keyed.find? name mappings.own = some (.binding (normalizeName name)) := by
  have hvariable (name : String) (hname : name ∈ c.plugins.names) :
      ReadsAs others (normalizeName name) (.binding (normalizeName name)) :=
    readsAs_variable others (isIdentifier_of_check hcheck name hname) (hnames name hname)
  obtain ⟨mappings, hread, hplugins, hvalues⟩ := exists_readTable? others style hcheck
    named_tables.2.2 (keys_nameEntries c fun name => .ident (normalizeName name))
    (List.forall_mem_map.2 fun name hname => ⟨_, hvariable name hname⟩)
  refine ⟨mappings, hread, hplugins, fun name hname hkey => ?_⟩
  obtain ⟨v, hv, hfind⟩ := hvalues _ (List.mem_map_of_mem hname) hkey
  rw [hfind, hv.unique (hvariable name hname)]

/-! ### Rules that are expressions, and others -/

/-- A flag is one expression. -/
theorem readsAs_flag (others : Taker) (on : Bool) :
    ReadsAs others (Rule.flag on).source (.bool on) := by
  have hsource : (Rule.flag on).source = (Value.bool on).text := by
    cases on <;> simp [Rule.source, Value.text]
  have hread := readsAs_json others (Value.KeysOnce.bool on)
  rwa [← hsource, Value.datum] at hread

/-- A character of expressions without brackets, literals of strings, and comments. -/
def isFlat (c : Char) : Bool :=
  c.isAlphanum || [' ', '.', '_', '$', '=', '!', '<', '>', '&', '|', '+', '-', '?', ':'].contains c

/-- Takes an expression of such characters, which ends in front of the first comma. -/
def takeFlat : Taker := fun cs =>
  let source := cs.takeWhile (· ≠ ',')
  if source.all isFlat then
    some (.expression (String.ofList (skipSpace source)), cs.dropWhile (· ≠ ','))
  else none

theorem readsAs_comparison :
    ReadsAs takeFlat "void 0 === page.blocked" (.expression "void 0 === page.blocked") := by
  intro rest
  have hchars : "void 0 === page.blocked".toList = ['v', 'o', 'i', 'd', ' ', '0', ' ', '=', '=',
      '=', ' ', 'p', 'a', 'g', 'e', '.', 'b', 'l', 'o', 'c', 'k', 'e', 'd'] := by decide
  have hliteral (fuel : Nat) : wholeValue (takeLiteral (fuel + 1))
      (' ' :: ("void 0 === page.blocked".toList ++ ',' :: rest)) = none := by
    rw [hchars]
    rfl
  -- The first word is reserved, so it is no variable.
  have hvariable :
      takeVariable (' ' :: ("void 0 === page.blocked".toList ++ ',' :: rest)) = none := by
    have hword : String.ofList ((skipSpace (' ' :: ("void 0 === page.blocked".toList
        ++ ',' :: rest))).takeWhile fun c => !endsWord c) = "void" := by
      rw [hchars]
      rfl
    have hreserved : (languageReservedWords ++ strictReservedWords).contains "void" = true := by
      decide
    have hno : isVariable "void" = false := by
      rw [isVariable, hreserved, Bool.not_true, Bool.and_false]
    simp only [takeVariable, hword, hno, Bool.false_eq_true, if_false]
  rw [takeValue, hliteral, wholeValue_eq_none hvariable, hchars]
  rfl

/-- A rule is accepted as it is.  One with a comma is not one expression, and adds a key to its
table. -/
theorem rule_with_comma_adds_key :
    let c : Configuration :=
      { empty with plugins := .ofList [("ga", ⟨.object [], .expression "true, \"evil\": true"⟩)] }
    c.check = .ok () ∧ c.plugins.names = ["ga"] ∧
      ∀ others style, ∃ rules, (c.readTables others style)[1]? = some (some (ruleTable, rules)) ∧
        Keyed.keys rules.own = ["ga", "evil"] := by
  intro c
  have hcheck : c.check = .ok () := by
    rw [check_eq_ok_iff]
    exact ⟨by decide, by decide, by decide +kernel, by decide⟩
  refine ⟨hcheck, by decide, fun others style => ?_⟩
  have hblank : isNamePart ' ' = false := isNamePart_of_ascii (by decide)
  have htext : (c.tableBlock[1].text style).toList = "var ".toList ++ (ruleTable.toList
      ++ (" = \x7b".toList ++ "\n  \"ga\": true, \"evil\": true,\n\x7d;\n".toList)) := by
    cases style <;> decide
  have hspan (rest : List Char) : spanName (ruleTable.toList ++ (" = \x7b".toList ++ rest)) =
      (ruleTable, " = \x7b".toList ++ rest) := spanName_append named_tables.2.1 hblank _
  refine ⟨⟨none, [("ga", .bool true), ("evil", .bool true)]⟩, ?_, by decide⟩
  have hread : readTable? others (c.tableBlock[1].text style) =
      some (ruleTable, ⟨none, [("ga", .bool true), ("evil", .bool true)]⟩) := by
    simp only [readTable?, htext, behind?_append, hspan, Option.bind_eq_bind, Option.bind_some]
    rfl
  exact congrArg some hread

/-! ### All three tables -/

/-- **When plugin data survives being written as source text.**  Whatever the script makes of other
expressions, the table of the data is read from its text; so is that of the rules if every rule is
one expression, and that of the mappings if the variables have the form of names.  A table that is
read has the names of the plugins as its own keys, in order, exactly if no plugin is named
`__proto__`; a plugin of that name is missing.  The data of a plugin comes to the tree that was
configured exactly if it is ordinary. -/
theorem plugin_data_survives_iff (others : Taker) (c : Configuration) (style : ImportStyle)
    (hcheck : c.check = .ok ()) (hdata : ∀ p ∈ c.plugins.entries, p.2.config.KeysOnce) :
    ∃ data rules? mappings?,
      c.readTables others style = [some (configTable, data), rules?, mappings?] ∧
        (c.HoldsPlugins data ∧
          ∀ p ∈ c.plugins.entries, ∃ value, Literal.evaluate? p.2.config.text = some value ∧
            (p.1 ≠ prototypeKey → Keyed.find? p.1 data.own = some value) ∧
            (value = p.2.config.tree ↔ p.2.config.Ordinary)) ∧
        ((∀ p ∈ c.plugins.entries, ∃ v, ReadsAs others p.2.rule.source v) →
          ∃ rules, rules? = some (ruleTable, rules) ∧ c.HoldsPlugins rules ∧
            ∀ p ∈ c.plugins.entries, p.1 ≠ prototypeKey →
              ∃ v, ReadsAs others p.2.rule.source v ∧ Keyed.find? p.1 rules.own = some v) ∧
        ((∀ name ∈ c.plugins.names, hasBindingForm (normalizeName name) = true) →
          ∃ mappings, mappings? = some (mappingTable, mappings) ∧ c.HoldsPlugins mappings ∧
            ∀ name ∈ c.plugins.names, name ≠ prototypeKey →
              Keyed.find? name mappings.own = some (.binding (normalizeName name))) := by
  obtain ⟨data, hread, hplugins, hvalues⟩ := exists_dataTable others style hcheck hdata
  refine ⟨data, _, _, congrArg (· :: _) hread, ⟨hplugins, fun p hp => ?_⟩,
    exists_ruleTable style hcheck, exists_mappingTable others style hcheck⟩
  exact ⟨p.2.config.datum, Literal.evaluate?_text (hdata p hp), hvalues p hp,
    Json.datum_eq_tree_iff (hdata p hp)⟩

/-- A plugin whose data has indices, numbers and a list, and one whose rule is an expression: both
have their places in all tables, and the data is as it was configured. -/
theorem ordinary_data_survives :
    let value : Value := .object [("2", .number (.whole 7 (by decide))),
      ("10", .number (.whole (-40) (by decide))), ("id", .string "UA-1"),
      ("tags", .array [.bool true, .null])]
    let c : Configuration :=
      { empty with
        plugins := .ofList [("ga-x", ⟨value, .flag true⟩),
          ("page", ⟨.object [], .expression "void 0 === page.blocked"⟩)] }
    c.check = .ok () ∧ ∃ data rules mappings,
      c.readTables takeFlat .commonJs =
          [some (configTable, data), some (ruleTable, rules), some (mappingTable, mappings)] ∧
        (∀ table ∈ [data, rules, mappings], Keyed.keys table.own = ["ga-x", "page"]) ∧
        Keyed.find? "ga-x" data.own = some value.tree ∧
        Keyed.find? "page" rules.own = some (.expression "void 0 === page.blocked") ∧
        Keyed.find? "ga-x" mappings.own = some (.binding "ga_x") := by
  intro value c
  have hcheck : c.check = .ok () := by
    rw [check_eq_ok_iff]
    exact ⟨by decide, by decide, by decide +kernel, by decide⟩
  have htags : (Value.array [.bool true, .null]).KeysOnce ∧
      (Value.array [.bool true, .null]).Ordinary :=
    ⟨.array (by simp [Value.KeysOnce.bool, Value.KeysOnce.null]),
      .array (by simp [Value.Ordinary.bool, Value.Ordinary.null])⟩
  have hseven : IsDouble 7 := ⟨7, 0, by norm_num, by norm_num, by norm_num⟩
  have hforty : IsDouble 40 := ⟨40, 0, by norm_num, by norm_num, by norm_num⟩
  have hvalue : value.KeysOnce ∧ value.Ordinary :=
    ⟨.object (by decide) (by simp [Value.KeysOnce.string, Value.KeysOnce.number, htags.1]),
      .object (by decide) (by decide) (by
        simp only [List.mem_cons, List.not_mem_nil, or_false, forall_eq_or_imp, forall_eq]
        exact ⟨.number (by simpa [Json.Number.size] using hseven),
          .number (by simpa [Json.Number.size] using hforty), .string _, htags.2⟩)⟩
  have hempty : (Value.object []).KeysOnce := .object (by simp) (by simp)
  have hplugins : c.plugins.entries = [("ga-x", ⟨value, .flag true⟩),
    ("page", ⟨.object [], .expression "void 0 === page.blocked"⟩)] := rfl
  have hnames : c.plugins.names = ["ga-x", "page"] := rfl
  have hordinary : prototypeKey ∉ c.plugins.names := by decide
  obtain ⟨data, rules?, mappings?, hread, ⟨hdata, hvalues⟩, hrules, hmappings⟩ :=
    plugin_data_survives_iff takeFlat c .commonJs hcheck (by simp [hplugins, hvalue.1, hempty])
  obtain ⟨rules, rfl, hrules, hsources⟩ := hrules (by
    simp only [hplugins, List.mem_cons, List.not_mem_nil, or_false, forall_eq_or_imp, forall_eq]
    exact ⟨⟨_, readsAs_flag takeFlat true⟩, _, readsAs_comparison⟩)
  obtain ⟨mappings, rfl, hmappings, hvariables⟩ := hmappings (by decide +kernel)
  refine ⟨hcheck, data, rules, mappings, hread, ?_, ?_, ?_, ?_⟩
  · have hall {table : Properties} (h : c.HoldsPlugins table) :
        Keyed.keys table.own = ["ga-x", "page"] := (h.2.2 hordinary).trans hnames
    simp [hall hdata, hall hrules, hall hmappings]
  · obtain ⟨found, -, hfound, htree⟩ := hvalues ("ga-x", ⟨value, .flag true⟩) (by simp [hplugins])
    rw [hfound (by decide), htree.2 hvalue.2]
  · obtain ⟨v, hv, hfound⟩ := hsources ("page", ⟨.object [], .expression "void 0 === page.blocked"⟩)
      (by simp [hplugins]) (by decide)
    rw [hfound, hv.unique readsAs_comparison]
  · exact hvariables "ga-x" (by decide) (by decide)

/-- A plugin named `__proto__` is accepted and is missing from all tables, and data with that key
comes to an object without properties. -/
theorem prototype_key_makes_no_property :
    let value : Value := .object [("__proto__", .object [("a", .bool true)])]
    let c : Configuration :=
      { empty with
        plugins := .ofList [("__proto__", ⟨value, .flag true⟩), ("ga", ⟨value, .flag true⟩)] }
    c.check = .ok () ∧ c.plugins.names = ["__proto__", "ga"] ∧
      (∀ others,
        (c.readTables others .commonJs).map (Option.map fun table => Keyed.keys table.2.own) =
          [some ["ga"], some ["ga"], some ["ga"]]) ∧
      Literal.evaluate? value.text =
        some (.object (some (.object none [("a", .bool true)])) []) := by
  intro value c
  have hcheck : c.check = .ok () := by
    rw [check_eq_ok_iff]
    exact ⟨by decide, by decide, by decide +kernel, by decide⟩
  have hvalue : value.KeysOnce :=
    .object (by decide) (by
      simpa using Value.KeysOnce.object (by decide) (by simp [Value.KeysOnce.bool]))
  refine ⟨hcheck, by decide, fun others => ?_, ?_⟩
  · have hplugins : c.plugins.entries =
        [("__proto__", ⟨value, .flag true⟩), ("ga", ⟨value, .flag true⟩)] := rfl
    have hkeys {table : Properties} (h : c.HoldsPlugins table) :
        Keyed.keys table.own = ["ga"] := h.1
    obtain ⟨data, hdata, hdataPlugins, -⟩ := exists_dataTable others .commonJs hcheck
      (by simp [hplugins, hvalue])
    obtain ⟨rules, hrules, hrulePlugins, -⟩ := exists_ruleTable .commonJs hcheck
      (by simpa [hplugins] using ⟨_, readsAs_flag others true⟩)
    obtain ⟨mappings, hmappings, hmappingPlugins, -⟩ := exists_mappingTable others .commonJs hcheck
      (by decide +kernel)
    simp only [readTables, tableBlock, List.map_cons, List.map_nil, hdata, hrules, hmappings,
      Option.map_some, hkeys hdataPlugins, hkeys hrulePlugins, hkeys hmappingPlugins]
  · rw [Literal.evaluate?_text hvalue]
    rfl

end Configuration
end PluginBundle
