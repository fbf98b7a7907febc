import PluginBundle.Proofs.Json.RoundTrip
import PluginBundle.Proofs.Script.Styles

/-!
# What literals do to the lines of a script

Names and data reach a script inside of literals.  A literal ends with its own quote, whatever
stands behind it, and it holds no end of a line.  So inside of its literal no name adds a line to a
script, and no data does:

* `tableHead_append_tableChars` and `oneLine_tableLines` – each entry of a table of data is a line
  of its own, for all names and all data.
* `oneLine_importLine_iff` – an import is one line if its variable and its export are.  The module
  does not matter, but the variable of a plugin is written without quotes, and normalization keeps
  ends of lines (`oneLine_normalizeName_iff`).  It is the check of a configuration that refuses such
  names; a script of plugins that were not checked may have broken imports.

Rules and hooks are written as they are and may have any number of lines.
-/

namespace PluginBundle

open Json (quote OneLine Value)

/-! ## Imports -/

/-- **Which imports are one line**: those whose variable and export are. -/
theorem oneLine_importLine_iff (style : ImportStyle) (binding module : String) (exported : Export) :
    OneLine (importLine style binding module exported) ↔
      OneLine binding.toList ∧ OneLine exported.name.toList := by
  have hmodule := Json.oneLine_quote module
  cases exported with
  | default => cases style <;> simp [importLine_default, hmodule, Export.name]
  | named name =>
      cases style with
      | commonJs => simp [importLine_named, hmodule, Export.name]
      | esm =>
          by_cases hsame : name = binding
          · simp [importLine_named, hmodule, Export.name, hsame]
          · simp [importLine_named, hmodule, Export.name, hsame, and_comm]

theorem visible_normalizeChar_iff (c : Char) :
    0x20 ≤ (normalizeChar c).toNat ↔ 0x20 ≤ c.toNat := by
  unfold normalizeChar
  split
  · rename_i hseparator
    rcases hseparator with rfl | rfl | rfl <;> decide
  · rfl

/-- Normalization neither brings nor takes away characters below the blank. -/
theorem oneLine_normalizeName_iff (name : String) :
    OneLine (normalizeName name).toList ↔ OneLine name.toList := by
  simp [normalizeName, OneLine, visible_normalizeChar_iff]

theorem Named.oneLine {name : String} (h : Named name) : OneLine name.toList :=
  fun c hc => visible_of_isNamePart (h c hc)

/-! ## Tables -/

/-- The line of a written entry, without its end. -/
def entryLine (p : String × String) : List Char :=
  "  ".toList ++ ((quote p.1).toList ++ (": ".toList ++ (p.2.toList ++ [','])))

theorem entryChars_eq (p : String × String) : entryChars p = entryLine p ++ ['\n'] := by
  simp [entryChars, entryLine]

/-- An entry is one line if its value is. -/
theorem oneLine_entryLine {p : String × String} (h : OneLine p.2.toList) :
    OneLine (entryLine p) := by
  simp [entryLine, Json.oneLine_quote, h]

/-- The lines of a table: a line for each entry between its first and its last line, or the only
line of an empty table. -/
def tableLines (name : String) : List (String × String) → List (List Char)
  | [] => [Configuration.tableHead name ++ "\x7d;".toList]
  | p :: rest =>
      Configuration.tableHead name :: ((p :: rest).map entryLine ++ ["\x7d;".toList])

/-- A table is written in these lines. -/
theorem tableHead_append_tableChars (name : String) (entries : List (String × String)) :
    Configuration.tableHead name ++ (tableChars entries ++ "\x7d;\n".toList) =
      (tableLines name entries).flatMap (· ++ ['\n']) := by
  have hentry : entryChars = fun p => entryLine p ++ ['\n'] := funext entryChars_eq
  cases entries with
  | nil => simp [tableLines, tableChars]
  | cons p rest => simp [tableLines, tableChars, hentry, List.flatMap_map]

theorem oneLine_tableLines {name : String} (hname : OneLine name.toList)
    {entries : List (String × String)} (hentries : ∀ p ∈ entries, OneLine p.2.toList) :
    ∀ line ∈ tableLines name entries, OneLine line := by
  have hhead : OneLine (Configuration.tableHead name) := by simp [Configuration.tableHead, hname]
  cases entries with
  | nil => simp [tableLines, hhead]
  | cons p rest =>
      have hlines : ∀ line ∈ (p :: rest).map entryLine, OneLine line :=
        List.forall_mem_map.2 fun q hq => oneLine_entryLine (hentries q hq)
      refine List.forall_mem_cons.2 ⟨hhead, List.forall_mem_append.2 ⟨hlines, ?_⟩⟩
      simp

/-! ## Scripts -/

namespace Configuration

variable {c : Configuration}

/-- The lines of the table of data. -/
def dataLines (c : Configuration) : List (List Char) := tableLines configTable c.writtenData

/-- A script is the lines of its imports, a blank line, the lines of its data, and the rest. -/
theorem exists_toList_script_eq (c : Configuration) (style : ImportStyle) :
    ∃ rest, (c.script style).toList =
      (c.importLines style).flatMap (· ++ ['\n'])
        ++ '\n' :: (c.dataLines.flatMap (· ++ ['\n']) ++ rest) := by
  refine ⟨c.middleChars.drop 2 ++ c.initialization.text.toList, ?_⟩
  have hmiddle : c.middleChars = ";\n".toList ++ c.middleChars.drop 2 := by simp [middleChars]
  rw [toList_script_eq_lines, dataLines, ← tableHead_append_tableChars, behindImports, hmiddle]
  simp

theorem oneLine_dataLines (c : Configuration) : ∀ line ∈ c.dataLines, OneLine line :=
  oneLine_tableLines (by decide) (oneLine_writtenData c)

/-- The import of a plugin is one line if its name is. -/
theorem oneLine_import_iff (style : ImportStyle) (name : String) :
    OneLine (importLine style (normalizeName name) name .default) ↔ OneLine name.toList := by
  have hdefault : OneLine Export.default.name.toList := by decide
  rw [oneLine_importLine_iff, oneLine_normalizeName_iff]
  exact and_iff_left hdefault

theorem oneLine_runtimeImport (style : ImportStyle) :
    OneLine (importLine style runtimeBinding runtimeModule (.named runtimeExport)) :=
  (oneLine_importLine_iff style _ _ _).2 (by decide)

/-- The imports of accepted plugins are one line each. -/
theorem oneLine_importLines (hcheck : c.check = .ok ()) (style : ImportStyle) :
    ∀ line ∈ c.importLines style, OneLine line := by
  refine List.forall_mem_cons.2 ⟨oneLine_runtimeImport style, List.forall_mem_map.2 ?_⟩
  intro name hname
  rw [oneLine_import_iff, ← oneLine_normalizeName_iff]
  exact (named_normalizeName hcheck name hname).oneLine

end Configuration

/-- **Literals close themselves and stay on their line.**  A literal can be told from whatever
stands behind it; it is read as the string that it was made of, and by the rules of JSON it stands
for no other; neither a literal nor the text of a value holds a character below the blank.  A script
is made of the lines of its imports, a blank line, the lines of its data, and a rest: each line of
the data is a single line, and so is the import of the runtime.  That of a plugin is one exactly if
its name has no character below the blank; all plugins that are accepted have such names. -/
theorem literals_close_and_keep_their_line :
    (∀ s t u w : String, quote s ++ u = quote t ++ w ↔ s = t ∧ u = w) ∧
      (∀ s : String, Json.read (quote s) = .ok (.string s) ∧
        ∀ t, Json.StandsFor (quote s) t ↔ t = s) ∧
      (∀ s : String, OneLine (quote s).toList) ∧
      (∀ v : Value, OneLine (Expr.json v).text.toList) ∧
      ∀ (c : Configuration) (style : ImportStyle),
        (∃ rest, (c.script style).toList =
          (c.importLines style).flatMap (· ++ ['\n'])
            ++ '\n' :: (c.dataLines.flatMap (· ++ ['\n']) ++ rest)) ∧
        (∀ line ∈ c.dataLines, OneLine line) ∧
        OneLine (importLine style runtimeBinding runtimeModule (.named runtimeExport)) ∧
        (∀ name ∈ c.plugins.names,
          OneLine (importLine style (normalizeName name) name .default) ↔ OneLine name.toList) ∧
        (c.check = .ok () → ∀ line ∈ c.importLines style, OneLine line) := by
  refine ⟨fun s t u w => ⟨fun h => ?_, ?_⟩, fun s => ⟨?_, Json.standsFor_quote_iff s⟩,
    Json.oneLine_quote, Json.oneLine_chars, fun c style => ?_⟩
  · have hchars : (quote s).toList ++ u.toList = (quote t).toList ++ w.toList := by
      simpa using congrArg String.toList h
    obtain ⟨hs, hu⟩ := Json.quote_append_inj hchars
    exact ⟨hs, String.toList_inj.1 hu⟩
  · rintro ⟨rfl, rfl⟩
    rfl
  · exact Json.read_quote s
  · exact ⟨c.exists_toList_script_eq style, c.oneLine_dataLines,
      Configuration.oneLine_runtimeImport style,
      fun name _ => Configuration.oneLine_import_iff style name,
      fun hcheck => Configuration.oneLine_importLines hcheck style⟩

/-- Data that is full of quotes, backslashes and ends of lines: the plugin is accepted, its import
and its data are single lines, and a backslash at the end of a string hides no quote. -/
theorem hostile_data_keeps_its_lines :
    let data : Value := .object [("\"\n", .string "\\\r\n\"\x7d,")]
    let c : Configuration :=
      { Configuration.empty with plugins := .ofList [("my-plugin/x", ⟨data, .flag true⟩)] }
    c.check = .ok () ∧ (∀ line ∈ c.importLines .esm, OneLine line) ∧
      (∀ line ∈ c.dataLines, OneLine line) ∧ "my-plugin/x" ∈ c.plugins.names ∧
      OneLine (importLine .esm (normalizeName "my-plugin/x") "my-plugin/x" .default) ∧
      ∀ w, quote "\\" ++ "\"" ≠ quote "\\\"" ++ w := by
  intro data c
  have hcheck : c.check = .ok () := by
    rw [check_eq_ok_iff]
    exact ⟨by decide, by decide, by decide +kernel, by decide⟩
  have hmember : "my-plugin/x" ∈ c.plugins.names := by decide
  obtain ⟨hliterals, -, -, -, hscripts⟩ := literals_close_and_keep_their_line
  obtain ⟨-, hdata, -, himport, haccepted⟩ := hscripts c .esm
  refine ⟨hcheck, haccepted hcheck, hdata, hmember, (himport _ hmember).2 (by decide), ?_⟩
  intro w h
  have hsame := ((hliterals _ _ _ _).1 h).1
  revert hsame
  decide

/-- A plugin that was not checked may have the end of a line in its name, and then there is one in
the middle of its import.  The check refuses that plugin. -/
theorem unchecked_name_breaks_its_import :
    let c : Configuration :=
      { Configuration.empty with plugins := .ofList [("a\nb", ⟨.object [], .flag true⟩)] }
    (∃ rest, (c.script .commonJs).toList =
        ("var __$odl = require(\"opendatalayer\").odl;\n"
          ++ "var a\nb = require(\"a\\nb\").default;\n\n").toList ++ rest) ∧
      (¬∀ line ∈ c.importLines .commonJs, OneLine line) ∧
      c.check = .error (.invalidPluginName "a\nb" "a\nb") := by
  intro c
  have himports : c.importLines .commonJs =
      ["var __$odl = require(\"opendatalayer\").odl;".toList,
        "var a\nb = require(\"a\\nb\").default;".toList] := by
    decide +kernel
  refine ⟨?_, ?_, by decide +kernel⟩
  · obtain ⟨rest, hscript⟩ := c.exists_toList_script_eq .commonJs
    refine ⟨c.dataLines.flatMap (· ++ ['\n']) ++ rest, ?_⟩
    rw [hscript, himports]
    simp
  · intro hlines
    have hbroken := hlines "var a\nb = require(\"a\\nb\").default;".toList (by simp [himports])
    revert hbroken
    decide

end PluginBundle
