import PluginBundle.Proofs.Configuration.Acceptance
import PluginBundle.Proofs.Json.Lines
import PluginBundle.Proofs.Json.Literals
import PluginBundle.Script.Generate

/-!
# What can be read off an entry script

The text of an entry script tells which plugins it was made of, in which order, and with which
data.  It is read from its start: each import ends where its line ends, and an empty line ends the
imports; each entry of the table of data is a line of its own, and a brace ends the table.  Rules
and the hook are written as they are, so nothing is known of the text from the first rule on.  If
the rules are known too, then the rest of the text tells the hook.

The lemmas named `append_inj` say that a part of the text can be told from whatever follows it.
They are stated with arbitrary texts behind the part, so that the parts can be read one after the
other.
-/

namespace PluginBundle

open Json (quote OneLine)

/-! ## Parts of a text -/

/-- A text without a character can be told from what follows the first such character. -/
theorem append_cons_inj {stop : Char} {s t u w : List Char} (hs : stop ∉ s) (ht : stop ∉ t)
    (h : s ++ stop :: u = t ++ stop :: w) : s = t ∧ u = w := by
  induction s generalizing t with
  | nil =>
      cases t with
      | nil => simpa using h
      | cons d t =>
          simp only [List.nil_append, List.cons_append, List.cons.injEq] at h
          exact absurd (h.1 ▸ List.mem_cons_self) ht
  | cons c s ih =>
      cases t with
      | nil =>
          simp only [List.nil_append, List.cons_append, List.cons.injEq] at h
          exact absurd (h.1 ▸ List.mem_cons_self) hs
      | cons d t =>
          simp only [List.cons_append, List.cons.injEq] at h
          simp only [List.mem_cons, not_or] at hs ht
          obtain ⟨rfl, hrest⟩ := ih hs.2 ht.2 h.2
          exact ⟨by rw [h.1], hrest⟩

/-- Items one after the other can be told from what follows the last one, if each can be told from
what follows it and none starts like the end. -/
theorem flatMap_append_inj {α : Type} {write : α → List Char} {first stop : Char}
    (hfirst : ∀ a, ∃ more, write a = first :: more) (hstop : first ≠ stop) {as bs : List α}
    (hwrite : ∀ a ∈ as, ∀ b ∈ bs, ∀ u w, write a ++ u = write b ++ w → a = b ∧ u = w)
    {u w : List Char} (h : as.flatMap write ++ stop :: u = bs.flatMap write ++ stop :: w) :
    as = bs ∧ u = w := by
  induction as generalizing bs with
  | nil =>
      cases bs with
      | nil => simpa using h
      | cons b bs =>
          obtain ⟨more, hmore⟩ := hfirst b
          simp only [List.flatMap_nil, List.nil_append, List.flatMap_cons, hmore,
            List.cons_append, List.cons.injEq] at h
          exact absurd h.1.symm hstop
  | cons a as ih =>
      cases bs with
      | nil =>
          obtain ⟨more, hmore⟩ := hfirst a
          simp only [List.flatMap_nil, List.nil_append, List.flatMap_cons, hmore,
            List.cons_append, List.cons.injEq] at h
          exact absurd h.1 hstop
      | cons b bs =>
          simp only [List.flatMap_cons, List.append_assoc] at h
          obtain ⟨rfl, hrest⟩ := hwrite a List.mem_cons_self b List.mem_cons_self _ _ h
          have hothers : ∀ a' ∈ as, ∀ b' ∈ bs, ∀ u w, write a' ++ u = write b' ++ w →
              a' = b' ∧ u = w :=
            fun a' ha b' hb => hwrite a' (List.mem_cons_of_mem _ ha) b' (List.mem_cons_of_mem _ hb)
          obtain ⟨rfl, hend⟩ := ih hothers hrest
          exact ⟨rfl, hend⟩

/-! ## Imports -/

/-- A legal variable has no blank in it. -/
theorem blank_not_mem_of_isIdentifier {name : String} (h : isIdentifier name = true) :
    ' ' ∉ name.toList := by
  have hpart : isNamePart ' ' = false := isNamePart_of_ascii (by decide)
  intro hmem
  have hblank := (isNamePart_of_isIdentifier h).2 _ hmem
  rw [hpart] at hblank
  cases hblank

/-- The line that imports a plugin. -/
def importChars (style : ImportStyle) (name : String) : List Char :=
  (importText style (normalizeName name) name .default).toList

/-- A variable, something fixed, a literal, and something fixed again. -/
theorem bound_append_inj (front back : List Char) {x y a b : String} {u w : List Char}
    (hx : ' ' ∉ x.toList) (hy : ' ' ∉ y.toList)
    (h : x.toList ++ ' ' :: (front ++ ((quote a).toList ++ (back ++ u))) =
      y.toList ++ ' ' :: (front ++ ((quote b).toList ++ (back ++ w)))) : a = b ∧ u = w := by
  obtain ⟨-, hrest⟩ := append_cons_inj hx hy h
  obtain ⟨rfl, hback⟩ := Json.quote_append_inj (List.append_cancel_left hrest)
  exact ⟨rfl, List.append_cancel_left hback⟩

theorem importChars_append_inj {style : ImportStyle} {a b : String} {u w : List Char}
    (ha : isIdentifier (normalizeName a) = true) (hb : isIdentifier (normalizeName b) = true)
    (h : importChars style a ++ u = importChars style b ++ w) : a = b ∧ u = w := by
  have hx := blank_not_mem_of_isIdentifier ha
  have hy := blank_not_mem_of_isIdentifier hb
  cases style with
  | commonJs =>
      refine bound_append_inj "= require(".toList ").default;\n".toList hx hy ?_
      simpa [importChars, importText] using h
  | esm =>
      refine bound_append_inj "from ".toList ";\n".toList hx hy ?_
      simpa [importChars, importText] using h

/-- Every line of an import starts with the same letter, which depends on the style only. -/
theorem importChars_first (style : ImportStyle) :
    ∃ first, first ≠ '\n' ∧ ∀ name, ∃ more, importChars style name = first :: more := by
  cases style with
  | commonJs => exact ⟨'v', by decide, fun name => ⟨_, by simp [importChars, importText]; rfl⟩⟩
  | esm => exact ⟨'i', by decide, fun name => ⟨_, by simp [importChars, importText]; rfl⟩⟩

/-! ## Tables -/

/-- An entry as it is written: its key, and the text of its value. -/
def writtenEntry (entry : String × Expr) : String × String := (entry.1, entry.2.text)

/-- The line of a written entry. -/
def entryChars (p : String × String) : List Char :=
  "  ".toList ++ ((quote p.1).toList ++ (": ".toList ++ (p.2.toList ++ ",\n".toList)))

/-- What stands between the braces of a table. -/
def tableChars : List (String × String) → List Char
  | [] => []
  | p :: rest => '\n' :: (p :: rest).flatMap entryChars

theorem toList_tableText (name : String) (entries : List (String × Expr)) :
    (tableText name entries).toList =
      ("var " ++ name ++ " = \x7b").toList
        ++ (tableChars (entries.map writtenEntry) ++ "\x7d;\n".toList) := by
  have hentry : ∀ entry, (entryText entry).toList = entryChars (writtenEntry entry) := by
    intro entry
    simp [entryText, entryChars, writtenEntry]
  cases entries with
  | nil => simp [tableText, tableChars]
  | cons entry rest => simp [tableText, tableChars, List.flatMap_map, hentry]

/-- An entry whose value is on one line ends where the line ends. -/
theorem entryChars_append_inj {p q : String × String} (hp : OneLine p.2.toList)
    (hq : OneLine q.2.toList) {u w : List Char} (h : entryChars p ++ u = entryChars q ++ w) :
    p = q ∧ u = w := by
  obtain ⟨key, text⟩ := p
  obtain ⟨key', text'⟩ := q
  simp only [entryChars, List.append_assoc] at h
  obtain ⟨rfl, hrest⟩ := Json.quote_append_inj (List.append_cancel_left h)
  have hlines : (text.toList ++ [',']) ++ '\n' :: u = (text'.toList ++ [',']) ++ '\n' :: w := by
    simpa using List.append_cancel_left hrest
  have hcomma : '\n' ∉ [','] := by decide
  obtain ⟨hline, hend⟩ := append_cons_inj (by simp [hp.not_mem_newline, hcomma])
    (by simp [hq.not_mem_newline, hcomma]) hlines
  have htext : text = text' := String.toList_inj.1 (List.append_cancel_right hline)
  exact ⟨by rw [htext], hend⟩

theorem entryChars_first (p : String × String) : ∃ more, entryChars p = ' ' :: more :=
  ⟨_, by simp [entryChars]; rfl⟩

/-- **A table can be told from what follows it**, if each of its values is on one line. -/
theorem tableChars_append_inj {ps qs : List (String × String)} (hps : ∀ p ∈ ps, OneLine p.2.toList)
    (hqs : ∀ q ∈ qs, OneLine q.2.toList) {u w : List Char}
    (h : tableChars ps ++ '}' :: u = tableChars qs ++ '}' :: w) : ps = qs ∧ u = w := by
  have hentries : ∀ p ∈ ps, ∀ q ∈ qs, ∀ u w, entryChars p ++ u = entryChars q ++ w →
      p = q ∧ u = w :=
    fun p hp q hq u w => entryChars_append_inj (hps p hp) (hqs q hq)
  cases ps with
  | nil =>
      cases qs with
      | nil => simpa [tableChars] using h
      | cons q rest => simp [tableChars] at h
  | cons p rest =>
      cases qs with
      | nil => simp [tableChars] at h
      | cons q more =>
          simp only [tableChars, List.cons_append, List.cons.injEq, true_and] at h
          exact flatMap_append_inj entryChars_first (by decide) hentries h

/-! ## The whole text -/

namespace Configuration

/-- The texts of the plugins' data. -/
def dataTexts (c : Configuration) : List String := c.plugins.entries.map (·.2.config.text)

/-- The source texts of the plugins' rules. -/
def ruleSources (c : Configuration) : List String := c.plugins.entries.map (·.2.rule.source)

/-- The entries of the three tables as they are written. -/
def writtenData (c : Configuration) : List (String × String) := c.plugins.names.zip c.dataTexts

def writtenRules (c : Configuration) : List (String × String) := c.plugins.names.zip c.ruleSources

def writtenMappings (c : Configuration) : List (String × String) :=
  c.plugins.names.map fun name => (name, normalizeName name)

/-- What opens a table. -/
def tableHead (name : String) : List Char := ("var " ++ name ++ " = \x7b").toList

/-- The text from the end of the data to the start of the runtime. -/
def middleChars (c : Configuration) : List Char :=
  ";\n".toList ++ (tableHead ruleTable ++ (tableChars c.writtenRules ++ ("\x7d;\n".toList
    ++ (tableHead mappingTable ++ (tableChars c.writtenMappings ++ ("\x7d;\n\n".toList
    ++ ("var " ++ stateContainer ++ " = " ++ emptyObject ++ ";\n").toList))))))

/-- The text of a script in the order in which it is read. -/
theorem toList_script (c : Configuration) (style : ImportStyle) :
    (c.script style).toList =
      (importText style runtimeBinding runtimeModule (.named runtimeExport)).toList
        ++ (c.plugins.names.flatMap (importChars style)
        ++ '\n' :: (tableHead configTable
        ++ (tableChars c.writtenData
        ++ '}' :: (c.middleChars ++ c.initialization.text.toList)))) := by
  have hdata : (c.plugins.entries.map fun p => (p.1, Expr.json p.2.config)).map writtenEntry =
      c.writtenData := by
    simp [writtenData, dataTexts, PluginTable.names, Keyed.keys, List.zip_map', writtenEntry,
      Expr.text]
  have hrules : (c.plugins.entries.map fun p => (p.1, Expr.raw p.2.rule.source)).map writtenEntry =
      c.writtenRules := by
    simp [writtenRules, ruleSources, PluginTable.names, Keyed.keys, List.zip_map', writtenEntry,
      Expr.text]
  have hmappings : (c.plugins.names.map fun name => (name, Expr.ident (normalizeName name))).map
      writtenEntry = c.writtenMappings := by
    simp [writtenMappings, writtenEntry, Expr.text]
  have himports : (c.plugins.names.flatMap fun name =>
      (importText style (normalizeName name) name .default).toList) =
      c.plugins.names.flatMap (importChars style) := rfl
  simp [script, program, Program.render, Program.push, Program.empty, importBlock, tableBlock,
    startBlock, blockText, Statement.text, toList_tableText, hdata, hrules, hmappings, tableHead,
    middleChars, Expr.text, List.flatMap_map, himports]

/-! ### Reading the parts -/

variable {c d : Configuration}

theorem isIdentifier_of_check (h : c.check = .ok ()) :
    ∀ name ∈ c.plugins.names, isIdentifier (normalizeName name) = true := by
  intro name hname
  obtain ⟨p, hp, rfl⟩ := List.mem_map.1 hname
  exact ((check_eq_ok_iff c).1 h).legal p hp

theorem oneLine_writtenData (c : Configuration) : ∀ p ∈ c.writtenData, OneLine p.2.toList := by
  intro p hp
  obtain ⟨q, -, hq⟩ := List.mem_map.1 (List.of_mem_zip hp).2
  rw [← hq]
  exact Json.oneLine_chars q.2.config

/-- The names and the texts of the data can be taken apart again. -/
theorem eq_of_writtenData_eq (h : c.writtenData = d.writtenData) : c.dataTexts = d.dataTexts := by
  have hlength (c : Configuration) : c.dataTexts.length ≤ c.plugins.names.length := by
    simp [dataTexts, PluginTable.names, Keyed.keys]
  rw [← List.map_snd_zip (hlength c), ← List.map_snd_zip (hlength d)]
  exact congrArg (List.map Prod.snd) h

/-- Scripts of one text have the same plugins with the same data. -/
theorem names_and_data_of_script_eq {style : ImportStyle} (hc : c.check = .ok ())
    (hd : d.check = .ok ()) (h : c.script style = d.script style) :
    c.plugins.names = d.plugins.names ∧ c.writtenData = d.writtenData ∧
      c.middleChars ++ c.initialization.text.toList =
        d.middleChars ++ d.initialization.text.toList := by
  have htext := congrArg String.toList h
  rw [toList_script, toList_script] at htext
  have himports : ∀ a ∈ c.plugins.names, ∀ b ∈ d.plugins.names, ∀ u w,
      importChars style a ++ u = importChars style b ++ w → a = b ∧ u = w :=
    fun a ha b hb u w =>
      importChars_append_inj (isIdentifier_of_check hc a ha) (isIdentifier_of_check hd b hb)
  obtain ⟨first, hstop, hfirst⟩ := importChars_first style
  obtain ⟨hnames, htables⟩ :=
    flatMap_append_inj hfirst hstop himports (List.append_cancel_left htext)
  obtain ⟨hdata, hrest⟩ := tableChars_append_inj (oneLine_writtenData c) (oneLine_writtenData d)
    (List.append_cancel_left htables)
  exact ⟨hnames, hdata, hrest⟩

/-- The start of the runtime tells the hook. -/
theorem hook_of_text_eq (h : c.initialization.text = d.initialization.text) :
    c.hook? = d.hook? := by
  have hchars := congrArg String.toList h
  unfold initialization at hchars
  cases hc : c.hook? with
  | none =>
      cases hd : d.hook? with
      | none => rfl
      | some hook =>
          simp [hc, hd, Initialization.text, InitializeCall.text, initializeCall,
            runtimeBinding] at hchars
  | some hook =>
      cases hd : d.hook? with
      | none =>
          simp [hc, hd, Initialization.text, InitializeCall.text, initializeCall,
            runtimeBinding] at hchars
      | some hook' =>
          simp only [hc, hd, Initialization.text, String.toList_append, List.append_assoc,
            List.append_cancel_left_eq, List.append_cancel_right_eq] at hchars
          rw [String.toList_inj.1 hchars]

theorem middleChars_congr (hnames : c.plugins.names = d.plugins.names)
    (hrules : c.ruleSources = d.ruleSources) : c.middleChars = d.middleChars := by
  simp only [middleChars, writtenRules, writtenMappings, hnames, hrules]

/-- Nothing but the names, the data, the rules and the hook goes into the text. -/
theorem script_congr (style : ImportStyle) (hnames : c.plugins.names = d.plugins.names)
    (hdata : c.dataTexts = d.dataTexts) (hrules : c.ruleSources = d.ruleSources)
    (hhook : c.hook? = d.hook?) : c.script style = d.script style := by
  have hstart : c.initialization = d.initialization := by
    unfold initialization
    rw [hhook]
  rw [← String.toList_inj, toList_script, toList_script, middleChars_congr hnames hrules, hstart]
  simp only [writtenData, hnames, hdata]

/-- **What an entry script encodes.**  Accepted configurations with the same script have the same
plugin names in the same order with the same texts of data, whatever their rules and hooks are, and
if their rules have the same sources too then their hooks are the same.  Conversely the script
depends on nothing else. -/
theorem script_eq_encodes (style : ImportStyle) (c d : Configuration) :
    (c.check = .ok () → d.check = .ok () → c.script style = d.script style →
        c.plugins.names = d.plugins.names ∧ c.dataTexts = d.dataTexts ∧
          (c.ruleSources = d.ruleSources → c.hook? = d.hook?)) ∧
      (c.plugins.names = d.plugins.names → c.dataTexts = d.dataTexts →
        c.ruleSources = d.ruleSources → c.hook? = d.hook? → c.script style = d.script style) := by
  refine ⟨?_, script_congr style⟩
  intro hc hd h
  obtain ⟨hnames, hdata, hrest⟩ := names_and_data_of_script_eq hc hd h
  refine ⟨hnames, eq_of_writtenData_eq hdata, fun hrules => ?_⟩
  rw [middleChars_congr hnames hrules] at hrest
  exact hook_of_text_eq (String.toList_inj.1 (List.append_cancel_left hrest))

/-- Data that looks like the end of its table, a rule of two lines, and a hook between blanks: the
script of the one configuration is that of the other, and tells what both hold. -/
theorem script_eq_of_hostile_data :
    let entry : PluginEntry := ⟨.string "\",\n\x7d;\n", .expression "a &&\nb"⟩
    let plugins : PluginTable := .ofList [("my-plugin/example", entry)]
    let c : Configuration :=
      { Configuration.empty with
        debug := true, plugins := plugins, onBeforeInitialize := some " start\n" }
    let d : Configuration :=
      { Configuration.empty with
        outputPath := some ⟨"build"⟩, plugins := plugins, onBeforeInitialize := some "start" }
    c.check = .ok () ∧ d.check = .ok () ∧ c.script .esm = d.script .esm ∧
      c.plugins.names = d.plugins.names ∧ c.hook? = d.hook? := by
  intro entry plugins c d
  have hplugins : Acceptable plugins.entries :=
    ⟨by decide, by decide, by decide +kernel, by decide⟩
  have hc : c.check = .ok () := (check_eq_ok_iff c).2 hplugins
  have hd : d.check = .ok () := (check_eq_ok_iff d).2 hplugins
  obtain ⟨htells, hdepends⟩ := script_eq_encodes .esm c d
  have hscript := hdepends rfl rfl rfl (by decide)
  obtain ⟨hnames, -, hhook⟩ := htells hc hd hscript
  exact ⟨hc, hd, hscript, hnames, hhook rfl⟩

end Configuration

end PluginBundle
