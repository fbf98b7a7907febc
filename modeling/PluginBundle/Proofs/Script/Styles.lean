import Mathlib.Data.List.Basic
import PluginBundle.Proofs.Script.Separators

/-!
# What the import style decides

A script is written block by block and statement by statement, and its style shows in the imports
and nowhere else.  This module reads the imports back from the lines of a script, in either style,
and compares the two scripts of one configuration.

* `render_push` and `endsLine_text` – a block more is its text more, in lines of its own.
* `text_eq_of_not_import` – all other statements are written in the same way in both styles.
* `readImport?_importLine` – the line of an import tells the variable, the export and the literal of
  the module.  It covers the short form of an import whose variable has the name of the export, which
  no configuration leads to.
* `rendering_is_compositional` – the law of programs and of the scripts of accepted configurations.

The literal of a module may hold any text; that it stays on its line is said by `oneLine_quote`.
Blank lines behind the first one may stem from rules and are not looked at.
-/

namespace PluginBundle

open Json (quote OneLine)

/-! ## Blocks and statements -/

/-- A program of one block is written as the block. -/
theorem render_block (style : ImportStyle) (block : List Statement) :
    (Program.empty.push block).render style = blockText style block := by
  simp [Program.render, Program.push, Program.empty]

/-- Behind a program that has blocks, one more is written after an empty line. -/
theorem render_push (style : ImportStyle) (p : Program) (block : List Statement) :
    (p.push block).render style =
      p.render style ++ (if p.blocks.isEmpty then "" else "\n")
        ++ (Program.empty.push block).render style := by
  rw [render_block]
  unfold Program.render Program.push
  cases hblocks : p.blocks with
  | nil => simp
  | cons first rest =>
      have hsome : (first :: rest).map (blockText style) ≠ [] := by simp
      have hlast : [blockText style block] ≠ [] := by simp
      rw [List.map_append, List.map_singleton, String.intercalate_append_of_ne_nil hsome hlast]
      simp

/-- A text that ends its last line. -/
def EndsLine (text : String) : Prop := ∃ line, text = line ++ "\n"

theorem EndsLine.append {text : String} (h : EndsLine text) (front : String) :
    EndsLine (front ++ text) := by
  obtain ⟨line, rfl⟩ := h
  exact ⟨front ++ line, by rw [String.append_assoc]⟩

theorem endsLine_semicolon (front : String) : EndsLine (front ++ ";\n") :=
  EndsLine.append ⟨";", rfl⟩ front

theorem endsLine_importText (style : ImportStyle) (binding module : String) (exported : Export) :
    EndsLine (importText style binding module exported) := by
  cases exported with
  | default =>
      cases style with
      | commonJs => exact EndsLine.append ⟨").default;", rfl⟩ _
      | esm => exact endsLine_semicolon _
  | named name => cases style <;> exact endsLine_semicolon _

/-- Every statement ends its last line. -/
theorem endsLine_text (style : ImportStyle) (s : Statement) : EndsLine (s.text style) := by
  cases s with
  | importModule binding module exported => exact endsLine_importText style binding module exported
  | declare name value => exact endsLine_semicolon _
  | table name entries =>
      simp only [Statement.text, tableText]
      split
      · exact EndsLine.append ⟨" = \x7b\x7d;", rfl⟩ _
      · exact EndsLine.append ⟨"\x7d;", rfl⟩ _
  | start how =>
      cases how with
      | immediate call => exact endsLine_semicolon _
      | deferred hook hookArgs call => exact EndsLine.append ⟨"\x7d);", rfl⟩ _

/-- A statement that imports a module. -/
def Statement.isImport : Statement → Bool
  | .importModule _ _ _ => true
  | .declare _ _ => false
  | .table _ _ => false
  | .start _ => false

/-- The style decides the text of imports only. -/
theorem text_eq_of_not_import {s : Statement} (h : s.isImport = false) (style style' : ImportStyle) :
    s.text style = s.text style' := by
  cases s with
  | importModule binding module exported => cases h
  | declare name value => rfl
  | table name entries => rfl
  | start how => rfl

/-! ## Reading an import -/

/-- What a line imports: the variable, the name of the export, and the literal of the module. -/
structure Import where
  binding : String
  exported : String
  literal : String
  deriving DecidableEq, Repr

/-- The name of an export.  A module has its default export under a name, too. -/
def Export.name : Export → String
  | .default => "default"
  | .named name => name

/-- The text behind a beginning that it must have. -/
def behind? (front : String) (cs : List Char) : Option (List Char) := front.toList.isPrefixOf? cs

/-- A name, and the text behind it. -/
def spanName (cs : List Char) : String × List Char :=
  (String.ofList (cs.takeWhile isNamePart), cs.dropWhile isNamePart)

/-- A string literal as it is written, and the text behind it. -/
def spanLiteral? (cs : List Char) : Option (String × List Char) :=
  match behind? "\"" cs with
  | none => none
  | some inside =>
      match Json.readString 0 inside with
      | .error _ => none
      | .ok (_, rest) => some (String.ofList (cs.take (cs.length - rest.length)), rest)

/-- The export and the variable between `import` and `from`. -/
def spanNames? (cs : List Char) : Option ((String × String) × List Char) :=
  match behind? "\x7b " cs with
  | none =>
      let (binding, rest) := spanName cs
      some (("default", binding), rest)
  | some inside =>
      let (exported, rest) := spanName inside
      match behind? " as " rest with
      | none => (behind? " \x7d" rest).map fun rest => ((exported, exported), rest)
      | some renamed =>
          let (binding, rest) := spanName renamed
          (behind? " \x7d" rest).map fun rest => ((exported, binding), rest)

/-- Reads the line of an import. -/
def readImport? (style : ImportStyle) (line : List Char) : Option Import :=
  match style with
  | .commonJs => do
      let (binding, cs) := spanName (← behind? "var " line)
      let (literal, cs) ← spanLiteral? (← behind? " = require(" cs)
      let (exported, cs) := spanName (← behind? ")." cs)
      if cs = [';'] then some ⟨binding, exported, literal⟩ else none
  | .esm => do
      let ((exported, binding), cs) ← spanNames? (← behind? "import " line)
      let (literal, cs) ← spanLiteral? (← behind? " from " cs)
      if cs = [';'] then some ⟨binding, exported, literal⟩ else none

@[simp] theorem behind?_append (front : String) (cs : List Char) :
    behind? front (front.toList ++ cs) = some cs :=
  List.isPrefixOf?_eq_some_iff_append_eq.2 rfl

/-- A name ends in front of a character that belongs to no name. -/
theorem spanName_append {name : String} (hname : ∀ c ∈ name.toList, isNamePart c = true) {stop : Char}
    (hstop : isNamePart stop = false) (rest : List Char) :
    spanName (name.toList ++ stop :: rest) = (name, stop :: rest) := by
  have htake : (name.toList ++ stop :: rest).takeWhile isNamePart = name.toList := by
    rw [List.takeWhile_append_of_pos hname, List.takeWhile_cons, hstop]
    simp
  have hdrop : (name.toList ++ stop :: rest).dropWhile isNamePart = stop :: rest := by
    rw [List.dropWhile_append_of_pos hname, List.dropWhile_cons, hstop]
    simp
  rw [spanName, htake, hdrop, String.ofList_toList]

/-- A literal ends with its own quote. -/
theorem spanLiteral?_quote (module : String) (rest : List Char) :
    spanLiteral? ((quote module).toList ++ rest) = some (quote module, rest) := by
  have hinside : behind? "\"" ((quote module).toList ++ rest) =
      some (((quote module).toList ++ rest).drop 1) := by
    rw [Json.toList_quote]
    exact behind?_append "\"" _
  have hlength : ((quote module).toList ++ rest).length - rest.length =
      (quote module).toList.length := by
    rw [List.length_append]
    omega
  simp only [spanLiteral?, hinside, Json.readString_quote, hlength, List.take_left',
    String.ofList_toList]

/-- The line of an import, without its end. -/
def importLine (style : ImportStyle) (binding module : String) (exported : Export) : List Char :=
  (importText style binding module exported).toList.dropLast

theorem toList_importText (style : ImportStyle) (binding module : String) (exported : Export) :
    (importText style binding module exported).toList =
      importLine style binding module exported ++ ['\n'] := by
  obtain ⟨line, hline⟩ := endsLine_importText style binding module exported
  simp [importLine, hline]

/-- The line that binds a default export. -/
theorem importLine_default (style : ImportStyle) (binding module : String) :
    importLine style binding module .default =
      match style with
      | .commonJs =>
          "var ".toList ++ (binding.toList ++ (" = require(".toList ++ ((quote module).toList
            ++ (").".toList ++ ("default".toList ++ [';'])))))
      | .esm =>
          "import ".toList ++ (binding.toList ++ (" from ".toList ++ ((quote module).toList
            ++ [';']))) := by
  rw [← List.append_left_inj ['\n'], ← toList_importText style binding module .default]
  cases style <;> simp [importText]

/-- The line that binds a named export. -/
theorem importLine_named (style : ImportStyle) (binding module name : String) :
    importLine style binding module (.named name) =
      match style with
      | .commonJs =>
          "var ".toList ++ (binding.toList ++ (" = require(".toList ++ ((quote module).toList
            ++ (").".toList ++ (name.toList ++ [';'])))))
      | .esm =>
          "import ".toList ++ ("\x7b ".toList
            ++ ((if name = binding then name else name ++ " as " ++ binding).toList
            ++ (" \x7d".toList ++ (" from ".toList ++ ((quote module).toList ++ [';']))))) := by
  rw [← List.append_left_inj ['\n'], ← toList_importText style binding module (.named name)]
  cases style <;> simp [importText]

/-- All characters are those of names. -/
def Named (name : String) : Prop := ∀ c ∈ name.toList, isNamePart c = true

theorem Named.not_mem {name : String} (h : Named name) {c : Char} (hc : isNamePart c = false) :
    c ∉ name.toList := by
  intro hmem
  rw [h c hmem] at hc
  cases hc

theorem named_of_isIdentifier {name : String} (h : isIdentifier name = true) : Named name :=
  (isNamePart_of_isIdentifier h).2

/-- ASCII letters and digits, low lines and dollars make a name. -/
theorem named_of_ascii {name : String}
    (h : (name.toList.all fun c =>
      c.toNat < 0x80 && (c.isAlphanum || c == '_' || c == '$')) = true) : Named name := by
  intro c hc
  obtain ⟨hascii, hpart⟩ := Bool.and_eq_true_iff.1 (List.all_eq_true.1 h c hc)
  rwa [isNamePart_of_ascii (of_decide_eq_true hascii)]

/-- A variable does not start like names between braces. -/
theorem behind?_brace_eq_none {binding : String} (h : Named binding) (rest : List Char) :
    behind? "\x7b " (binding.toList ++ ' ' :: rest) = none := by
  have hbrace : isNamePart '{' = false := isNamePart_of_ascii (by decide)
  cases hchars : binding.toList with
  | nil => rfl
  | cons first more =>
      have hfirst : first ≠ '{' := by
        rintro rfl
        exact h.not_mem hbrace (hchars ▸ List.mem_cons_self)
      simp [behind?, List.isPrefixOf?, Ne.symm hfirst]

/-- What stands between `import` and `from` is read as the export and the variable. -/
theorem spanNames?_default {binding : String} (h : Named binding) (rest : List Char) :
    spanNames? (binding.toList ++ ' ' :: rest) = some (("default", binding), ' ' :: rest) := by
  have hblank : isNamePart ' ' = false := isNamePart_of_ascii (by decide)
  simp only [spanNames?, behind?_brace_eq_none h, spanName_append h hblank]

theorem spanNames?_named {name binding : String} (hname : Named name) (hbinding : Named binding)
    (rest : List Char) :
    spanNames? ("\x7b ".toList ++ ((if name = binding then name else name ++ " as " ++ binding).toList
        ++ (" \x7d".toList ++ rest))) = some ((name, binding), rest) := by
  have hblank : isNamePart ' ' = false := isNamePart_of_ascii (by decide)
  by_cases hsame : name = binding
  · obtain rfl := hsame
    have hspan : spanName (name.toList ++ (" \x7d".toList ++ rest)) =
        (name, " \x7d".toList ++ rest) := spanName_append hname hblank _
    have hshort : behind? " as " (" \x7d".toList ++ rest) = none := rfl
    simp only [spanNames?, behind?_append, if_true, hspan, hshort, Option.map_some]
  · have htext : (name ++ " as " ++ binding).toList ++ (" \x7d".toList ++ rest) =
        name.toList ++ (" as ".toList ++ (binding.toList ++ (" \x7d".toList ++ rest))) := by
      simp
    have hexported : spanName (name.toList ++ (" as ".toList ++ (binding.toList
        ++ (" \x7d".toList ++ rest)))) =
          (name, " as ".toList ++ (binding.toList ++ (" \x7d".toList ++ rest))) :=
      spanName_append hname hblank _
    have hrenamed : spanName (binding.toList ++ (" \x7d".toList ++ rest)) =
        (binding, " \x7d".toList ++ rest) := spanName_append hbinding hblank _
    simp only [spanNames?, behind?_append, if_neg hsame, htext, hexported, hrenamed,
      Option.map_some]

/-- **What is read off the line of an import** is what the import says, in either style. -/
theorem readImport?_importLine (style : ImportStyle) {binding : String} (hbinding : Named binding)
    (module : String) {exported : Export} (hexported : Named exported.name) :
    readImport? style (importLine style binding module exported) =
      some ⟨binding, exported.name, quote module⟩ := by
  have hblank : isNamePart ' ' = false := isNamePart_of_ascii (by decide)
  have hsemicolon : isNamePart ';' = false := isNamePart_of_ascii (by decide)
  cases style with
  | commonJs =>
      have hline : importLine .commonJs binding module exported =
          "var ".toList ++ (binding.toList ++ (" = require(".toList ++ ((quote module).toList
            ++ (").".toList ++ (exported.name.toList ++ [';']))))) := by
        cases exported with
        | default => exact importLine_default .commonJs binding module
        | named name => exact importLine_named .commonJs binding module name
      have hvariable (rest : List Char) : spanName (binding.toList ++ (" = require(".toList ++ rest)) =
          (binding, " = require(".toList ++ rest) := spanName_append hbinding hblank _
      have hname : spanName (exported.name.toList ++ [';']) = (exported.name, [';']) :=
        spanName_append hexported hsemicolon []
      simp only [readImport?, hline, behind?_append, hvariable, spanLiteral?_quote, hname,
        Option.bind_eq_bind, Option.bind_some, if_true]
  | esm =>
      cases exported with
      | default =>
          have hnames (rest : List Char) : spanNames? (binding.toList ++ (" from ".toList ++ rest)) =
              some (("default", binding), " from ".toList ++ rest) := spanNames?_default hbinding _
          simp only [readImport?, importLine_default, behind?_append, hnames, spanLiteral?_quote,
            Option.bind_eq_bind, Option.bind_some, if_true, Export.name]
      | named name =>
          have hname : Named name := hexported
          simp only [readImport?, importLine_named, behind?_append,
            spanNames?_named hname hbinding, spanLiteral?_quote, Option.bind_eq_bind,
            Option.bind_some, if_true, Export.name]

/-- The line of an import is one line, whatever the module is called. -/
theorem newline_not_mem_importLine (style : ImportStyle) {binding : String}
    (hbinding : Named binding) (module : String) {exported : Export}
    (hexported : Named exported.name) :
    '\n' ∉ importLine style binding module exported := by
  have hend : isNamePart '\n' = false := isNamePart_of_ascii (by decide)
  have hvariable := hbinding.not_mem hend
  have hmodule := (Json.oneLine_quote module).not_mem_newline
  have hname := hexported.not_mem hend
  cases exported with
  | default => cases style <;> simp [importLine_default, hvariable, hmodule]
  | named name =>
      have hnames : '\n' ∉ (if name = binding then name else name ++ " as " ++ binding).toList := by
        split
        · exact hname
        · simp [hvariable, show '\n' ∉ name.toList from hname]
      have hname : '\n' ∉ name.toList := hname
      cases style <;> simp [importLine_named, hvariable, hmodule, hname, hnames]

theorem importLine_ne_nil (style : ImportStyle) (binding module : String) (exported : Export) :
    importLine style binding module exported ≠ [] := by
  cases exported with
  | default => cases style <;> simp [importLine_default]
  | named name => cases style <;> simp [importLine_named]

/-! ## The lines of a script -/

/-- Lines that are ended are split off again. -/
theorem splitOn_lines {lines : List (List Char)} (hlines : ∀ line ∈ lines, '\n' ∉ line)
    (rest : List Char) :
    (lines.flatMap (· ++ ['\n']) ++ rest).splitOn '\n' = lines ++ rest.splitOn '\n' := by
  induction lines with
  | nil => rfl
  | cons line more ih =>
      obtain ⟨hline, hmore⟩ := List.forall_mem_cons.1 hlines
      have hinside : ∀ c ∈ line, (c == '\n') = false := by
        intro c hc
        rw [beq_eq_false_iff_ne]
        rintro rfl
        exact hline hc
      have hsplit := List.splitOnP_append_cons_of_forall_mem hinside '\n' (by simp)
        (more.flatMap (· ++ ['\n']) ++ rest)
      have hshape : (line :: more).flatMap (· ++ ['\n']) ++ rest =
          line ++ '\n' :: (more.flatMap (· ++ ['\n']) ++ rest) := by simp
      rw [hshape, List.cons_append, ← ih hmore]
      exact hsplit

/-- The lines in front of the first blank one, and those from it on. -/
theorem blank_behind {lines : List (List Char)} (rest : List (List Char))
    (hlines : ∀ line ∈ lines, line ≠ []) :
    (lines ++ [] :: rest).takeWhile (· ≠ []) = lines ∧
      (lines ++ [] :: rest).dropWhile (· ≠ []) = [] :: rest := by
  have hfull : ∀ line ∈ lines, decide (line ≠ []) = true := by simpa using hlines
  constructor
  · rw [List.takeWhile_append_of_pos hfull]
    simp
  · rw [List.dropWhile_append_of_pos hfull]
    simp

namespace Configuration

variable {c : Configuration}

/-- What the script of a configuration imports: the runtime, and the plugins in their order. -/
def imports (c : Configuration) : List Import :=
  ⟨runtimeBinding, runtimeExport, quote runtimeModule⟩
    :: c.plugins.names.map fun name => ⟨normalizeName name, Export.default.name, quote name⟩

/-- The lines of these imports. -/
def importLines (c : Configuration) (style : ImportStyle) : List (List Char) :=
  importLine style runtimeBinding runtimeModule (.named runtimeExport)
    :: c.plugins.names.map fun name => importLine style (normalizeName name) name .default

/-- The text behind the imports and the blank line, the same in either style. -/
def behindImports (c : Configuration) : List Char :=
  tableHead configTable ++ (tableChars c.writtenData
    ++ '}' :: (c.middleChars ++ c.initialization.text.toList))

/-- A script is the lines of its imports, a blank line, and the rest. -/
theorem toList_script_eq_lines (c : Configuration) (style : ImportStyle) :
    (c.script style).toList =
      (c.importLines style).flatMap (· ++ ['\n']) ++ '\n' :: c.behindImports := by
  have hplugins : c.plugins.names.flatMap (importChars style) =
      (c.plugins.names.map fun name =>
        importLine style (normalizeName name) name .default).flatMap (· ++ ['\n']) := by
    rw [List.flatMap_map]
    exact List.flatMap_congr fun name _ => toList_importText style (normalizeName name) name .default
  rw [toList_script, toList_importText, hplugins]
  simp [importLines, behindImports]

theorem named_runtime : Named runtimeBinding ∧ Named runtimeExport :=
  ⟨named_of_ascii (by decide), named_of_ascii (by decide)⟩

theorem named_default : Named Export.default.name := named_of_ascii (by decide)

/-- The variables of accepted plugins are names. -/
theorem named_normalizeName (hcheck : c.check = .ok ()) :
    ∀ name ∈ c.plugins.names, Named (normalizeName name) :=
  fun name hname => named_of_isIdentifier (isIdentifier_of_check hcheck name hname)

/-- No import of an accepted configuration makes more than one line, or a blank one. -/
theorem importLines_whole (hcheck : c.check = .ok ()) (style : ImportStyle) :
    ∀ line ∈ c.importLines style, line ≠ [] ∧ '\n' ∉ line := by
  obtain ⟨hbinding, hexport⟩ := named_runtime
  refine List.forall_mem_cons.2 ⟨⟨importLine_ne_nil _ _ _ _, ?_⟩, List.forall_mem_map.2 ?_⟩
  · have hruntime : Named (Export.named runtimeExport).name := hexport
    exact newline_not_mem_importLine style hbinding runtimeModule hruntime
  · intro name hname
    exact ⟨importLine_ne_nil _ _ _ _,
      newline_not_mem_importLine style (named_normalizeName hcheck name hname) name named_default⟩

/-- The imports of an accepted configuration are read off their lines. -/
theorem readImport?_importLines (hcheck : c.check = .ok ()) (style : ImportStyle) :
    (c.importLines style).map (readImport? style) = c.imports.map some := by
  obtain ⟨hbinding, hexport⟩ := named_runtime
  have hruntime : readImport? style
      (importLine style runtimeBinding runtimeModule (.named runtimeExport)) =
        some ⟨runtimeBinding, runtimeExport, quote runtimeModule⟩ :=
    readImport?_importLine style hbinding runtimeModule
      (show Named (Export.named runtimeExport).name from hexport)
  have hplugins : ∀ name ∈ c.plugins.names,
      readImport? style (importLine style (normalizeName name) name .default) =
        some ⟨normalizeName name, Export.default.name, quote name⟩ :=
    fun name hname => readImport?_importLine style (named_normalizeName hcheck name hname) name
      named_default
  rw [importLines, imports, List.map_cons, List.map_cons, hruntime, List.map_map, List.map_map]
  exact congrArg (some _ :: ·) (List.map_congr_left hplugins)

end Configuration

/-- **Rendering is compositional, and the style decides the imports only.**  A block more adds its
own text behind an empty line, and the text of a block is that of its statements, each of which ends
its last line.  Statements other than imports are written in the same way in both styles.  The script
of an accepted configuration has the same imports in both styles, each on a line of its own, in front
of its first blank line, and the same text from that line on. -/
theorem rendering_is_compositional :
    (∀ (style : ImportStyle) (p : Program) (block : List Statement),
      (p.push block).render style =
          p.render style ++ (if p.blocks.isEmpty then "" else "\n")
            ++ (Program.empty.push block).render style ∧
        (Program.empty.push block).render style = String.join (block.map (·.text style)) ∧
        ∀ s ∈ block, EndsLine (s.text style)) ∧
      (∀ s : Statement, s.isImport = false → ∀ style style', s.text style = s.text style') ∧
      ∀ c : Configuration, c.check = .ok () → ∃ rest : List Char, ∀ style,
        let lines := (c.script style).toList.splitOn '\n'
        (lines.takeWhile (· ≠ [])).map (readImport? style) = c.imports.map some ∧
          lines.dropWhile (· ≠ []) = [] :: rest.splitOn '\n' := by
  refine ⟨fun style p block => ?_, fun s => text_eq_of_not_import, fun c hcheck => ?_⟩
  · exact ⟨render_push style p block, render_block style block,
      fun s _ => endsLine_text style s⟩
  · refine ⟨c.behindImports, fun style => ?_⟩
    intro lines
    have hwhole := Configuration.importLines_whole hcheck style
    have hlines : lines = c.importLines style ++ [] :: c.behindImports.splitOn '\n' := by
      have hblank : ∀ line ∈ [([] : List Char)], '\n' ∉ line := by simp
      have hrest : ('\n' :: c.behindImports).splitOn '\n' = [] :: c.behindImports.splitOn '\n' :=
        splitOn_lines hblank c.behindImports
      rw [← hrest, ← splitOn_lines fun line hline => (hwhole line hline).2]
      exact congrArg (List.splitOn '\n') (Configuration.toList_script_eq_lines c style)
    obtain ⟨htake, hdrop⟩ := blank_behind (c.behindImports.splitOn '\n')
      fun line hline => (hwhole line hline).1
    rw [hlines, htake, hdrop]
    exact ⟨Configuration.readImport?_importLines hcheck style, rfl⟩

/-- A plugin whose variable is not its name, and a rule that holds a blank line: the scripts in both
styles have two import lines, and the blank line of the rule lies behind the first one.  A block more
is written behind a blank line. -/
theorem imports_beside_rule_with_blank_line :
    let rule := "window.on &&\n\n  true"
    let c : Configuration :=
      { Configuration.empty with
        plugins := .ofList [("my-plugin/x", ⟨.string "a\n\nb", .expression rule⟩)] }
    let note : Statement := .declare "note" (.json (.string rule))
    c.check = .ok () ∧
      (c.program.push [note]).render .esm =
        c.script .esm ++ "\n" ++ (Program.empty.push [note]).render .esm ∧
      EndsLine (note.text .esm) ∧ note.isImport = false ∧ note.text .esm = note.text .commonJs ∧
      ∃ rest : List Char, ∀ style,
        let lines := (c.script style).toList.splitOn '\n'
        (lines.takeWhile (· ≠ [])).map (readImport? style) =
            [some ⟨"__$odl", "odl", "\"opendatalayer\""⟩,
              some ⟨"my_plugin_x", "default", "\"my-plugin/x\""⟩] ∧
          lines.dropWhile (· ≠ []) = [] :: rest.splitOn '\n' := by
  intro rule c note
  have hcheck : c.check = .ok () := by
    rw [check_eq_ok_iff]
    exact ⟨by decide, by decide, by decide +kernel, by decide⟩
  obtain ⟨hblocks, hstyles, hscripts⟩ := rendering_is_compositional
  obtain ⟨hpush, -, hends⟩ := hblocks .esm c.program [note]
  obtain ⟨rest, hrest⟩ := hscripts c hcheck
  have himports : c.imports = [⟨"__$odl", "odl", "\"opendatalayer\""⟩,
      ⟨"my_plugin_x", "default", "\"my-plugin/x\""⟩] := by
    decide +kernel
  refine ⟨hcheck, hpush, hends note List.mem_cons_self, rfl, hstyles note rfl .esm .commonJs,
    rest, fun style => ?_⟩
  have hread := hrest style
  rw [himports] at hread
  exact hread

end PluginBundle
