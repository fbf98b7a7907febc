import PluginBundle.Proofs.Script.Encoding
import PluginBundle.Proofs.Script.Scan

/-!
# The separators behind foreign source text

Rules and the hook are written into a script as they are, and the script goes on behind them with a
separator on the same line.  This module takes the text of a script apart into its pieces: text of
the script's own, and fragments of foreign source with the separator behind them.

The invariant is that a scan of the script meets every fragment with nothing open.  It holds for
the start, and a statement keeps it if its names are plain and its fragments are complete.  A
separator is then swallowed in one case only, which is when the last line of its fragment ends in a
comment: nothing between the fragment and the separator ends that line.

Nothing is claimed of scripts that hold a fragment which is not complete.
-/

namespace PluginBundle

open ScanState

/-! ## Pieces -/

/-- A piece of a script: text of its own, or foreign source and the separator behind it. -/
inductive Piece where
  | own (text : String)
  | fragment (source : String) (separator : Char)
  deriving DecidableEq, Repr

namespace Piece

/-- The text of a piece. -/
def chars : Piece → List Char
  | .own text => text.toList
  | .fragment source separator => source.toList ++ [separator]

/-- The foreign source of a piece, and the separator behind it. -/
def fragment? : Piece → Option (String × Char)
  | .own _ => none
  | .fragment source separator => some (source, separator)

end Piece

/-- The text of pieces one after the other. -/
def pieceChars (ps : List Piece) : List Char := ps.flatMap Piece.chars

@[simp] theorem pieceChars_nil : pieceChars [] = [] := rfl

@[simp] theorem pieceChars_cons (p : Piece) (ps : List Piece) :
    pieceChars (p :: ps) = p.chars ++ pieceChars ps := rfl

@[simp] theorem pieceChars_append (ps qs : List Piece) :
    pieceChars (ps ++ qs) = pieceChars ps ++ pieceChars qs :=
  List.flatMap_append

/-- The foreign source texts among pieces, each with the separator behind it. -/
def fragments (ps : List Piece) : List (String × Char) := ps.filterMap Piece.fragment?

@[simp] theorem fragments_nil : fragments [] = [] := rfl

@[simp] theorem fragments_cons_own (text : String) (ps : List Piece) :
    fragments (.own text :: ps) = fragments ps := rfl

@[simp] theorem fragments_cons_fragment (source : String) (separator : Char) (ps : List Piece) :
    fragments (.fragment source separator :: ps) = (source, separator) :: fragments ps := rfl

@[simp] theorem fragments_append (ps qs : List Piece) :
    fragments (ps ++ qs) = fragments ps ++ fragments qs :=
  List.filterMap_append

@[simp] theorem fragments_flatMap {α : Type} (as : List α) (pieces : α → List Piece) :
    fragments (as.flatMap pieces) = as.flatMap fun a => fragments (pieces a) :=
  List.filterMap_flatMap

theorem pieceChars_flatMap {α : Type} (as : List α) (pieces : α → List Piece) :
    pieceChars (as.flatMap pieces) = as.flatMap fun a => pieceChars (pieces a) :=
  List.flatMap_assoc

theorem pieceChars_intercalate (ps : List Piece) (pss : List (List Piece)) :
    pieceChars (ps.intercalate pss) = (pieceChars ps).intercalate (pss.map pieceChars) := by
  induction pss with
  | nil => rfl
  | cons qs rest ih =>
      cases rest with
      | nil => simp
      | cons rs more => simpa [List.intercalate_cons_cons] using ih

/-! ### The pieces of a program -/

/-- A value, and the separator behind it. -/
def Expr.pieces (separator : Char) : Expr → List Piece
  | .raw source => [.fragment source separator]
  | value => [.own (value.text.push separator)]

/-- The line of a table entry. -/
def entryPieces (entry : String × Expr) : List Piece :=
  .own ("  " ++ Json.quote entry.1 ++ ": ") :: (entry.2.pieces ',' ++ [.own "\n"])

def tablePieces (name : String) (entries : List (String × Expr)) : List Piece :=
  if entries.isEmpty then [.own ("var " ++ name ++ " = \x7b\x7d;\n")]
  else .own ("var " ++ name ++ " = \x7b\n") :: (entries.flatMap entryPieces ++ [.own "\x7d;\n"])

def Initialization.pieces : Initialization → List Piece
  | .immediate call => [.own (call.text ++ ";\n")]
  | .deferred hook hookArgs call =>
      [.own "(", .fragment hook ')',
       .own ("(" ++ ", ".intercalate hookArgs ++ ", function () \x7b\n"
        ++ "  " ++ call.text ++ ";\n" ++ "\x7d);\n")]

def Statement.pieces (style : ImportStyle) : Statement → List Piece
  | .importModule binding module exported => [.own (importText style binding module exported)]
  | .declare name value => .own ("var " ++ name ++ " = ") :: (value.pieces ';' ++ [.own "\n"])
  | .table name entries => tablePieces name entries
  | .start how => how.pieces

def blockPieces (style : ImportStyle) (block : List Statement) : List Piece :=
  block.flatMap (·.pieces style)

/-- The pieces of a program in the order in which they are written. -/
def Program.pieces (style : ImportStyle) (p : Program) : List Piece :=
  [.own "\n"].intercalate (p.blocks.map (blockPieces style))

theorem pieceChars_expr (separator : Char) (value : Expr) :
    pieceChars (value.pieces separator) = value.text.toList ++ [separator] := by
  cases value <;> simp [Expr.pieces, Piece.chars, Expr.text]

theorem pieceChars_entry (entry : String × Expr) :
    pieceChars (entryPieces entry) = (entryText entry).toList := by
  simp [entryPieces, entryText, pieceChars_expr, Piece.chars]

theorem pieceChars_table (name : String) (entries : List (String × Expr)) :
    pieceChars (tablePieces name entries) = (tableText name entries).toList := by
  cases entries with
  | nil => simp [tablePieces, tableText, Piece.chars]
  | cons entry rest =>
      have hentries : pieceChars ((entry :: rest).flatMap entryPieces) =
          (String.join ((entry :: rest).map entryText)).toList := by
        simp [pieceChars_flatMap, pieceChars_entry, List.flatMap_map]
      simp only [tablePieces, tableText, List.isEmpty_cons, Bool.false_eq_true, if_false,
        pieceChars_cons, pieceChars_append, hentries, Piece.chars, pieceChars_nil, List.append_nil,
        String.toList_append, List.append_assoc]

theorem pieceChars_statement (style : ImportStyle) (s : Statement) :
    pieceChars (s.pieces style) = (s.text style).toList := by
  cases s with
  | importModule binding module exported => simp [Statement.pieces, Statement.text, Piece.chars]
  | declare name value => simp [Statement.pieces, Statement.text, pieceChars_expr, Piece.chars]
  | table name entries => exact pieceChars_table name entries
  | start how =>
      cases how <;>
        simp [Statement.pieces, Statement.text, Initialization.pieces, Initialization.text,
          Piece.chars]

/-- The pieces of a program make up its text. -/
theorem toList_render (style : ImportStyle) (p : Program) :
    (p.render style).toList = pieceChars (p.pieces style) := by
  have hblock (block : List Statement) :
      pieceChars (blockPieces style block) = (blockText style block).toList := by
    simp [blockPieces, blockText, pieceChars_flatMap, pieceChars_statement, List.flatMap_map]
  simp [Program.render, Program.pieces, pieceChars_intercalate, hblock, Piece.chars,
    Function.comp_def]

/-! ## Scans that meet fragments with nothing open -/

/-- The fragments are complete, and a scan from the given state has nothing open where they start. -/
def Meets : ScanState → List Piece → Prop
  | _, [] => True
  | s, .own text :: rest => Meets (s.scan text.toList) rest
  | s, .fragment source separator :: rest =>
      s = start ∧ Complete source ∧ Meets (s.scan (source.toList ++ [separator])) rest

theorem meets_append (s : ScanState) (ps qs : List Piece) :
    Meets s (ps ++ qs) ↔ Meets s ps ∧ Meets (s.scan (pieceChars ps)) qs := by
  induction ps generalizing s with
  | nil => simp [Meets]
  | cons p rest ih => cases p <;> simp [Meets, ih, Piece.chars, and_assoc]

/-- Pieces that a scan from the start passes without a trace, meeting complete fragments only, and
those with nothing open. -/
structure Steady (ps : List Piece) : Prop where
  meets : Meets start ps
  leaves : start.scan (pieceChars ps) = start

theorem steady_nil : Steady [] := ⟨trivial, rfl⟩

theorem steady_own {text : String} (h : start.scan text.toList = start) : Steady [.own text] :=
  ⟨trivial, by simpa [Piece.chars] using h⟩

theorem Steady.append {ps qs : List Piece} (hps : Steady ps) (hqs : Steady qs) :
    Steady (ps ++ qs) :=
  ⟨(meets_append start ps qs).2 ⟨hps.meets, by rw [hps.leaves]; exact hqs.meets⟩,
    by rw [pieceChars_append, scan_append, hps.leaves, hqs.leaves]⟩

/-- Own text in front that leaves nothing open. -/
theorem Steady.cons_own {text : String} {ps : List Piece} (htext : start.scan text.toList = start)
    (hps : Steady ps) : Steady (.own text :: ps) :=
  (steady_own htext).append hps

theorem steady_flatMap {α : Type} {pieces : α → List Piece} {as : List α}
    (h : ∀ a ∈ as, Steady (pieces a)) : Steady (as.flatMap pieces) := by
  induction as with
  | nil => exact steady_nil
  | cons a rest ih =>
      obtain ⟨hfirst, hrest⟩ := List.forall_mem_cons.1 h
      exact hfirst.append (ih hrest)

theorem steady_intercalate {ps : List Piece} {pss : List (List Piece)} (hps : Steady ps)
    (h : ∀ qs ∈ pss, Steady qs) : Steady (ps.intercalate pss) := by
  induction pss with
  | nil => exact steady_nil
  | cons qs rest ih =>
      obtain ⟨hfirst, hrest⟩ := List.forall_mem_cons.1 h
      cases rest with
      | nil => simpa using hfirst
      | cons rs more =>
          rw [List.intercalate_cons_cons]
          exact (hfirst.append hps).append (ih hrest)

/-- A complete fragment with a separator, and own text in which the line ends. -/
theorem steady_fragment {source : String} (hsource : Complete source) {separator : Char}
    (hseparator : IsPlain separator) (hstar : separator ≠ '*') {text : String}
    (cs ds : List Char) (htext : text.toList = cs ++ '\n' :: ds) (hcs : Plain cs) (hds : Plain ds) :
    Steady [.fragment source separator, .own text] := by
  refine ⟨⟨rfl, hsource, trivial⟩, ?_⟩
  have hchars : pieceChars [.fragment source separator, .own text] =
      source.toList ++ (separator :: (cs ++ ['\n']) ++ ds) := by
    simp [Piece.chars, htext]
  rw [hchars, scan_append, scan_append, hsource.scan_line hseparator hstar hcs, scan_plain hds]

/-- Behind a fragment that a scan meets, it is outside everything unless a comment goes on. -/
theorem Steady.outside_iff {ps before after : List Piece} {source : String} {separator : Char}
    (h : Steady ps) (hsplit : ps = before ++ .fragment source separator :: after) :
    (start.scan (pieceChars before ++ source.toList)).Outside ↔ ¬EndsInLineComment source := by
  have hmeets := h.meets
  rw [hsplit, meets_append] at hmeets
  obtain ⟨-, hfront, hsource, -⟩ := hmeets
  rw [scan_append, hfront]
  exact hsource.outside_iff

/-- A fragment whose last line ends in a comment swallows its separator. -/
theorem Steady.swallows {ps : List Piece} {source : String} {separator : Char} (h : Steady ps)
    (hmem : (source, separator) ∈ fragments ps) (hends : EndsInLineComment source) :
    ∃ front back, pieceChars ps = front ++ (source.toList ++ separator :: back) ∧
      ¬(start.scan (front ++ source.toList)).Outside := by
  obtain ⟨piece, hpiece, hfragment⟩ := List.mem_filterMap.1 hmem
  obtain rfl : piece = .fragment source separator := by
    cases piece <;> simp_all [Piece.fragment?]
  obtain ⟨before, after, hsplit⟩ := List.append_of_mem hpiece
  refine ⟨pieceChars before, pieceChars after, ?_, ?_⟩
  · simp [hsplit, Piece.chars]
  · rw [h.outside_iff hsplit]
    exact not_not_intro hends

/-! ## Programs with complete fragments -/

/-- A value that a scan passes, once its line is ended. -/
def Expr.Closed : Expr → Prop
  | .json _ => True
  | .raw source => Complete source
  | .ident name => Plain name.toList

def Export.Closed : Export → Prop
  | .default => True
  | .named name => Plain name.toList

def Initialization.Closed : Initialization → Prop
  | .immediate call => Plain call.text.toList
  | .deferred hook hookArgs call =>
      Complete hook ∧ Plain (", ".intercalate hookArgs).toList ∧ Plain call.text.toList

/-- A statement with plain names and complete fragments. -/
def Statement.Closed : Statement → Prop
  | .importModule binding _ exported => Plain binding.toList ∧ exported.Closed
  | .declare name value => Plain name.toList ∧ value.Closed
  | .table name entries => Plain name.toList ∧ ∀ entry ∈ entries, entry.2.Closed
  | .start how => how.Closed

/-- The text of an import leaves nothing open. -/
theorem scan_importText (style : ImportStyle) {binding : String} (module : String)
    {exported : Export} (hbinding : Plain binding.toList) (hexported : exported.Closed) :
    start.scan (importText style binding module exported).toList = start := by
  cases exported with
  | default =>
      cases style <;>
        simp (disch := first | assumption | decide) only
          [importText, String.toList_append, scan_append, scan_plain, scan_quote]
  | named name =>
      have hname : Plain name.toList := hexported
      cases style with
      | commonJs =>
          simp (disch := first | assumption | decide) only
            [importText, String.toList_append, scan_append, scan_plain, scan_quote]
      | esm =>
          by_cases hsame : name = binding <;>
            simp (disch := first | assumption | decide) only
              [importText, hsame, if_true, if_false, String.toList_append, scan_append, scan_plain,
                scan_quote]

/-- The line of a value. -/
theorem steady_line {front : String} (hfront : start.scan front.toList = start) {value : Expr}
    (hvalue : value.Closed) {separator : Char} (hseparator : IsPlain separator)
    (hstar : separator ≠ '*') :
    Steady (.own front :: (value.pieces separator ++ [.own "\n"])) := by
  refine .cons_own hfront ?_
  have hnewline : Steady [.own "\n"] := steady_own (by decide)
  cases value with
  | raw source => exact steady_fragment hvalue hseparator hstar [] [] rfl (by decide) (by decide)
  | json value =>
      refine (steady_own ?_).append hnewline
      have htext : start.scan value.text.toList = start := scan_value value
      simp [Expr.text, htext, step_start hseparator]
  | ident name =>
      refine (steady_own ?_).append hnewline
      simp [Expr.text, scan_plain hvalue, step_start hseparator]

theorem steady_table {name : String} (hname : Plain name.toList) {entries : List (String × Expr)}
    (hentries : ∀ entry ∈ entries, entry.2.Closed) : Steady (tablePieces name entries) := by
  unfold tablePieces
  split
  · refine steady_own ?_
    simp (disch := first | assumption | decide) only
      [String.toList_append, scan_append, scan_plain]
  · have hhead : start.scan ("var " ++ name ++ " = \x7b\n").toList = start := by
      simp (disch := first | assumption | decide) only
        [String.toList_append, scan_append, scan_plain]
    refine .cons_own hhead (.append ?_ (steady_own (by decide)))
    refine steady_flatMap fun entry hentry => ?_
    refine steady_line ?_ (hentries entry hentry) (by decide) (by decide)
    simp (disch := decide) only [String.toList_append, scan_append, scan_plain, scan_quote]

theorem steady_initialization {how : Initialization} (h : how.Closed) : Steady how.pieces := by
  cases how with
  | immediate call =>
      refine steady_own ?_
      have hcall : Plain call.text.toList := h
      simp (disch := first | assumption | decide) only
        [String.toList_append, scan_append, scan_plain]
  | deferred hook hookArgs call =>
      obtain ⟨hhook, hargs, hcall⟩ := h
      -- The last line of the hook goes on up to the brace of the continuation.
      refine .cons_own (by decide) (steady_fragment hhook (by decide) (by decide)
        ("(".toList ++ ((", ".intercalate hookArgs).toList ++ ", function () \x7b".toList))
        ("  ".toList ++ (call.text.toList ++ ";\n\x7d);\n".toList)) ?_ ?_ ?_)
      · simp only [String.toList_append, List.append_assoc]
        rfl
      · exact plain_append (by decide) (plain_append hargs (by decide))
      · exact plain_append (by decide) (plain_append hcall (by decide))

/-- A statement with plain names and complete fragments keeps the scan steady. -/
theorem steady_statement (style : ImportStyle) {s : Statement} (h : s.Closed) :
    Steady (s.pieces style) := by
  cases s with
  | importModule binding module exported => exact steady_own (scan_importText style module h.1 h.2)
  | declare name value =>
      have hname : Plain name.toList := h.1
      refine steady_line ?_ h.2 (by decide) (by decide)
      simp (disch := first | assumption | decide) only
        [String.toList_append, scan_append, scan_plain]
  | table name entries => exact steady_table h.1 h.2
  | start how => exact steady_initialization h

theorem steady_program (style : ImportStyle) {p : Program} (h : ∀ s ∈ p.statements, s.Closed) :
    Steady (p.pieces style) := by
  refine steady_intercalate (steady_own (by decide)) fun ps hps => ?_
  obtain ⟨block, hblock, rfl⟩ := List.mem_map.1 hps
  refine steady_flatMap fun s hs => steady_statement style (h s ?_)
  exact List.mem_flatten.2 ⟨block, hblock, hs⟩

/-! ## The script of an accepted configuration -/

theorem isPlain_of_isNamePart {c : Char} (h : isNamePart c = true) : IsPlain c := by
  refine ⟨?_, ?_, ?_, ?_⟩ <;>
    · rintro rfl
      rw [isNamePart_of_ascii (by decide)] at h
      exact absurd h (by decide)

/-- The characters of names open nothing. -/
theorem plain_of_isIdentifier {name : String} (h : isIdentifier name = true) :
    Plain name.toList :=
  fun c hc => isPlain_of_isNamePart ((isNamePart_of_isIdentifier h).2 c hc)

namespace Configuration

variable {c : Configuration}

/-- The foreign source texts of a configuration are complete. -/
structure CompleteSources (c : Configuration) : Prop where
  rules : ∀ p ∈ c.plugins.entries, Complete p.2.rule.source
  hook : ∀ source, c.hook? = some source → Complete source

theorem closed_of_mem_importBlock (hcheck : c.check = .ok ()) {s : Statement}
    (hs : s ∈ c.importBlock) : s.Closed := by
  obtain rfl | hplugin := List.mem_cons.1 hs
  · have hexport : Plain runtimeExport.toList := by decide
    exact ⟨by decide, hexport⟩
  · obtain ⟨name, hname, rfl⟩ := List.mem_map.1 hplugin
    exact ⟨plain_of_isIdentifier (isIdentifier_of_check hcheck name hname), trivial⟩

theorem closed_of_mem_tableBlock (hcheck : c.check = .ok ()) (hsources : c.CompleteSources)
    {s : Statement} (hs : s ∈ c.tableBlock) : s.Closed := by
  simp only [tableBlock, List.mem_cons, List.not_mem_nil, or_false] at hs
  obtain rfl | rfl | rfl := hs
  · refine ⟨by decide, List.forall_mem_map.2 fun p _ => ?_⟩
    exact trivial
  · exact ⟨by decide, List.forall_mem_map.2 hsources.rules⟩
  · refine ⟨by decide, List.forall_mem_map.2 fun name hname => ?_⟩
    exact plain_of_isIdentifier (isIdentifier_of_check hcheck name hname)

theorem closed_of_mem_startBlock (hsources : c.CompleteSources) {s : Statement}
    (hs : s ∈ c.startBlock) : s.Closed := by
  simp only [startBlock, List.mem_cons, List.not_mem_nil, or_false] at hs
  obtain rfl | rfl := hs
  · have hempty : Complete emptyObject := by decide
    exact ⟨by decide, hempty⟩
  · have hcall : Plain initializeCall.text.toList := by decide
    simp only [Statement.Closed, initialization]
    cases hhook : c.hook? with
    | none => exact hcall
    | some source => exact ⟨hsources.hook source hhook, by decide, hcall⟩

/-- The program of an accepted configuration has plain names, and its fragments are those of the
configuration. -/
theorem closed_of_mem_program (hcheck : c.check = .ok ()) (hsources : c.CompleteSources) :
    ∀ s ∈ c.program.statements, s.Closed := by
  intro s hs
  have hblocks : s ∈ c.importBlock ∨ s ∈ c.tableBlock ∨ s ∈ c.startBlock := by
    simpa [Program.statements, program, Program.push, Program.empty] using hs
  obtain himport | htable | hstart := hblocks
  · exact closed_of_mem_importBlock hcheck himport
  · exact closed_of_mem_tableBlock hcheck hsources htable
  · exact closed_of_mem_startBlock hsources hstart

theorem fragments_table (name : String) (entries : List (String × Expr)) :
    fragments (tablePieces name entries) =
      entries.flatMap fun entry => fragments (entry.2.pieces ',') := by
  cases entries <;> simp [tablePieces, entryPieces]

/-- The fragments of a script with their separators: the rules, the fresh object that holds the
state, and the hook. -/
theorem fragments_program (c : Configuration) (style : ImportStyle) :
    fragments (c.program.pieces style) =
      c.ruleSources.map (·, ',') ++ (emptyObject, ';') :: c.hook?.toList.map (·, ')') := by
  -- Of the imports, the data and the bindings all text is the script's own.
  have himports : fragments (blockPieces style c.importBlock) = [] := by
    simp [blockPieces, importBlock, List.flatMap_map, Statement.pieces]
  have htables : fragments (blockPieces style c.tableBlock) = c.ruleSources.map (·, ',') := by
    have hdata : fragments (tablePieces configTable
        (c.plugins.entries.map fun p => (p.1, .json p.2.config))) = [] := by
      simp [fragments_table, List.flatMap_map, Expr.pieces]
    have hrules : fragments (tablePieces ruleTable
        (c.plugins.entries.map fun p => (p.1, .raw p.2.rule.source))) =
          c.ruleSources.map (·, ',') := by
      rw [fragments_table, List.flatMap_map, ruleSources, List.map_map, List.map_eq_flatMap]
      rfl
    have hmappings : fragments (tablePieces mappingTable
        (c.plugins.names.map fun name => (name, .ident (normalizeName name)))) = [] := by
      simp [fragments_table, List.flatMap_map, Expr.pieces]
    simp [blockPieces, tableBlock, Statement.pieces, hdata, hrules, hmappings]
  have hstart : fragments (blockPieces style c.startBlock) =
      (emptyObject, ';') :: c.hook?.toList.map (·, ')') := by
    cases hhook : c.hook? <;>
      simp [blockPieces, startBlock, Statement.pieces, Expr.pieces, initialization, hhook,
        Initialization.pieces]
  simp [Program.pieces, program, Program.push, Program.empty, List.intercalate_cons_cons, himports,
    htables, hstart]

/-- The script of an accepted configuration with complete fragments leaves nothing open. -/
theorem scan_script (hcheck : c.check = .ok ()) (hsources : c.CompleteSources)
    (style : ImportStyle) : start.scan (c.script style).toList = start := by
  rw [script, toList_render]
  exact (steady_program style (closed_of_mem_program hcheck hsources)).leaves

/-- **When a fragment swallows its separator.**  The configuration is accepted, and its rules and its
hook are complete.  Then the script is made of pieces whose fragments are the rules, the fresh
object and the hook, and the separator behind a fragment lies outside all strings, templates and
comments if and only if the last line of that fragment does not end in a comment. -/
theorem separator_outside_iff (c : Configuration) (hcheck : c.check = .ok ())
    (hsources : c.CompleteSources) (style : ImportStyle) :
    (c.script style).toList = pieceChars (c.program.pieces style) ∧
      fragments (c.program.pieces style) =
        c.ruleSources.map (·, ',') ++ (emptyObject, ';') :: c.hook?.toList.map (·, ')') ∧
      ∀ before source separator after,
        c.program.pieces style = before ++ .fragment source separator :: after →
          ((start.scan (pieceChars before ++ source.toList)).Outside ↔
            ¬EndsInLineComment source) := by
  have hsteady := steady_program style (closed_of_mem_program hcheck hsources)
  exact ⟨toList_render style c.program, fragments_program c style,
    fun _ _ _ _ hsplit => hsteady.outside_iff hsplit⟩

/-- Fragments with comments, strings and a template that end in code keep no separator from its
place. -/
theorem closed_fragments_are_separated :
    let c : Configuration :=
      { Configuration.empty with
        plugins := .ofList
          [("ga", ⟨.object [], .expression "page !== '//' && \x60/*$\x7bdata['*/']\x7d\x60 // on\n"⟩),
            ("me", ⟨.object [], .flag true⟩)]
        onBeforeInitialize := some " function (odl, data, next) \x7b next(); /* // */ \x7d " }
    c.check = .ok () ∧ c.CompleteSources ∧
      ∀ style before source separator after,
        c.program.pieces style = before ++ .fragment source separator :: after →
          (start.scan (pieceChars before ++ source.toList)).Outside := by
  intro c
  have hcheck : c.check = .ok () := by
    rw [check_eq_ok_iff]
    exact ⟨by decide, by decide, by decide +kernel, by decide⟩
  have hhook : c.hook? = some "function (odl, data, next) \x7b next(); /* // */ \x7d" := by
    decide +kernel
  have hsources : c.CompleteSources := by
    refine ⟨by decide, fun source hsource => ?_⟩
    obtain rfl := Option.some.inj (hhook.symm.trans hsource)
    decide
  refine ⟨hcheck, hsources, fun style before source separator after hsplit => ?_⟩
  obtain ⟨-, hfragments, houtside⟩ := separator_outside_iff c hcheck hsources style
  refine (houtside before source separator after hsplit).2 ?_
  have hmem : (source, separator) ∈ fragments (c.program.pieces style) := by simp [hsplit]
  have hends : ∀ p ∈ c.ruleSources.map (·, ',') ++ (emptyObject, ';') :: c.hook?.toList.map (·, ')'),
      ¬EndsInLineComment p.1 := by
    rw [hhook]
    decide
  rw [hfragments] at hmem
  exact hends _ hmem

/-- A rule and a hook that end in a comment are complete, but the comma behind the one and the
parenthesis behind the other belong to the comments. -/
theorem line_comments_swallow_separators :
    let rule := "true // on"
    let hook := "function (odl, data, next) \x7b next(); \x7d // start"
    let c : Configuration :=
      { Configuration.empty with
        plugins := .ofList [("ga", ⟨.object [], .expression rule⟩)]
        onBeforeInitialize := some hook }
    c.check = .ok () ∧ c.CompleteSources ∧ c.hook? = some hook ∧ ∀ style,
      (∃ front back, (c.script style).toList = front ++ (rule.toList ++ ',' :: back) ∧
        ¬(start.scan (front ++ rule.toList)).Outside) ∧
      ∃ front back, (c.script style).toList = front ++ (hook.toList ++ ')' :: back) ∧
        ¬(start.scan (front ++ hook.toList)).Outside := by
  intro rule hook c
  have hcheck : c.check = .ok () := by
    rw [check_eq_ok_iff]
    exact ⟨by decide, by decide, by decide +kernel, by decide⟩
  have hhook : c.hook? = some hook := by decide +kernel
  have hsources : c.CompleteSources := by
    refine ⟨by decide, fun source hsource => ?_⟩
    obtain rfl := Option.some.inj (hhook.symm.trans hsource)
    decide
  refine ⟨hcheck, hsources, hhook, fun style => ?_⟩
  have hsteady := steady_program style (closed_of_mem_program hcheck hsources)
  have hfragments := fragments_program c style
  rw [hhook] at hfragments
  have hrule : (rule, ',') ∈ fragments (c.program.pieces style) := by
    rw [hfragments]
    decide
  have hlast : (hook, ')') ∈ fragments (c.program.pieces style) := by simp [hfragments]
  rw [script, toList_render]
  exact ⟨hsteady.swallows hrule (by decide), hsteady.swallows hlast (by decide)⟩

end Configuration

end PluginBundle
