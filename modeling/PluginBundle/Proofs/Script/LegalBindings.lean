import PluginBundle.Proofs.Script.Encoding
import PluginBundle.Proofs.Text.NameRole

/-!
# Which variables of plugins are legal

The script declares a variable for each plugin.  `isLegalBinding` says what ECMAScript asks of the
name of a variable that is declared where an import stands; it knows the properties ID_Start and
ID_Continue, the reserved words, and the two names that strict code does not bind.

The check of a configuration asks for letters and numbers instead, and for the same words in both
styles.  `plugin_binding_legal_iff` says exactly what it lets through: marks in front, letters and
numbers without a role in names anywhere, and in modules the names `eval` and `arguments`.  All
other variables of accepted plugins are legal; in particular no reserved word is bound.
-/

namespace PluginBundle

/-! ## What the language asks -/

/-- The reserved words of ECMAScript. -/
def languageReservedWords : List String :=
  ["await", "break", "case", "catch", "class", "const", "continue", "debugger", "default",
   "delete", "do", "else", "enum", "export", "extends", "false", "finally", "for", "function",
   "if", "import", "in", "instanceof", "new", "null", "return", "super", "switch", "this", "throw",
   "true", "try", "typeof", "var", "void", "while", "with", "yield"]

/-- The words that are reserved in strict code only. -/
def strictReservedWords : List String :=
  ["implements", "interface", "let", "package", "private", "protected", "public", "static"]

/-- The names that strict code may use but not bind. -/
def strictUnbindable : List String := ["eval", "arguments"]

/-- A character that a name may start with. -/
def isBindingStart (c : Char) : Bool := isIdStart c || c == '$' || c == '_'

/-- A character that a name may go on with; the last two join or part their neighbours. -/
def isBindingPart (c : Char) : Bool :=
  isIdContinue c || c == '$' || c == '\u200c' || c == '\u200d'

/-- The name has the form of a name. -/
def hasBindingForm (name : String) : Bool :=
  match name.toList with
  | [] => false
  | first :: rest => isBindingStart first && rest.all isBindingPart

/-- A variable of this name may be declared by an import.  Modules are strict code. -/
def isLegalBinding (style : ImportStyle) (name : String) : Bool :=
  hasBindingForm name && !languageReservedWords.contains name &&
    (style != .esm || !(strictReservedWords ++ strictUnbindable).contains name)

/-! ## What the check lets through -/

/-- A mark: a character with ID_Continue that no name starts with.  The low line may start one. -/
def isMark (c : Char) : Bool := nameRole? c == some .part && c != '_'

/-- A letter or number that has no role in names. -/
def isUnnamable (c : Char) : Bool := nameRole? c == some .none

theorem nameRole?_lowLine : nameRole? '_' = some .part := by decide +kernel

theorem nameRole?_dollar : nameRole? '$' = none := by decide +kernel

/-- Of the characters that the check lets a name start with, all but marks and those without a role
may start one. -/
theorem isBindingStart_iff {c : Char} (h : isNameStart c = true) :
    isBindingStart c = true ↔ isMark c = false ∧ isUnnamable c = false := by
  by_cases hlow : c = '_'
  · subst hlow
    simp [isBindingStart, isMark, isUnnamable, nameRole?_lowLine]
  by_cases hdollar : c = '$'
  · subst hdollar
    simp [isBindingStart, isMark, isUnnamable, nameRole?_dollar]
  have hletter : isAlphabetic c = true := by simpa [isNameStart, hlow, hdollar] using h
  have hrole : (nameRole? c).isSome = true :=
    nameRole?_isSome_of_isAlphanumeric (by simp [isAlphanumeric, hletter])
  obtain ⟨role, hrole⟩ := Option.isSome_iff_exists.1 hrole
  cases role <;> simp [isBindingStart, isMark, isUnnamable, isIdStart, hrole, hlow, hdollar]

/-- Of the characters that the check lets a name go on with, all but those without a role may. -/
theorem isBindingPart_iff {c : Char} (h : isNamePart c = true) :
    isBindingPart c = true ↔ isUnnamable c = false := by
  by_cases hlow : c = '_'
  · subst hlow
    simp [isBindingPart, isIdContinue, isUnnamable, nameRole?_lowLine]
  by_cases hdollar : c = '$'
  · subst hdollar
    simp [isBindingPart, isUnnamable, nameRole?_dollar]
  have hnumber : isAlphanumeric c = true := by simpa [isNamePart, hlow, hdollar] using h
  obtain ⟨role, hrole⟩ :=
    Option.isSome_iff_exists.1 (nameRole?_isSome_of_isAlphanumeric hnumber)
  have hjoiner : nameRole? '\u200c' = some .part := by decide +kernel
  have hparter : nameRole? '\u200d' = some .part := by decide +kernel
  cases role with
  | start => simp [isBindingPart, isIdContinue, isIdStart, isUnnamable, hrole]
  | part => simp [isBindingPart, isIdContinue, isUnnamable, hrole]
  | none =>
      have hc : c ≠ '\u200c' := by
        rintro rfl
        simp [hjoiner] at hrole
      have hc' : c ≠ '\u200d' := by
        rintro rfl
        simp [hparter] at hrole
      simp [isBindingPart, isIdContinue, isIdStart, isUnnamable, hrole, hdollar, hc, hc']

/-! ## The variables of plugins -/

/-- The check knows every reserved word, and those of strict code too. -/
theorem reservedWords_complete :
    ∀ word ∈ languageReservedWords ++ strictReservedWords, word ∈ reservedWords := by decide

/-- The form of a name that the check lets through hangs on single characters. -/
theorem hasBindingForm_iff {name : String} (h : isIdentifier name = true) :
    hasBindingForm name = true ↔
      (∀ first, name.toList.head? = some first → isMark first = false) ∧
        ∀ c ∈ name.toList, isUnnamable c = false := by
  obtain ⟨first, rest, hchars, hfirst, hrest⟩ := ((isIdentifier_iff name).1 h).shape
  have hparts : (∀ c ∈ rest, isBindingPart c = true) ↔ ∀ c ∈ rest, isUnnamable c = false :=
    forall₂_congr fun c hc => isBindingPart_iff (hrest c hc)
  simp [hasBindingForm, hchars, isBindingStart_iff hfirst, hparts, and_assoc]

/-- A name that the check lets through is no reserved word. -/
theorem not_reserved_of_isIdentifier {name : String} (h : isIdentifier name = true) :
    name ∉ languageReservedWords ++ strictReservedWords := by
  intro hmem
  exact ((isIdentifier_iff name).1 h).unreserved (reservedWords_complete name hmem)

/-- What else must hold of a name that the check lets through, so that it is legal. -/
theorem isLegalBinding_iff {name : String} (h : isIdentifier name = true) (style : ImportStyle) :
    isLegalBinding style name = true ↔
      (∀ first, name.toList.head? = some first → isMark first = false) ∧
        (∀ c ∈ name.toList, isUnnamable c = false) ∧
        (style = .esm → name ≠ "eval" ∧ name ≠ "arguments") := by
  have hwords := not_reserved_of_isIdentifier h
  simp only [List.mem_append, not_or] at hwords
  have hlegal : isLegalBinding style name = true ↔
      hasBindingForm name = true ∧ (style = .esm → name ∉ strictUnbindable) := by
    cases style <;> simp [isLegalBinding, hwords.1, hwords.2]
  simp [hlegal, hasBindingForm_iff h, strictUnbindable, and_assoc]

/-- The statements that import a default export are the imports of the plugins. -/
theorem import_mem_program_iff {c : Configuration} {binding module : String} :
    .importModule binding module .default ∈ c.program.statements ↔
      module ∈ c.plugins.names ∧ binding = normalizeName module := by
  simp only [Program.statements, Configuration.program, Program.push, Program.empty,
    Configuration.importBlock, Configuration.tableBlock, Configuration.startBlock]
  constructor
  · intro h
    obtain ⟨name, hname, rfl, rfl⟩ : ∃ name ∈ c.plugins.names,
        normalizeName name = binding ∧ name = module := by simpa using h
    exact ⟨hname, rfl⟩
  · rintro ⟨hname, rfl⟩
    have himport : ∃ name ∈ c.plugins.names,
        normalizeName name = normalizeName module ∧ name = module := ⟨module, hname, rfl, rfl⟩
    simpa using himport

/-- **Which variables of accepted plugins are legal.**  The variable that the script of an accepted
configuration binds to a plugin is legal where it stands if and only if it does not start with a
mark, holds no letter or number without a role in names, and is not `eval` or `arguments` in a
module. -/
theorem plugin_binding_legal_iff (c : Configuration) (hcheck : c.check = .ok ())
    (style : ImportStyle) {binding module : String}
    (himport : .importModule binding module .default ∈ c.program.statements) :
    isLegalBinding style binding = true ↔
      (∀ first, binding.toList.head? = some first → isMark first = false) ∧
        (∀ ch ∈ binding.toList, isUnnamable ch = false) ∧
        (style = .esm → binding ≠ "eval" ∧ binding ≠ "arguments") := by
  obtain ⟨hname, rfl⟩ := import_mem_program_iff.1 himport
  exact isLegalBinding_iff (Configuration.isIdentifier_of_check hcheck module hname) style

/-- A plugin whose variable has letters and marks of several scripts, in both styles. -/
theorem mixed_scripts_binding_legal :
    let c : Configuration :=
      { Configuration.empty with plugins := .ofList [("été-हिन/2", ⟨.object [], .flag true⟩)] }
    c.check = .ok () ∧
      .importModule "été_हिन_2" "été-हिन/2" .default ∈ c.program.statements ∧
      isLegalBinding .commonJs "été_हिन_2" = true ∧ isLegalBinding .esm "été_हिन_2" = true := by
  intro c
  have hcheck : c.check = .ok () := by
    rw [check_eq_ok_iff]
    exact ⟨by decide, by decide, by decide +kernel, by decide⟩
  have himport : .importModule "été_हिन_2" "été-हिन/2" .default ∈ c.program.statements :=
    import_mem_program_iff.2 ⟨by decide, by decide⟩
  have hfirst : isMark 'é' = false := by decide +kernel
  have hall : ("été_हिन_2".toList.all fun ch => isUnnamable ch == false) = true := by
    decide +kernel
  have hlegal (style : ImportStyle) : isLegalBinding style "été_हिन_2" = true := by
    refine (plugin_binding_legal_iff c hcheck style himport).2 ⟨?_, ?_, fun _ => by decide⟩
    · intro first hhead
      obtain rfl : 'é' = first := Option.some.inj hhead
      exact hfirst
    · intro ch hch
      exact eq_of_beq (List.all_eq_true.1 hall ch hch)
  exact ⟨hcheck, himport, hlegal .commonJs, hlegal .esm⟩

/-- A power is a number and `eval` is a name, so both are accepted; but the one is in no style a
legal variable, and the other is none in a module. -/
theorem power_and_eval_bound_illegally :
    let c : Configuration :=
      { Configuration.empty with
        plugins := .ofList
          [("x²", ⟨.object [], .flag true⟩), ("eval", ⟨.object [], .flag true⟩)] }
    c.check = .ok () ∧
      .importModule "x²" "x²" .default ∈ c.program.statements ∧
      .importModule "eval" "eval" .default ∈ c.program.statements ∧
      (∀ style, isLegalBinding style "x²" = false) ∧ isLegalBinding .esm "eval" = false := by
  intro c
  have hcheck : c.check = .ok () := by
    rw [check_eq_ok_iff]
    exact ⟨by decide, by decide, by decide +kernel, by decide⟩
  refine ⟨hcheck, import_mem_program_iff.2 ⟨by decide, by decide⟩,
    import_mem_program_iff.2 ⟨by decide, by decide⟩, ?_, by decide +kernel⟩
  rintro (_ | _) <;> decide +kernel

end PluginBundle
