import Mathlib.Data.List.Basic
import PluginBundle.Proofs.Script.LegalBindings
import PluginBundle.Proofs.Script.Literals
import PluginBundle.Proofs.Script.Styles

/-!
# Tables read from their text

A table is declared as a variable with an object literal.  `readTable?` reads such a declaration
from its text alone: the name of the variable, and the properties that the literal makes.

The values are literals, variables, or any other expressions of the script, since rules are source
text.  What the script makes of the last kind, and where such an expression ends, is a parameter
`others` of the reader.  `ReadsAs` says of a source text that it is one expression where the value
of a property stands: what stands behind its comma is left for the rest of the table.  Literals and
variables are such texts whatever the parameter, by `readsAs_json` and `readsAs_variable`.

`readTable?_table` reads the table of a list of entries whose texts are all of this kind.
-/

namespace PluginBundle

open Json (Value skipSpace)
open Literal (Taker takeLiteral takeProperties)

/-! ## The values of a table -/

/-- A name that the script may use for a variable, strict or not. -/
def isVariable (name : String) : Bool :=
  hasBindingForm name && !(languageReservedWords ++ strictReservedWords).contains name

/-- A character that ends a word and may stand behind a value. -/
def endsWord (c : Char) : Bool := Json.isSpace c || c == ',' || c == '}'

/-- Takes a variable. -/
def takeVariable : Taker := fun cs =>
  let name := String.ofList ((skipSpace cs).takeWhile fun c => !endsWord c)
  if isVariable name then some (.binding name, (skipSpace cs).dropWhile fun c => !endsWord c)
  else none

/-- The value of a property is over: the next one or the end of the object follows. -/
def isOver (cs : List Char) : Bool :=
  match skipSpace cs with
  | ',' :: _ => true
  | '}' :: _ => true
  | _ => false

/-- Takes only what is the whole value of a property. -/
def wholeValue (take : Taker) : Taker := fun cs => (take cs).filter fun taken => isOver taken.2

/-- Takes the value of a property: a literal, a variable, or something else. -/
def takeValue (others : Taker) : Taker := fun cs =>
  -- Behind `[1]` or `ga` the same value may go on, with a dot or an operator.
  (wholeValue (takeLiteral (cs.length + 1)) cs).or ((wholeValue takeVariable cs).or (others cs))

/-- Reads the declaration of a table. -/
def readTable? (others : Taker) (text : String) : Option (String × Properties) := do
  let (name, cs) := spanName (← behind? "var " text.toList)
  let cs ← behind? " = \x7b" cs
  let (p, cs) ← takeProperties (takeValue others) cs.length .blank cs
  if cs = [';', '\n'] then some (name, p) else none

/-- As the value of a property the source text is one expression, and it comes to this. -/
def ReadsAs (others : Taker) (source : String) (v : Datum) : Prop :=
  ∀ rest, takeValue others (' ' :: (source.toList ++ ',' :: rest)) = some (v, ',' :: rest)

/-- A source text comes to one thing only. -/
theorem ReadsAs.unique {others : Taker} {source : String} {v w : Datum}
    (hv : ReadsAs others source v) (hw : ReadsAs others source w) : v = w :=
  congrArg Prod.fst (Option.some.inj ((hv []).symm.trans (hw [])))

theorem wholeValue_comma {take : Taker} {cs rest : List Char} {v : Datum}
    (h : take cs = some (v, ',' :: rest)) : wholeValue take cs = some (v, ',' :: rest) := by
  have hover : isOver (',' :: rest) = true := rfl
  rw [wholeValue, h, Option.filter_some, if_pos hover]

theorem wholeValue_eq_none {take : Taker} {cs : List Char} (h : take cs = none) :
    wholeValue take cs = none := by
  rw [wholeValue, h, Option.filter_none]

/-- A blank before a literal is passed over. -/
theorem takeLiteral_blank (fuel : Nat) (cs : List Char) :
    takeLiteral fuel (' ' :: cs) = takeLiteral fuel cs := by
  have hblank : skipSpace (' ' :: cs) = skipSpace cs := rfl
  cases fuel with
  | zero => rfl
  | succ fuel =>
      unfold takeLiteral
      rw [hblank]

theorem readsAs_json (others : Taker) {value : Value} (hkeys : value.KeysOnce) :
    ReadsAs others value.text value.datum := by
  intro rest
  have hlength : value.chars.length ≤ (' ' :: (value.chars ++ ',' :: rest)).length := by
    simp only [List.length_cons, List.length_append]
    omega
  have htake := Literal.takeLiteral_chars hkeys hlength _ (.comma rest)
  rw [← takeLiteral_blank] at htake
  exact congrArg (Option.or · _) (wholeValue_comma htake)

/-! ### Variables -/

theorem endsWord_of_isNamePart {c : Char} (h : isNamePart c = true) : endsWord c = false := by
  simp only [endsWord, Json.isSpace, Bool.or_eq_false_iff, beq_eq_false_iff_ne]
  refine ⟨⟨⟨⟨⟨?_, ?_⟩, ?_⟩, ?_⟩, ?_⟩, ?_⟩ <;>
    · rintro rfl
      rw [isNamePart_of_ascii (by decide)] at h
      exact absurd h (by decide)

theorem isSpace_of_isNamePart {c : Char} (h : isNamePart c = true) : Json.isSpace c = false := by
  have hword := endsWord_of_isNamePart h
  rw [endsWord, Bool.or_eq_false_iff, Bool.or_eq_false_iff] at hword
  exact hword.1.1

/-- Where a name goes on, nothing is over. -/
theorem isOver_of_isNamePart {c : Char} (h : isNamePart c = true) (cs : List Char) :
    isOver (c :: cs) = false := by
  have hword := endsWord_of_isNamePart h
  simp only [endsWord, Bool.or_eq_false_iff, beq_eq_false_iff_ne] at hword
  obtain ⟨⟨hblank, hcomma⟩, hbrace⟩ := hword
  rw [isOver, Json.skipSpace_cons hblank]
  split
  · rename_i heq
    exact absurd (List.cons.inj heq).1 hcomma
  · rename_i heq
    exact absurd (List.cons.inj heq).1 hbrace
  · rfl

/-- A word in front of a longer name is not the whole value. -/
theorem isOver_behind_word {name word rest more : List Char}
    (hparts : ∀ c ∈ name, isNamePart c = true) (hne : name ≠ word) (hcomma : ',' ∉ word)
    (h : name ++ ',' :: rest = word ++ more) : isOver more = false := by
  obtain ⟨tail, rfl, hrest⟩ | ⟨tail, rfl, rfl⟩ := List.append_eq_append_iff.1 h
  · cases tail with
    | nil => simp at hne
    | cons c cs =>
        obtain rfl := (List.cons.inj hrest).1
        exact absurd (List.mem_append_right _ List.mem_cons_self) hcomma
  · cases tail with
    | nil => simp at hne
    | cons c cs =>
        exact isOver_of_isNamePart (hparts c (List.mem_append_right _ List.mem_cons_self)) _

/-- No number starts like a name. -/
theorem takeNumeral_of_isNameStart {first : Char} (hfirst : isNameStart first = true)
    (cs : List Char) : Literal.takeNumeral (first :: cs) = none := by
  have hdigit := isDigit_of_isNameStart hfirst
  have hminus : first ≠ '-' := by
    rintro rfl
    rw [isNameStart_of_ascii (by decide)] at hfirst
    exact absurd hfirst (by decide)
  have hnone : numeral? ((first :: cs).takeWhile Json.isNumberChar) = none := by
    rw [List.takeWhile_cons]
    split
    · unfold numeral?
      split
      · rename_i heq
        exact absurd (List.cons.inj heq).1 hminus
      · simp [Numeral.decimal?, Numeral.spanDigits?, hdigit]
    · rfl
  rw [Literal.takeNumeral, hnone, Option.map_none]

/-- No name is a literal or starts with one that is over. -/
theorem wholeValue_takeLiteral_name {first : Char} {more : List Char}
    (hfirst : isNameStart first = true) (hparts : ∀ c ∈ first :: more, isNamePart c = true)
    (hwords : ∀ word ∈ ["null", "true", "false"], first :: more ≠ word.toList) (fuel : Nat)
    (rest : List Char) :
    wholeValue (takeLiteral (fuel + 1)) (first :: more ++ ',' :: rest) = none := by
  have hblank := isSpace_of_isNamePart (hparts first List.mem_cons_self)
  have hword {word : String} (hmem : word ∈ ["null", "true", "false"]) {tail : List Char}
      (h : first :: more ++ ',' :: rest = word.toList ++ tail) : isOver tail = false := by
    have hcomma : ∀ word ∈ ["null", "true", "false"], ',' ∉ word.toList := by decide
    exact isOver_behind_word hparts (hwords word hmem) (hcomma word hmem) h
  have hbracket {c : Char} (hc : isNamePart c = false) {tail : List Char}
      (h : first :: more ++ ',' :: rest = c :: tail) : False := by
    obtain rfl := (List.cons.inj h).1
    rw [hparts _ List.mem_cons_self] at hc
    cases hc
  unfold wholeValue takeLiteral
  rw [List.cons_append, Json.skipSpace_cons hblank]
  split
  · rename_i tail heq
    have hover : isOver tail = false := hword (by decide : "null" ∈ _) heq
    simp [hover]
  · rename_i tail heq
    have hover : isOver tail = false := hword (by decide : "true" ∈ _) heq
    simp [hover]
  · rename_i tail heq
    have hover : isOver tail = false := hword (by decide : "false" ∈ _) heq
    simp [hover]
  · rename_i heq
    exact (hbracket (isNamePart_of_ascii (by decide)) heq).elim
  · rename_i heq
    exact (hbracket (isNamePart_of_ascii (by decide)) heq).elim
  · rename_i heq
    exact (hbracket (isNamePart_of_ascii (by decide)) heq).elim
  · rw [takeNumeral_of_isNameStart hfirst, Option.filter_none]

/-- A variable is read as its value. -/
theorem readsAs_variable (others : Taker) {name : String} (hname : isIdentifier name = true)
    (hform : hasBindingForm name = true) : ReadsAs others name (.binding name) := by
  intro rest
  obtain ⟨first, more, hchars, hfirst, hmore⟩ := ((isIdentifier_iff name).1 hname).shape
  have hparts : ∀ c ∈ first :: more, isNamePart c = true :=
    List.forall_mem_cons.2 ⟨isNamePart_of_isNameStart hfirst, hmore⟩
  have hunreserved := not_reserved_of_isIdentifier hname
  have hwords : ∀ word ∈ ["null", "true", "false"], first :: more ≠ word.toList := by
    intro word hword hsame
    have hreserved : ∀ word ∈ ["null", "true", "false"],
        word ∈ languageReservedWords ++ strictReservedWords := by decide
    rw [← hchars, String.toList_inj] at hsame
    exact hunreserved (hsame ▸ hreserved word hword)
  -- The name may start with a word for a literal, as `nullify` does.
  have hliteral (fuel : Nat) :
      wholeValue (takeLiteral (fuel + 1)) (' ' :: (name.toList ++ ',' :: rest)) = none := by
    have hnone := wholeValue_takeLiteral_name hfirst hparts hwords fuel rest
    rwa [wholeValue, ← takeLiteral_blank, ← hchars] at hnone
  have hends : ∀ c ∈ name.toList, (!endsWord c) = true := by
    intro c hc
    rw [endsWord_of_isNamePart (hparts c (hchars ▸ hc)), Bool.not_false]
  have hstart : skipSpace (' ' :: (name.toList ++ ',' :: rest)) = name.toList ++ ',' :: rest := by
    rw [hchars]
    exact Json.skipSpace_cons (isSpace_of_isNamePart (hparts first List.mem_cons_self)) _
  have hvariable : takeVariable (' ' :: (name.toList ++ ',' :: rest)) =
      some (.binding name, ',' :: rest) := by
    have hlegal : isVariable name = true := by
      rw [isVariable, hform, Bool.true_and, Bool.not_eq_true', List.contains_eq_mem,
        decide_eq_false_iff_not]
      exact hunreserved
    have htake : (name.toList ++ ',' :: rest).takeWhile (fun c => !endsWord c) = name.toList := by
      rw [List.takeWhile_append_of_pos hends]
      simp [endsWord]
    have hdrop : (name.toList ++ ',' :: rest).dropWhile (fun c => !endsWord c) = ',' :: rest := by
      rw [List.dropWhile_append_of_pos hends]
      simp [endsWord]
    simp only [takeVariable, hstart, htake, hdrop, String.ofList_toList, hlegal, if_true]
  rw [takeValue, hliteral, wholeValue_comma hvariable]
  rfl

/-! ## Tables -/

/-- The keys of entries with what their values come to. -/
def entryData (value : String × Expr → Datum) (entries : List (String × Expr)) :
    List (String × Datum) :=
  entries.map fun e => (e.1, value e)

@[simp] theorem keys_entryData (value : String × Expr → Datum) (entries : List (String × Expr)) :
    Keyed.keys (entryData value entries) = Keyed.keys entries := by
  simp [Keyed.keys, entryData]

section Lines

variable {others : Taker} {value : String × Expr → Datum} {entries : List (String × Expr)}

/-- The lines of entries, up to the closing brace.  Each round takes one of them. -/
theorem takeProperties_lines (hvalue : ∀ e ∈ entries, ReadsAs others e.2.text (value e))
    (hkeys : (Keyed.keys entries).Nodup) {fuel : Nat} (hfuel : entries.length < fuel)
    {p : Properties} (hfree : prototypeKey ∈ Keyed.keys entries → p.prototype = none)
    (rest : List Char) :
    takeProperties (takeValue others) fuel p
        ('\n' :: ((entries.map writtenEntry).flatMap entryChars ++ '}' :: rest)) =
      some (p.defineAll (entryData value entries), rest) := by
  induction entries generalizing fuel p with
  | nil =>
      cases fuel with
      | zero => simp at hfuel
      | succ fuel =>
          have hblank : ∀ c ∈ ['\n'], Json.isSpace c = true := by simp [Json.isSpace]
          exact Literal.takeProperties_end hblank (takeValue others) fuel p
  | cons e more ih =>
      cases fuel with
      | zero => simp at hfuel
      | succ fuel =>
          obtain ⟨he, hmore⟩ := List.forall_mem_cons.1 hvalue
          rw [Keyed.keys_cons] at hkeys hfree
          have hkey : e.1 = prototypeKey → p.prototype = none :=
            fun hsame => hfree (hsame ▸ List.mem_cons_self)
          have hblank : ∀ c ∈ ['\n', ' ', ' '], Json.isSpace c = true := by simp [Json.isSpace]
          let behind := '\n' :: ((more.map writtenEntry).flatMap entryChars ++ '}' :: rest)
          have hfirst : takeValue others ((' ' :: e.2.text.toList) ++ ',' :: behind) =
              some (value e, ',' :: behind) := he behind
          have hline := Literal.takeProperties_property hblank (takeValue others) fuel p hkey hfirst
          rw [Json.skipSpace_cons (by decide)] at hline
          have hothers :
              takeProperties (takeValue others) fuel (p.define e.1 (value e)) behind = _ :=
            ih hmore (List.nodup_cons.1 hkeys).2 (Nat.lt_of_succ_lt_succ hfuel)
              (Literal.prototype_define_eq_none hkeys hfree (value e))
          have htext :
              '\n' :: (((e :: more).map writtenEntry).flatMap entryChars ++ '}' :: rest) =
                ['\n', ' ', ' '] ++ ((Json.quote e.1).toList ++
                  ':' :: ((' ' :: e.2.text.toList) ++ ',' :: behind)) := by
            simp [entryChars, writtenEntry, behind]
          rw [htext]
          exact hline.trans hothers

/-- A table without entries has nothing between its braces. -/
theorem takeProperties_tableChars (hvalue : ∀ e ∈ entries, ReadsAs others e.2.text (value e))
    (hkeys : (Keyed.keys entries).Nodup) {fuel : Nat} (hfuel : entries.length < fuel)
    (rest : List Char) :
    takeProperties (takeValue others) fuel .blank
        (tableChars (entries.map writtenEntry) ++ '}' :: rest) =
      some (Properties.blank.defineAll (entryData value entries), rest) := by
  cases entries with
  | nil =>
      cases fuel with
      | zero => simp at hfuel
      | succ fuel =>
          have hnothing : ∀ c ∈ [], Json.isSpace c = true := by simp
          exact Literal.takeProperties_end hnothing (takeValue others) fuel .blank
  | cons e more => exact takeProperties_lines hvalue hkeys hfuel (fun _ => rfl) rest

end Lines

theorem length_le_entryChars (entries : List (String × String)) :
    entries.length ≤ (entries.flatMap entryChars).length := by
  induction entries with
  | nil => simp
  | cons e others ih =>
      have hline : 0 < (entryChars e).length := by simp [entryChars]
      rw [List.flatMap_cons, List.length_append, List.length_cons]
      omega

/-- Every entry has a line of its own. -/
theorem length_lt_tableChars (entries : List (String × Expr)) (rest : List Char) :
    entries.length < (tableChars (entries.map writtenEntry) ++ '}' :: rest).length := by
  cases entries with
  | nil => simp [tableChars]
  | cons e others =>
      have hlines := length_le_entryChars ((e :: others).map writtenEntry)
      rw [List.length_map] at hlines
      simp only [List.map_cons, tableChars, List.cons_append, List.length_append,
        List.length_cons] at hlines ⊢
      omega

/-- **A table is read from its text**: its name, and the properties that its keys make in order, if
no key is there twice and all values are expressions. -/
theorem readTable?_table (others : Taker) (style : ImportStyle) {name : String} (hname : Named name)
    {value : String × Expr → Datum} {entries : List (String × Expr)}
    (hkeys : (Keyed.keys entries).Nodup)
    (hvalue : ∀ e ∈ entries, ReadsAs others e.2.text (value e)) :
    readTable? others ((Statement.table name entries).text style) =
      some (name, Properties.blank.defineAll (entryData value entries)) := by
  have hblank : isNamePart ' ' = false := isNamePart_of_ascii (by decide)
  have htext : ((Statement.table name entries).text style).toList =
      "var ".toList ++ (name.toList ++ (" = \x7b".toList
        ++ (tableChars (entries.map writtenEntry) ++ '}' :: [';', '\n']))) := by
    have hlines : ((Statement.table name entries).text style).toList =
        Configuration.tableHead name
          ++ (tableChars (entries.map writtenEntry) ++ '}' :: [';', '\n']) :=
      toList_tableText name entries
    rw [hlines, Configuration.tableHead]
    simp
  have hspan (rest : List Char) : spanName (name.toList ++ (" = \x7b".toList ++ rest)) =
      (name, " = \x7b".toList ++ rest) := spanName_append hname hblank _
  have htake := takeProperties_tableChars hvalue hkeys (length_lt_tableChars entries [';', '\n'])
    [';', '\n']
  simp only [readTable?, htext, behind?_append, hspan, htake, Option.bind_eq_bind, Option.bind_some,
    if_true]

/-- The own keys of a table are those of its entries, but for the one that makes no property, in the
order in which an object lists them. -/
theorem keys_own_table {value : String × Expr → Datum} {entries : List (String × Expr)}
    (hkeys : (Keyed.keys entries).Nodup) (horder : (Keyed.keys entries).Pairwise ListedBefore) :
    Keyed.keys (Properties.blank.defineAll (entryData value entries)).own =
      (Keyed.keys entries).filter (· ≠ prototypeKey) := by
  have hmade : Keyed.keys (Properties.blank.defineAll (entryData value entries)).made =
      (Keyed.keys entries).filter (· ≠ prototypeKey) := by
    rw [Properties.made_defineAll_blank (by simpa using hkeys), ← keys_entryData value, Keyed.keys,
      Keyed.keys, List.filter_map]
    rfl
  rw [Properties.own_eq_made (hmade ▸ horder.filter _), hmade]

/-- Each entry with another key is found with its value. -/
theorem find?_own_table {value : String × Expr → Datum} {entries : List (String × Expr)}
    (hkeys : (Keyed.keys entries).Nodup) {e : String × Expr} (he : e ∈ entries)
    (hkey : e.1 ≠ prototypeKey) :
    Keyed.find? e.1 (Properties.blank.defineAll (entryData value entries)).own =
      some (value e) := by
  have hpairs : (Keyed.keys (entryData value entries)).Nodup := by rwa [keys_entryData]
  have hmade := Properties.made_defineAll_blank hpairs
  have hlisted := Properties.perm_own (Properties.blank.defineAll (entryData value entries))
  have hnodup : (Keyed.keys (Properties.blank.defineAll (entryData value entries)).own).Nodup := by
    refine (hlisted.map Prod.fst).nodup_iff.2 ?_
    rw [hmade]
    exact hpairs.sublist (List.filter_sublist.map Prod.fst)
  refine Keyed.find?_of_mem hnodup (hlisted.mem_iff.2 ?_)
  rw [hmade]
  exact List.mem_filter.2 ⟨List.mem_map.2 ⟨e, he, rfl⟩, by simpa using hkey⟩

end PluginBundle
