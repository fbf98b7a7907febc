import PluginBundle.Json.Text
import PluginBundle.Proofs.Json.StringRules

/-!
# String literals

A string literal is read back as the string that it was made of, and the reader stops just behind
its closing quote.  From this it follows that a literal can be told from what comes after it: two
texts that start with a literal are equal only if the literals are.

The proof goes character by character.  `spells_escape` says that the escape of one character
spells it by the rules of JSON, and all else is an induction over the string and what the rules
say of reading.
-/

namespace PluginBundle.Json

/-! ## One character -/

theorem hexValue?_hexDigit : ∀ n < 16, hexValue? (hexDigit n) = some n := by decide

/-- The four digits after `\u` for a character below the blank. -/
theorem unitDigits_control {n : Nat} (h : n < 0x20) :
    UnitDigits ['0', '0', hexDigit (n / 16), hexDigit (n % 16)] n := by
  have hzero : hexValue? '0' = some 0 := by decide
  have hhigh := hexValue?_hexDigit (n / 16) (by omega)
  have hlow := hexValue?_hexDigit (n % 16) (by omega)
  have hvalue : ((0 * 16 + 0) * 16 + n / 16) * 16 + n % 16 = n := by omega
  have hdigits := UnitDigits.mk hzero hzero hhigh hlow
  rwa [hvalue] at hdigits

/-- A character is spelled by its escape. -/
theorem spells_escape (c : Char) : Spells (escape c) c := by
  unfold escape
  split
  case h_8 hquote hbackslash _ _ _ _ _ =>
    split
    · rename_i hcontrol
      exact .unit (unitDigits_control hcontrol)
    · rename_i hvisible
      exact .visible (Nat.not_lt.1 hvisible) hquote hbackslash
  -- The seven characters with an escape of their own.
  all_goals exact .letter (by decide)

/-! ## Whole literals -/

theorem spellsAll_flatMap_escape (cs : List Char) : SpellsAll (cs.flatMap escape) cs := by
  induction cs with
  | nil => exact .nil
  | cons c cs ih =>
      rw [List.flatMap_cons]
      exact .cons (spells_escape c) ih

/-- A literal without its opening quote is read up to its closing one. -/
theorem readString_flatMap_escape (cs rest : List Char) :
    readString 0 (cs.flatMap escape ++ '"' :: rest) = .ok (cs, rest) :=
  readString_spellsAll (spellsAll_flatMap_escape cs) rest

theorem toList_quote (s : String) :
    (quote s).toList = '"' :: (s.toList.flatMap escape ++ ['"']) := by
  simp [quote, quoteChars]

/-- **What the literal of a string stands for**: that string, and no other. -/
theorem standsFor_quote_iff (s t : String) : StandsFor (quote s) t ↔ t = s := by
  have hself : StandsFor (quote s) s :=
    ⟨s.toList.flatMap escape, toList_quote s, spellsAll_flatMap_escape s.toList⟩
  constructor
  · intro h
    exact h.unique hself
  · rintro rfl
    exact hself

/-- Reading a literal behind its opening quote. -/
theorem readString_quote (s : String) (rest : List Char) :
    readString 0 (((quote s).toList ++ rest).drop 1) = .ok (s.toList, rest) := by
  rw [toList_quote]
  simpa using readString_flatMap_escape s.toList rest

/-- **No literal can be broken out of.**  Texts that start with literals are equal only if the
literals are those of one string, and what follows is equal too. -/
theorem quote_append_inj {s t : String} {u w : List Char}
    (h : (quote s).toList ++ u = (quote t).toList ++ w) : s = t ∧ u = w := by
  have hread := readString_quote s u
  rw [h, readString_quote] at hread
  simp only [Except.ok.injEq, Prod.mk.injEq, String.toList_inj] at hread
  exact ⟨hread.1.symm, hread.2.symm⟩

end PluginBundle.Json
