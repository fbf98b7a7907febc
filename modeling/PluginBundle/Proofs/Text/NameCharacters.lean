import PluginBundle.Script.Name

/-!
# The characters of names

A name may hold letters and numbers of all scripts, so whether a character is one of them is asked
of long tables.  The tables are in ascending order, and only their first ranges lie in ASCII: below
U+0080 the characters of names are the ASCII letters and digits, the low line and the dollar.  All
that is asked about punctuation and control characters follows from this one fact,
`isNamePart_of_ascii`.
-/

namespace PluginBundle

/-- A property of the characters below a bound can be checked value by value. -/
theorem forall_char_of_lt {P : Char → Prop} {bound : Nat} (h : ∀ n < bound, P (Char.ofNat n))
    {c : Char} (hc : c.toNat < bound) : P c := by
  have hvalue := h c.toNat hc
  rwa [Char.ofNat_toNat] at hvalue

/-- Where all ranges but the first few lie above a bound, these tell which characters below it are
in the set. -/
theorem CodeRanges.contains_eq_take {s : CodeRanges} {bound count : Nat}
    (hrest : ((s.ranges.drop count).all fun r => bound ≤ r.1) = true) {c : Char}
    (hc : c.toNat < bound) : s.contains c = (CodeRanges.mk (s.ranges.take count)).contains c := by
  have hnone : ((s.ranges.drop count).any fun r => r.1 ≤ c.toNat && c.toNat ≤ r.2) = false := by
    rw [List.any_eq_false]
    intro r hr hheld
    have hbound : bound ≤ r.1 := of_decide_eq_true (List.all_eq_true.1 hrest r hr)
    have hfirst : r.1 ≤ c.toNat := of_decide_eq_true (Bool.and_eq_true_iff.1 hheld).1
    omega
  rw [contains, contains, ← List.take_append_drop count s.ranges, List.any_append, hnone,
    Bool.or_false, List.take_append_drop]

/-- Of the ASCII characters the letters and the digits are in the tables. -/
theorem ranges_of_ascii {c : Char} (hc : c.toNat < 0x80) :
    isAlphabetic c = c.isAlpha ∧ numericRanges.contains c = c.isDigit := by
  have hletters : ((alphabeticRanges.ranges.drop 2).all fun r => 0x80 ≤ r.1) = true := by
    decide +kernel
  have hnumbers : ((numericRanges.ranges.drop 1).all fun r => 0x80 ≤ r.1) = true := by
    decide +kernel
  have hlatin : alphabeticRanges.ranges.take 2 = [(0x41, 0x5A), (0x61, 0x7A)] := rfl
  have hdigits : numericRanges.ranges.take 1 = [(0x30, 0x39)] := rfl
  rw [isAlphabetic, CodeRanges.contains_eq_take hletters hc,
    CodeRanges.contains_eq_take hnumbers hc, hlatin, hdigits]
  exact forall_char_of_lt (P := fun c =>
    (CodeRanges.mk [(0x41, 0x5A), (0x61, 0x7A)]).contains c = c.isAlpha ∧
      (CodeRanges.mk [(0x30, 0x39)]).contains c = c.isDigit) (by decide) hc

theorem isAlphanumeric_of_ascii {c : Char} (hc : c.toNat < 0x80) :
    isAlphanumeric c = c.isAlphanum := by
  rw [isAlphanumeric, (ranges_of_ascii hc).1, (ranges_of_ascii hc).2]
  rfl

/-- **Which ASCII characters are those of names.** -/
theorem isNamePart_of_ascii {c : Char} (hc : c.toNat < 0x80) :
    isNamePart c = (c.isAlphanum || c == '_' || c == '$') := by
  rw [isNamePart, isAlphanumeric_of_ascii hc]

/-- A name may start with the same characters but for the digits. -/
theorem isNameStart_of_ascii {c : Char} (hc : c.toNat < 0x80) :
    isNameStart c = (c.isAlpha || c == '_' || c == '$') := by
  rw [isNameStart, (ranges_of_ascii hc).1]

/-- No name starts with a digit. -/
theorem isDigit_of_isNameStart {c : Char} (h : isNameStart c = true) : c.isDigit = false := by
  rw [Bool.eq_false_iff]
  intro hdigit
  have hbound : c.toNat ≤ '9'.toNat := (Char.isDigit_iff_toNat.1 hdigit).2
  have hascii : c.toNat < 0x80 := Nat.lt_of_le_of_lt hbound (by decide)
  have hother : c.isDigit = true → (c.isAlpha || c == '_' || c == '$') = false :=
    forall_char_of_lt (P := fun c => c.isDigit = true → (c.isAlpha || c == '_' || c == '$') = false)
      (by decide) hascii
  rw [isNameStart_of_ascii hascii, hother hdigit] at h
  cases h

theorem isNamePart_of_isNameStart {c : Char} (h : isNameStart c = true) : isNamePart c = true := by
  simp only [isNameStart, Bool.or_eq_true] at h
  obtain (hletter | hlow) | hdollar := h
  · simp [isNamePart, isAlphanumeric, hletter]
  · simp [isNamePart, hlow]
  · simp [isNamePart, hdollar]

/-- No character of names lies below the blank. -/
theorem visible_of_isNamePart {c : Char} (h : isNamePart c = true) : 0x20 ≤ c.toNat := by
  refine Nat.le_of_not_lt fun hlow => ?_
  have hother : (c.isAlphanum || c == '_' || c == '$') = false :=
    forall_char_of_lt (P := fun c => (c.isAlphanum || c == '_' || c == '$') = false)
      (by decide) hlow
  rw [← isNamePart_of_ascii (by omega), h] at hother
  cases hother

end PluginBundle
