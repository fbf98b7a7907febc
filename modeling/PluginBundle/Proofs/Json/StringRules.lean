import PluginBundle.Json.Reader

/-!
# What string literals stand for

JSON says by rules what stands between the quotes of a string literal.  A visible character stands
for itself, unless it is the quote or the backslash; a backslash and a letter stand for one of eight
characters; `\u` and four digits stand for a code unit, and two of them that are surrogates for one
character beyond the first plane.  `StandsFor` is these rules as a relation, and knows no reader.

* `readString_spells` is one step of reading: the reader goes over any spelling of a character.
* `readString_spellsAll` is the whole literal, by induction over its spellings.
* `StandsFor.unique` follows: no literal stands for two strings, though a string has many literals.

That the reader refuses every other text is not said here.
-/

namespace PluginBundle.Json

/-! ## The rules -/

/-- The letters behind a backslash, and what they stand for. -/
def escapeLetters : List (Char × Char) :=
  [('"', '"'), ('\\', '\\'), ('/', '/'), ('b', '\x08'), ('f', '\x0c'), ('n', '\n'), ('r', '\r'),
   ('t', '\t')]

/-- Four hexadecimal digits, and the code unit that they write. -/
inductive UnitDigits : List Char → Nat → Prop where
  | mk {a b c d : Char} {i j k l : Nat} (ha : hexValue? a = some i) (hb : hexValue? b = some j)
      (hc : hexValue? c = some k) (hd : hexValue? d = some l) :
      UnitDigits [a, b, c, d] (((i * 16 + j) * 16 + k) * 16 + l)

/-- The spellings of a character. -/
inductive Spells : List Char → Char → Prop where
  | visible {c : Char} (hvisible : 0x20 ≤ c.toNat) (hquote : c ≠ '"') (hbackslash : c ≠ '\\') :
      Spells [c] c
  | letter {letter c : Char} (hletter : (letter, c) ∈ escapeLetters) : Spells ['\\', letter] c
  | unit {digits : List Char} {c : Char} (hdigits : UnitDigits digits c.toNat) :
      Spells ('\\' :: 'u' :: digits) c
  | pair {leading trailing : List Char} {l t : Nat} {c : Char} (hleading : UnitDigits leading l)
      (hl : 0xD800 ≤ l ∧ l ≤ 0xDBFF) (htrailing : UnitDigits trailing t)
      (ht : 0xDC00 ≤ t ∧ t ≤ 0xDFFF)
      (hc : c.toNat = (l - 0xD800) * 0x400 + (t - 0xDC00) + 0x10000) :
      Spells ('\\' :: 'u' :: (leading ++ '\\' :: 'u' :: trailing)) c

/-- Characters that are spelled one after the other. -/
inductive SpellsAll : List Char → List Char → Prop where
  | nil : SpellsAll [] []
  | cons {part parts : List Char} {c : Char} {cs : List Char} (hfirst : Spells part c)
      (hrest : SpellsAll parts cs) : SpellsAll (part ++ parts) (c :: cs)

/-- The string literal stands for the string. -/
def StandsFor (literal s : String) : Prop :=
  ∃ body, literal.toList = '"' :: (body ++ ['"']) ∧ SpellsAll body s.toList

/-! ## Reading by the rules -/

theorem codeUnit_unitDigits {digits : List Char} {n : Nat} (h : UnitDigits digits n)
    (rest : List Char) : codeUnit (digits ++ rest) = .ok n := by
  cases h with
  | mk ha hb hc hd => simp [codeUnit, ha, hb, hc, hd]

theorem UnitDigits.length_eq {digits : List Char} {n : Nat} (h : UnitDigits digits n) :
    digits.length = 4 := by
  cases h
  rfl

/-- The characters of an understood escape are passed over. -/
theorem readString_append (known rest : List Char) :
    readString known.length (known ++ rest) = readString 0 rest := by
  induction known with
  | nil => rfl
  | cons c known ih => exact ih

/-- No character is a surrogate. -/
theorem not_isSurrogate (c : Char) :
    isTrailingSurrogate c.toNat = false ∧ isLeadingSurrogate c.toNat = false := by
  have hvalid : c.toNat < 0xD800 ∨ 0xDFFF < c.toNat ∧ c.toNat < 0x110000 := c.valid
  constructor
  · simp [isTrailingSurrogate]
    omega
  · simp [isLeadingSurrogate]
    omega

/-- The code unit of a character is read as that character. -/
theorem readEscape_unit {digits : List Char} {c : Char} (h : UnitDigits digits c.toNat)
    (rest : List Char) : readEscape ('u' :: (digits ++ rest)) = .ok (c, 5) := by
  obtain ⟨htrailing, hleading⟩ := not_isSurrogate c
  simp [readEscape, codeUnit_unitDigits h, htrailing, hleading]

/-- Two surrogates are read as the character that they make up. -/
theorem readEscape_pair {leading trailing : List Char} {l t : Nat} {c : Char}
    (hleading : UnitDigits leading l) (hl : 0xD800 ≤ l ∧ l ≤ 0xDBFF)
    (htrailing : UnitDigits trailing t) (ht : 0xDC00 ≤ t ∧ t ≤ 0xDFFF)
    (hc : c.toNat = (l - 0xD800) * 0x400 + (t - 0xDC00) + 0x10000) (rest : List Char) :
    readEscape ('u' :: (leading ++ '\\' :: 'u' :: (trailing ++ rest))) = .ok (c, 11) := by
  have hnot : isTrailingSurrogate l = false := by
    simp [isTrailingSurrogate]
    omega
  have hfirst : isLeadingSurrogate l = true := by simp [isLeadingSurrogate, hl]
  have hsecond : isTrailingSurrogate t = true := by simp [isTrailingSurrogate, ht]
  have hpair : pairedChar l t = c := by rw [pairedChar, ← hc, Char.ofNat_toNat]
  have hbehind : (leading ++ '\\' :: 'u' :: (trailing ++ rest)).drop 4 =
      '\\' :: 'u' :: (trailing ++ rest) := List.drop_left' hleading.length_eq
  simp [readEscape, codeUnit_unitDigits hleading, codeUnit_unitDigits htrailing, hnot, hfirst,
    hsecond, hpair, hbehind]

/-- **One step of reading.**  The reader goes over a spelling of a character and puts the character
in front of the rest. -/
theorem readString_spells {part : List Char} {c : Char} (h : Spells part c) (rest : List Char) :
    readString 0 (part ++ rest) = emit c (readString 0 rest) := by
  cases h with
  | visible hvisible hquote hbackslash =>
      simp [readString, hquote, hbackslash, Nat.not_lt.2 hvisible]
  | letter hletter =>
      simp only [escapeLetters, List.mem_cons, Prod.mk.injEq, List.not_mem_nil, or_false] at hletter
      rcases hletter with ⟨rfl, rfl⟩ | ⟨rfl, rfl⟩ | ⟨rfl, rfl⟩ | ⟨rfl, rfl⟩ | ⟨rfl, rfl⟩ |
        ⟨rfl, rfl⟩ | ⟨rfl, rfl⟩ | ⟨rfl, rfl⟩
      all_goals simp [readString, readEscape, shortEscape?]
  | @unit digits _ hdigits =>
      have hskip := readString_append ('u' :: digits) rest
      rw [List.length_cons, hdigits.length_eq] at hskip
      simpa [readString, readEscape_unit hdigits] using congrArg (emit c) hskip
  | @pair leading trailing _ _ _ hleading hl htrailing ht hc =>
      have hskip := readString_append ('u' :: (leading ++ '\\' :: 'u' :: trailing)) rest
      simp only [List.length_cons, List.length_append, hleading.length_eq,
        htrailing.length_eq] at hskip
      simpa [readString, readEscape_pair hleading hl htrailing ht hc] using congrArg (emit c) hskip

/-- **The whole literal.**  Behind its opening quote it is read up to its closing one, as what it
spells. -/
theorem readString_spellsAll {body cs : List Char} (h : SpellsAll body cs) (rest : List Char) :
    readString 0 (body ++ '"' :: rest) = .ok (cs, rest) := by
  induction h with
  | nil => simp [readString]
  | cons hfirst hrest ih =>
      rw [List.append_assoc, readString_spells hfirst, ih]
      rfl

theorem SpellsAll.unique {body cs ds : List Char} (hc : SpellsAll body cs)
    (hd : SpellsAll body ds) : cs = ds := by
  have hread := readString_spellsAll hc []
  rw [readString_spellsAll hd] at hread
  simpa using hread.symm

/-- No literal stands for two strings. -/
theorem StandsFor.unique {literal s t : String} (hs : StandsFor literal s)
    (ht : StandsFor literal t) : s = t := by
  obtain ⟨body, hbody, hspells⟩ := hs
  obtain ⟨body', hbody', hspells'⟩ := ht
  rw [hbody] at hbody'
  have hsame : body = body' := by simpa using hbody'
  subst hsame
  exact String.toList_inj.1 (hspells.unique hspells')

end PluginBundle.Json
