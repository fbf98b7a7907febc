import PluginBundle.Json.Text

/-!
# The text of a value is one line

The text of a value holds no character below the blank, and so no end of a line.  For strings this
is what escaping is for; numbers have digits and a few signs only; arrays and objects put their
parts together with brackets, commas and colons.

The texts of arrays and objects are first written as their first part and then each further part
behind a comma, which is the form that a reader meets them in.
-/

namespace PluginBundle.Json

/-! ## Parts behind commas -/

/-- Texts one after the other, each behind a comma. -/
def behindCommas (texts : List (List Char)) : List Char := texts.flatMap fun text => ',' :: text

@[simp] theorem behindCommas_nil : behindCommas [] = [] := rfl

@[simp] theorem behindCommas_cons (text : List Char) (rest : List (List Char)) :
    behindCommas (text :: rest) = ',' :: (text ++ behindCommas rest) := by
  simp [behindCommas]

/-- The characters of a value's text. -/
def Value.chars (v : Value) : List Char := v.text.toList

/-- The characters of a member: its key and its value. -/
def memberChars (p : String × Value) : List Char := (quote p.1).toList ++ ':' :: p.2.chars

theorem toList_itemsText_cons (v : Value) (rest : List Value) :
    (itemsText (v :: rest)).toList = v.chars ++ behindCommas (rest.map Value.chars) := by
  induction rest generalizing v with
  | nil => simp [itemsText, Value.chars]
  | cons w rest ih => simp [itemsText, ih, Value.chars]

theorem toList_membersText_cons (p : String × Value) (rest : List (String × Value)) :
    (membersText (p :: rest)).toList =
      memberChars p ++ behindCommas (rest.map memberChars) := by
  induction rest generalizing p with
  | nil => simp [membersText, memberChars, Value.chars]
  | cons q rest ih => simp [membersText, ih, memberChars, Value.chars]

theorem chars_array (items : List Value) :
    (Value.array items).chars = '[' :: ((itemsText items).toList ++ [']']) := by
  simp [Value.chars, Value.text]

theorem chars_object (members : List (String × Value)) :
    (Value.object members).chars = '{' :: ((membersText members).toList ++ ['}']) := by
  simp [Value.chars, Value.text]

/-! ## Texts on one line -/

/-- No character is below the blank. -/
def OneLine (cs : List Char) : Prop := ∀ c ∈ cs, 0x20 ≤ c.toNat

instance (cs : List Char) : Decidable (OneLine cs) :=
  decidable_of_iff (cs.all (fun c => 0x20 ≤ c.toNat) = true) (by simp [OneLine])

@[simp] theorem oneLine_nil : OneLine [] := by simp [OneLine]

@[simp] theorem oneLine_cons_iff (c : Char) (cs : List Char) :
    OneLine (c :: cs) ↔ 0x20 ≤ c.toNat ∧ OneLine cs := by
  simp [OneLine]

@[simp] theorem oneLine_append_iff (cs ds : List Char) :
    OneLine (cs ++ ds) ↔ OneLine cs ∧ OneLine ds := by
  simp only [OneLine, List.mem_append]
  constructor
  · intro h
    exact ⟨fun c hc => h c (.inl hc), fun c hc => h c (.inr hc)⟩
  · rintro ⟨hcs, hds⟩ c (hc | hc)
    · exact hcs c hc
    · exact hds c hc

theorem OneLine.not_mem_newline {cs : List Char} (h : OneLine cs) : '\n' ∉ cs := by
  intro hmem
  have hnewline := h _ hmem
  revert hnewline
  decide

theorem oneLine_behindCommas {texts : List (List Char)} (h : ∀ text ∈ texts, OneLine text) :
    OneLine (behindCommas texts) := by
  induction texts with
  | nil => simp
  | cons text rest ih =>
      obtain ⟨htext, hrest⟩ := List.forall_mem_cons.1 h
      simp [htext, ih hrest]

/-! ### Strings -/

theorem le_toNat_hexDigit : ∀ n < 16, 0x20 ≤ (hexDigit n).toNat := by decide

theorem oneLine_escape (c : Char) : OneLine (escape c) := by
  unfold escape
  split
  case h_8 =>
    split
    · rename_i hcontrol
      have hhigh := le_toNat_hexDigit (c.toNat / 16) (by omega)
      have hlow := le_toNat_hexDigit (c.toNat % 16) (by omega)
      simp [hhigh, hlow]
    · rename_i hvisible
      simpa using hvisible
  all_goals decide

theorem oneLine_quote (s : String) : OneLine (quote s).toList := by
  have hescaped : OneLine (s.toList.flatMap escape) := by
    intro c hc
    obtain ⟨d, -, hd⟩ := List.mem_flatMap.1 hc
    exact oneLine_escape d c hd
  simp [quote, quoteChars, hescaped]

/-! ### Numbers -/

/-- The characters that numbers are written with. -/
def isNumberChar (c : Char) : Bool := c.isDigit || c == '.' || c == '-' || c == '+' || c == 'e'

/-- All characters are those of numbers. -/
def Numeric (cs : List Char) : Prop := ∀ c ∈ cs, isNumberChar c = true

instance (cs : List Char) : Decidable (Numeric cs) :=
  decidable_of_iff (cs.all isNumberChar = true) (by simp [Numeric])

@[simp] theorem numeric_nil : Numeric [] := by simp [Numeric]

@[simp] theorem numeric_cons_iff (c : Char) (cs : List Char) :
    Numeric (c :: cs) ↔ isNumberChar c = true ∧ Numeric cs :=
  List.forall_mem_cons

@[simp] theorem numeric_append_iff (cs ds : List Char) :
    Numeric (cs ++ ds) ↔ Numeric cs ∧ Numeric ds :=
  List.forall_mem_append

theorem numeric_toDigits (n : Nat) : Numeric (Nat.toDigits 10 n) := by
  intro c hc
  have hdigit := Nat.isDigit_of_mem_toDigits (by decide) (by decide) hc
  simp [isNumberChar, hdigit]

theorem numeric_replicate_zero (n : Nat) : Numeric (List.replicate n '0') := by
  intro c hc
  rw [List.eq_of_mem_replicate hc]
  decide

theorem numeric_wholeText (i : Int) : Numeric (wholeText i).toList := by
  cases i with
  | ofNat n => simp [wholeText, numeric_toDigits]
  | negSucc n => simp [wholeText, numeric_toDigits, isNumberChar]

/-- The digits of a decimal are digits, also without the zeros at their end. -/
theorem numeric_scientific (d : Decimal) : Numeric d.scientific.1 := by
  intro c hc
  refine numeric_toDigits d.significand c ?_
  have hkept := List.mem_reverse.1 hc
  exact List.mem_reverse.1 ((List.dropWhile_sublist _).mem hkept)

theorem Numeric.take {cs : List Char} (h : Numeric cs) (n : Nat) : Numeric (cs.take n) :=
  fun c hc => h c (List.mem_of_mem_take hc)

theorem Numeric.drop {cs : List Char} (h : Numeric cs) (n : Nat) : Numeric (cs.drop n) :=
  fun c hc => h c (List.mem_of_mem_drop hc)

/-- However a decimal is laid out, it is written with digits, a point, and an exponent. -/
theorem numeric_layOut (d : Decimal) : Numeric (d.layOut .json).toList := by
  have hpoint : isNumberChar '.' = true := by decide
  have hzero : isNumberChar '0' = true := by decide
  have hexponent : isNumberChar 'e' = true ∧ isNumberChar '-' = true ∧ isNumberChar '+' = true := by
    decide
  cases hscientific : d.scientific with
  | mk digits x =>
      have hdigits : Numeric digits := by
        have hall := numeric_scientific d
        rwa [hscientific] at hall
      simp only [Decimal.layOut, hscientific]
      split
      · split
        · simp [numeric_replicate_zero, hdigits, hpoint, hzero]
        · split
          · simp [numeric_replicate_zero, hdigits.take, hpoint, hzero]
          · simp [numeric_replicate_zero, hdigits.take, hdigits.drop, hpoint]
      · have htail : Numeric digits.tail := by simpa using hdigits.drop 1
        split <;> split <;>
          simp [FloatLayout.json, hdigits.take, htail, numeric_toDigits, hpoint, hexponent]

theorem numeric_floatText (x : Float) : Numeric (floatText .json x).toList := by
  unfold floatText
  dsimp only
  rw [String.toList_append, numeric_append_iff]
  constructor
  · split <;> decide
  · split
    · decide
    · exact numeric_layOut _

theorem numeric_numberText (n : Number) : Numeric n.text.toList := by
  cases n with
  | whole i fits => exact numeric_wholeText i
  | float x finite => exact numeric_floatText x

theorem Numeric.oneLine {cs : List Char} (h : Numeric cs) : OneLine cs := by
  intro c hc
  have hchar := h c hc
  simp only [isNumberChar, Bool.or_eq_true, beq_iff_eq] at hchar
  obtain (((hdigit | rfl) | rfl) | rfl) | rfl := hchar
  · simp only [Char.isDigit, Bool.and_eq_true, decide_eq_true_eq] at hdigit
    have hzero : '0'.toNat ≤ c.toNat := hdigit.1
    exact Nat.le_trans (by decide) hzero
  all_goals decide

/-! ### Values -/

/-- **The text of a value is one line.** -/
theorem oneLine_chars (v : Value) : OneLine v.chars := by
  induction v using Value.inductionOn with
  | null => decide
  | bool b => cases b <;> decide
  | number n => simpa [Value.chars, Value.text] using (numeric_numberText n).oneLine
  | string s => simpa [Value.chars, Value.text] using oneLine_quote s
  | array items ih =>
      rw [chars_array]
      cases items with
      | nil => decide
      | cons v rest =>
          obtain ⟨hfirst, hrest⟩ := List.forall_mem_cons.1 ih
          have hparts : OneLine (behindCommas (rest.map Value.chars)) :=
            oneLine_behindCommas (List.forall_mem_map.2 hrest)
          simp [toList_itemsText_cons, hfirst, hparts]
  | object members ih =>
      rw [chars_object]
      have hmember : ∀ p ∈ members, OneLine (memberChars p) := by
        intro p hp
        simp [memberChars, oneLine_quote, ih p hp]
      cases members with
      | nil => decide
      | cons p rest =>
          obtain ⟨hfirst, hrest⟩ := List.forall_mem_cons.1 hmember
          have hparts : OneLine (behindCommas (rest.map memberChars)) :=
            oneLine_behindCommas (List.forall_mem_map.2 hrest)
          simp [toList_membersText_cons, hfirst, hparts]

end PluginBundle.Json
