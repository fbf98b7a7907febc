import PluginBundle.Proofs.Json.Keys
import PluginBundle.Proofs.Json.Lines
import PluginBundle.Proofs.Json.Literals

/-!
# Values are read back from their texts

The text of a value is read as that value, if the value has no float in it, holds each key once, and
nests no deeper than the reader goes.  Floats are left out: whether the digits of a float are read
as the same float is a question of rounding, which is not looked at here.

A number has no end of its own, so the reader has to meet something behind it that cannot be part
of it.  `ReadsBack` therefore asks only for what may stand behind a value: the end of the text, a
comma, or a closing bracket or brace.  The proof is an induction over the value, with one lemma for
each kind of text: digits, items, members.
-/

namespace PluginBundle.Json

/-! ## What is asked of a value -/

/-- No number of the value is a float. -/
inductive Value.FloatFree : Value → Prop where
  | null : FloatFree .null
  | bool (b : Bool) : FloatFree (.bool b)
  | whole (i : Int) (fits : IsWhole i) : FloatFree (.number (.whole i fits))
  | string (s : String) : FloatFree (.string s)
  | array {items : List Value} (hitems : ∀ v ∈ items, FloatFree v) : FloatFree (.array items)
  | object {members : List (String × Value)} (hmembers : ∀ p ∈ members, FloatFree p.2) :
      FloatFree (.object members)

theorem Value.FloatFree.item {items : List Value} (h : (Value.array items).FloatFree) {v : Value}
    (hv : v ∈ items) : v.FloatFree := by
  cases h with
  | array hitems => exact hitems v hv

theorem Value.FloatFree.member {members : List (String × Value)}
    (h : (Value.object members).FloatFree) {p : String × Value} (hp : p ∈ members) :
    p.2.FloatFree := by
  cases h with
  | object hmembers => exact hmembers p hp

mutual

/-- How many arrays and objects are nested in each other. -/
def Value.depth : Value → Nat
  | .array items => itemsDepth items + 1
  | .object members => membersDepth members + 1
  | _ => 0

/-- The depth of the deepest item. -/
def itemsDepth : List Value → Nat
  | [] => 0
  | v :: rest => max v.depth (itemsDepth rest)

/-- The depth of the deepest member. -/
def membersDepth : List (String × Value) → Nat
  | [] => 0
  | (_, v) :: rest => max v.depth (membersDepth rest)

end

theorem itemsDepth_le_iff {items : List Value} {n : Nat} :
    itemsDepth items ≤ n ↔ ∀ v ∈ items, v.depth ≤ n := by
  induction items with
  | nil => simp [itemsDepth]
  | cons v rest ih => rw [itemsDepth, Nat.max_le, ih, List.forall_mem_cons]

theorem membersDepth_le_iff {members : List (String × Value)} {n : Nat} :
    membersDepth members ≤ n ↔ ∀ p ∈ members, p.2.depth ≤ n := by
  induction members with
  | nil => simp [membersDepth]
  | cons p rest ih => rw [membersDepth, Nat.max_le, ih, List.forall_mem_cons]

/-- What may stand behind a value: nothing, a comma, or a closing bracket or brace. -/
inductive Delimited : List Char → Prop where
  | nil : Delimited []
  | comma (rest : List Char) : Delimited (',' :: rest)
  | bracket (rest : List Char) : Delimited (']' :: rest)
  | brace (rest : List Char) : Delimited ('}' :: rest)

/-- The reader takes the text of the value and nothing that stands behind it. -/
def ReadsBack (element : Reader Value) (v : Value) : Prop :=
  ∀ rest, Delimited rest → element (v.chars ++ rest) = .ok (v, rest)

/-! ## Whole numbers -/

theorem le_ofDigitChars (cs : List Char) (s : Nat) : s ≤ Nat.ofDigitChars 10 cs s := by
  induction cs generalizing s with
  | nil => simp
  | cons c cs ih =>
      have hrest := ih (10 * s + (c.toNat - '0'.toNat))
      rw [Nat.ofDigitChars_cons]
      omega

/-- Digits of a number that fits are all taken into the significand. -/
theorem absorb_eq_ofDigitChars (cs : List Char) (s : Nat)
    (h : Nat.ofDigitChars 10 cs s < significandBound) :
    absorb s cs = (Nat.ofDigitChars 10 cs s, []) := by
  induction cs generalizing s with
  | nil => simp [absorb]
  | cons c cs ih =>
      rw [Nat.ofDigitChars_cons] at h ⊢
      have hvalue : s * 10 + digitValue c = 10 * s + (c.toNat - '0'.toNat) := by
        simp only [digitValue, Char.reduceToNat]
        omega
      have hfits := Nat.lt_of_le_of_lt (le_ofDigitChars cs _) h
      rw [absorb, hvalue, if_pos hfits, ih _ h]

theorem absorb_toDigits {n : Nat} (h : n < significandBound) :
    absorb 0 (Nat.toDigits 10 n) = (n, []) := by
  have hvalue : Nat.ofDigitChars 10 (Nat.toDigits 10 n) 0 = n := Nat.ofDigitChars_ten_toDigits
  rw [absorb_eq_ofDigitChars _ _ (by rw [hvalue]; exact h), hvalue]

/-- The digits of a number other than zero do not start with a zero. -/
theorem toDigits_first {n : Nat} (h : 0 < n) :
    ∃ d ds, Nat.toDigits 10 n = d :: ds ∧ d ≠ '0' := by
  induction n using Nat.strongRecOn with
  | ind n ih =>
      by_cases hsmall : n < 10
      · have hfirst : ∀ m < 10, 0 < m → Nat.digitChar m ≠ '0' := by decide
        exact ⟨_, [], Nat.toDigits_of_lt_base hsmall, hfirst n hsmall h⟩
      · have hlarge : 10 ≤ n := Nat.le_of_not_lt hsmall
        obtain ⟨d, ds, hdigits, hd⟩ := ih (n / 10) (by omega) (by omega)
        refine ⟨d, ds ++ [Nat.digitChar (n % 10)], ?_, hd⟩
        rw [Nat.toDigits_of_base_le (by decide) hlarge, hdigits]
        rfl

theorem isDigit_of_mem_toDigits {n : Nat} : ∀ c ∈ Nat.toDigits 10 n, c.isDigit = true :=
  fun _ hc => Nat.isDigit_of_mem_toDigits (by decide) (by decide) hc

/-- Digits end where the number ends. -/
theorem takeWhile_toDigits_append (n : Nat) {rest : List Char} (hrest : Delimited rest) :
    (Nat.toDigits 10 n ++ rest).takeWhile Char.isDigit = Nat.toDigits 10 n ∧
      (Nat.toDigits 10 n ++ rest).dropWhile Char.isDigit = rest := by
  rw [List.takeWhile_append_of_pos isDigit_of_mem_toDigits,
    List.dropWhile_append_of_pos isDigit_of_mem_toDigits]
  cases hrest <;> simp

/-- The digits of a number are read as that number. -/
theorem readNumber_toDigits (negative : Bool) {n : Nat} (h : n < significandBound)
    {rest : List Char} (hrest : Delimited rest) :
    readNumber negative (Nat.toDigits 10 n ++ rest) = numberOr rest (wholeNumber negative n) := by
  obtain ⟨htake, hdrop⟩ := takeWhile_toDigits_append n hrest
  have habsorb := absorb_toDigits h
  unfold readNumber
  simp only [htake, hdrop]
  split
  · rename_i hnone
    exact absurd hnone Nat.toDigits_ne_nil
  · rename_i d ds hzero
    rcases Nat.eq_zero_or_pos n with rfl | hpos
    · simp at hzero
    · obtain ⟨first, others, hdigits, hfirst⟩ := toDigits_first hpos
      rw [hdigits] at hzero
      cases hzero
      exact absurd rfl hfirst
  · rw [habsorb]
    cases hrest <;> rfl

/-- A number that fits is whole, unless it is a zero with a sign. -/
theorem wholeNumber_eq_some (negative : Bool) (n : Nat) {i : Int}
    (hi : (if negative = true then -(n : Int) else n) = i) (fits : IsWhole i)
    (hzero : ¬(negative = true ∧ n = 0)) : wholeNumber negative n = some (.whole i fits) := by
  subst hi
  exact dif_pos ⟨fits, hzero⟩

/-! ## The start of a value -/

theorem skipSpace_cons {c : Char} (h : isSpace c = false) (rest : List Char) :
    skipSpace (c :: rest) = c :: rest := by
  simp [skipSpace, h]

theorem not_isSpace_of_isDigit {c : Char} (h : c.isDigit = true) : isSpace c = false := by
  simp only [isSpace, Bool.or_eq_false_iff, beq_eq_false_iff_ne]
  refine ⟨⟨⟨?_, ?_⟩, ?_⟩, ?_⟩ <;>
    · rintro rfl
      cases h

/-- A number without a sign starts with one of its digits. -/
theorem toDigits_cons (n : Nat) :
    ∃ d ds, Nat.toDigits 10 n = d :: ds ∧ d.isDigit = true := by
  cases hdigits : Nat.toDigits 10 n with
  | nil => exact absurd hdigits Nat.toDigits_ne_nil
  | cons d ds => exact ⟨d, ds, rfl, isDigit_of_mem_toDigits d (hdigits ▸ List.mem_cons_self)⟩

/-- The text of a value starts with no blank, and not with the end of an array. -/
theorem chars_first {v : Value} (h : v.FloatFree) :
    ∃ c more, v.chars = c :: more ∧ isSpace c = false ∧ c ≠ ']' := by
  cases h with
  | null => exact ⟨'n', _, rfl, by decide, by decide⟩
  | bool b =>
      cases b with
      | true => exact ⟨'t', _, rfl, by decide, by decide⟩
      | false => exact ⟨'f', _, rfl, by decide, by decide⟩
  | whole i fits =>
      cases i with
      | ofNat n =>
          obtain ⟨d, ds, hdigits, hd⟩ := toDigits_cons n
          refine ⟨d, ds, ?_, not_isSpace_of_isDigit hd, ?_⟩
          · simp [Value.chars, Value.text, Number.text, wholeText, hdigits]
          · rintro rfl
            cases hd
      | negSucc n =>
          refine ⟨'-', Nat.toDigits 10 (n + 1), ?_, by decide, by decide⟩
          simp [Value.chars, Value.text, Number.text, wholeText]
  | string s => exact ⟨'"', _, toList_quote s, by decide, by decide⟩
  | array _ => exact ⟨'[', _, chars_array _, by decide, by decide⟩
  | object _ => exact ⟨'{', _, chars_object _, by decide, by decide⟩

/-! ## Values without parts -/

theorem readsBack_null (depth : Nat) : ReadsBack (readValue depth) .null := by
  intro rest _
  simp [Value.chars, Value.text, readValue, skipSpace_cons, isSpace, readWord, Except.map]

theorem readsBack_bool (depth : Nat) (b : Bool) : ReadsBack (readValue depth) (.bool b) := by
  intro rest _
  cases b <;>
    simp [Value.chars, Value.text, readValue, skipSpace_cons, isSpace, readWord, Except.map]

theorem readsBack_string (depth : Nat) (s : String) : ReadsBack (readValue depth) (.string s) := by
  intro rest _
  have hread := readString_flatMap_escape s.toList rest
  simp [Value.chars, Value.text, toList_quote, readValue, skipSpace_cons, isSpace, hread,
    Except.map]

/-- A digit starts a number without a sign. -/
theorem readValue_digit (depth : Nat) {d : Char} (h : d.isDigit = true) (rest : List Char) :
    readValue depth (d :: rest) =
      (readNumber false (d :: rest)).map fun p => (.number p.1, p.2) := by
  unfold readValue
  rw [skipSpace_cons (not_isSpace_of_isDigit h)]
  split
  case h_9 heq =>
    cases heq
    rw [if_pos h]
  -- The other characters that start a value are no digits.
  all_goals
    rename_i heq
    cases heq <;> cases h

theorem readsBack_whole (depth : Nat) (i : Int) (fits : IsWhole i) :
    ReadsBack (readValue depth) (.number (.whole i fits)) := by
  intro rest hrest
  cases i with
  | ofNat n =>
      have hbound : n < significandBound := Int.ofNat_lt.1 fits.2
      obtain ⟨d, ds, hdigits, hd⟩ := toDigits_cons n
      have hread := readNumber_toDigits false hbound hrest
      have hchars : (Value.number (.whole (.ofNat n) fits)).chars = Nat.toDigits 10 n := by
        simp [Value.chars, Value.text, Number.text, wholeText]
      have hwhole : wholeNumber false n = some (.whole (.ofNat n) fits) :=
        wholeNumber_eq_some false n rfl fits (by simp)
      rw [hwhole, hdigits, List.cons_append] at hread
      rw [hchars, hdigits, List.cons_append, readValue_digit depth hd, hread]
      rfl
  | negSucc n =>
      have hbound : n + 1 < significandBound := by
        have hlow : -9223372036854775808 ≤ Int.negSucc n := fits.1
        simp only [significandBound]
        omega
      have hread := readNumber_toDigits true hbound hrest
      have hchars : (Value.number (.whole (.negSucc n) fits)).chars =
          '-' :: Nat.toDigits 10 (n + 1) := by
        simp [Value.chars, Value.text, Number.text, wholeText]
      have hwhole : wholeNumber true (n + 1) = some (.whole (.negSucc n) fits) :=
        wholeNumber_eq_some true (n + 1) (if_pos rfl) fits (by simp)
      rw [hwhole] at hread
      rw [hchars, List.cons_append]
      simp [readValue, skipSpace_cons, isSpace, hread, numberOr, Except.map]

/-! ## Arrays -/

/-- Something behind a comma, or the bracket or brace at the end. -/
theorem delimited_behindCommas (texts : List (List Char)) {rest : List Char}
    (hrest : Delimited rest) : Delimited (behindCommas texts ++ rest) := by
  cases texts with
  | nil => exact hrest
  | cons text texts =>
      rw [behindCommas_cons, List.cons_append]
      exact .comma _

/-- The first item of an array, and what is read behind it. -/
theorem readItems_first {element : Reader Value} {fuel : Nat} {c : Char} {cs more rest : List Char}
    {v : Value} {vs : List Value} (hblank : isSpace c = false) (hend : c ≠ ']')
    (hvalue : element (c :: cs) = .ok (v, more))
    (hmore : readItems element fuel false more = .ok (vs, rest)) :
    readItems element (fuel + 1) true (c :: cs) = .ok (v :: vs, rest) := by
  unfold readItems
  rw [skipSpace_cons hblank]
  split
  · rename_i heq
    cases heq
  · rename_i heq
    cases heq
    exact absurd rfl hend
  · rename_i heq
    cases heq
    simp [bind, Except.bind, pure, Except.pure, hvalue, hmore]

/-- A further item behind its comma. -/
theorem readItems_next {element : Reader Value} {fuel : Nat} {c : Char} {cs more rest : List Char}
    {v : Value} {vs : List Value} (hblank : isSpace c = false) (hend : c ≠ ']')
    (hvalue : element (c :: cs) = .ok (v, more))
    (hmore : readItems element fuel false more = .ok (vs, rest)) :
    readItems element (fuel + 1) false (',' :: c :: cs) = .ok (v :: vs, rest) := by
  have hcomma : skipSpace (',' :: c :: cs) = ',' :: c :: cs := skipSpace_cons (by decide) _
  simp only [readItems, hcomma, skipSpace_cons hblank, Bool.false_eq_true, Char.reduceEq, if_false,
    if_true, imp_self]
  split
  · rename_i heq
    cases heq
  · rename_i heq
    cases heq
    exact absurd rfl hend
  · simp [bind, Except.bind, pure, Except.pure, hvalue, hmore]

/-- The items after the first one, each behind its comma. -/
theorem readItems_behindCommas {element : Reader Value} {items : List Value}
    (hread : ∀ v ∈ items, ReadsBack element v) (hfree : ∀ v ∈ items, v.FloatFree) {fuel : Nat}
    (hfuel : items.length < fuel) (rest : List Char) :
    readItems element fuel false (behindCommas (items.map Value.chars) ++ ']' :: rest) =
      .ok (items, rest) := by
  induction items generalizing fuel with
  | nil =>
      cases fuel with
      | zero => simp at hfuel
      | succ fuel => simp [readItems, skipSpace_cons, isSpace]
  | cons v items ih =>
      cases fuel with
      | zero => simp at hfuel
      | succ fuel =>
          obtain ⟨hfirst, hothers⟩ := List.forall_mem_cons.1 hread
          obtain ⟨hv, hitems⟩ := List.forall_mem_cons.1 hfree
          obtain ⟨c, more, hchars, hblank, hend⟩ := chars_first hv
          have hmore := ih hothers hitems (Nat.lt_of_succ_lt_succ hfuel)
          have hvalue := hfirst _ (delimited_behindCommas (items.map Value.chars) (.bracket rest))
          rw [hchars, List.cons_append] at hvalue
          have hnext := readItems_next hblank hend hvalue hmore
          simpa [hchars] using hnext

/-- All items of an array, up to its closing bracket. -/
theorem readItems_itemsText {element : Reader Value} {items : List Value}
    (hread : ∀ v ∈ items, ReadsBack element v) (hfree : ∀ v ∈ items, v.FloatFree) {fuel : Nat}
    (hfuel : items.length < fuel) (rest : List Char) :
    readItems element fuel true ((itemsText items).toList ++ ']' :: rest) = .ok (items, rest) := by
  cases fuel with
  | zero => simp at hfuel
  | succ fuel =>
      cases items with
      | nil => simp [itemsText, readItems, skipSpace_cons, isSpace]
      | cons v items =>
          obtain ⟨hfirst, hothers⟩ := List.forall_mem_cons.1 hread
          obtain ⟨hv, hitems⟩ := List.forall_mem_cons.1 hfree
          obtain ⟨c, more, hchars, hblank, hend⟩ := chars_first hv
          have hmore := readItems_behindCommas hothers hitems (Nat.lt_of_succ_lt_succ hfuel) rest
          have hvalue := hfirst _ (delimited_behindCommas (items.map Value.chars) (.bracket rest))
          rw [hchars, List.cons_append] at hvalue
          have hall := readItems_first hblank hend hvalue hmore
          rw [toList_itemsText_cons, hchars]
          simpa using hall

theorem length_le_behindCommas (texts : List (List Char)) :
    texts.length ≤ (behindCommas texts).length := by
  induction texts with
  | nil => simp
  | cons text rest ih =>
      rw [behindCommas_cons, List.length_cons, List.length_cons, List.length_append]
      omega

/-- A text has a character for each of its items, except perhaps the first one. -/
theorem length_le_itemsText (items : List Value) :
    items.length ≤ (itemsText items).toList.length + 1 := by
  cases items with
  | nil => simp
  | cons v rest =>
      have hrest := length_le_behindCommas (rest.map Value.chars)
      rw [List.length_map] at hrest
      rw [toList_itemsText_cons, List.length_cons, List.length_append]
      omega

/-- An array is read back, if its items are. -/
theorem readsBack_array {depth : Nat} {items : List Value}
    (hread : ∀ v ∈ items, ReadsBack (readValue depth) v) (hfree : ∀ v ∈ items, v.FloatFree) :
    ReadsBack (readValue (depth + 1)) (.array items) := by
  intro rest _
  have hlength := length_le_itemsText items
  have hfuel : items.length < (itemsText items).toList.length + (rest.length + 1) + 1 := by omega
  have hitems := readItems_itemsText hread hfree hfuel rest
  simp [chars_array, readValue, skipSpace_cons, isSpace, hitems, Except.map]

/-! ## Objects -/

/-- What reading a member meets: behind the opening quote its key, and then its value. -/
theorem memberChars_cons {element : Reader Value} {p : String × Value}
    (hread : ReadsBack element p.2) {rest : List Char} (hrest : Delimited rest) :
    ∃ more, memberChars p = '"' :: more ∧
      readString 0 (more ++ rest) = .ok (p.1.toList, ':' :: (p.2.chars ++ rest)) ∧
      element (p.2.chars ++ rest) = .ok (p.2, rest) := by
  have hkey := readString_flatMap_escape p.1.toList (':' :: (p.2.chars ++ rest))
  refine ⟨p.1.toList.flatMap escape ++ '"' :: ':' :: p.2.chars, ?_, ?_, hread rest hrest⟩
  · simp [memberChars, toList_quote]
  · simpa using hkey

/-- The members after the first one, each behind its comma. -/
theorem readMembers_behindCommas {element : Reader Value} {members : List (String × Value)}
    (hread : ∀ p ∈ members, ReadsBack element p.2) {fuel : Nat} (hfuel : members.length < fuel)
    (rest : List Char) :
    readMembers element fuel false (behindCommas (members.map memberChars) ++ '}' :: rest) =
      .ok (members, rest) := by
  induction members generalizing fuel with
  | nil =>
      cases fuel with
      | zero => simp at hfuel
      | succ fuel => simp [readMembers, skipSpace_cons, isSpace]
  | cons p members ih =>
      cases fuel with
      | zero => simp at hfuel
      | succ fuel =>
          obtain ⟨hfirst, hothers⟩ := List.forall_mem_cons.1 hread
          have hmore := ih hothers (Nat.lt_of_succ_lt_succ hfuel)
          obtain ⟨more, hchars, hkey, hvalue⟩ := memberChars_cons hfirst
            (delimited_behindCommas (members.map memberChars) (.brace rest))
          simp [readMembers, skipSpace_cons, isSpace, hchars, hkey, hvalue, hmore, bind,
            Except.bind, pure, Except.pure]

/-- All members of an object, up to its closing brace. -/
theorem readMembers_membersText {element : Reader Value} {members : List (String × Value)}
    (hread : ∀ p ∈ members, ReadsBack element p.2) {fuel : Nat} (hfuel : members.length < fuel)
    (rest : List Char) :
    readMembers element fuel true ((membersText members).toList ++ '}' :: rest) =
      .ok (members, rest) := by
  cases fuel with
  | zero => simp at hfuel
  | succ fuel =>
      cases members with
      | nil => simp [membersText, readMembers, skipSpace_cons, isSpace]
      | cons p members =>
          obtain ⟨hfirst, hothers⟩ := List.forall_mem_cons.1 hread
          have hmore := readMembers_behindCommas hothers (Nat.lt_of_succ_lt_succ hfuel) rest
          obtain ⟨more, hchars, hkey, hvalue⟩ := memberChars_cons hfirst
            (delimited_behindCommas (members.map memberChars) (.brace rest))
          simp [toList_membersText_cons, readMembers, skipSpace_cons, isSpace, hchars, hkey,
            hvalue, hmore, bind, Except.bind, pure, Except.pure]

theorem length_le_membersText (members : List (String × Value)) :
    members.length ≤ (membersText members).toList.length + 1 := by
  cases members with
  | nil => simp
  | cons p rest =>
      have hrest := length_le_behindCommas (rest.map memberChars)
      rw [List.length_map] at hrest
      rw [toList_membersText_cons, List.length_cons, List.length_append]
      omega

/-- An object is read back, if its members are and each key occurs once. -/
theorem readsBack_object {depth : Nat} {members : List (String × Value)}
    (hread : ∀ p ∈ members, ReadsBack (readValue depth) p.2)
    (hkeys : (Keyed.keys members).Nodup) :
    ReadsBack (readValue (depth + 1)) (.object members) := by
  intro rest _
  have hlength := length_le_membersText members
  have hfuel : members.length < (membersText members).toList.length + (rest.length + 1) + 1 := by
    omega
  have hmembers := readMembers_membersText hread hfuel rest
  have hcollect := Keyed.collect_eq_self hkeys
  simp [chars_object, readValue, skipSpace_cons, isSpace, hmembers, hcollect, Except.map]

/-! ## Values -/

/-- **A value is read back from its text**, whatever may stand behind it. -/
theorem readsBack {v : Value} (hkeys : v.KeysOnce) (hfree : v.FloatFree) {depth : Nat}
    (hdepth : v.depth ≤ depth) : ReadsBack (readValue depth) v := by
  induction v using Value.inductionOn generalizing depth with
  | null => exact readsBack_null depth
  | bool b => exact readsBack_bool depth b
  | number n =>
      cases hfree
      exact readsBack_whole depth _ _
  | string s => exact readsBack_string depth s
  | array items ih =>
      cases depth with
      | zero => simp [Value.depth] at hdepth
      | succ depth =>
          have hitems := itemsDepth_le_iff.1 (Nat.le_of_succ_le_succ hdepth)
          have hread : ∀ v ∈ items, ReadsBack (readValue depth) v :=
            fun v hv => ih v hv (hkeys.item hv) (hfree.item hv) (hitems v hv)
          exact readsBack_array hread fun v hv => hfree.item hv
  | object members ih =>
      cases depth with
      | zero => simp [Value.depth] at hdepth
      | succ depth =>
          have hmembers := membersDepth_le_iff.1 (Nat.le_of_succ_le_succ hdepth)
          have hread : ∀ p ∈ members, ReadsBack (readValue depth) p.2 :=
            fun p hp => ih p hp (hkeys.member hp) (hfree.member hp) (hmembers p hp)
          exact readsBack_object hread hkeys.nodup

/-- The reader takes the text of a value for that value. -/
theorem read_text {v : Value} (hkeys : v.KeysOnce) (hfree : v.FloatFree)
    (hdepth : v.depth ≤ depthLimit) : read v.text = .ok v := by
  have hread := readsBack hkeys hfree hdepth [] .nil
  rw [List.append_nil] at hread
  unfold read
  have hchars : v.text.toList = v.chars := rfl
  rw [hchars, hread]
  rfl

/-- The literal of a string is a text of its own. -/
theorem read_quote (s : String) : read (quote s) = .ok (.string s) := by
  have hkeys : (Value.string s).KeysOnce := .string s
  have hfree : (Value.string s).FloatFree := .string s
  have hdepth : (Value.string s).depth ≤ depthLimit := by simp [Value.depth]
  have hread := read_text hkeys hfree hdepth
  rwa [Value.text] at hread

end PluginBundle.Json
