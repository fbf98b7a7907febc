import PluginBundle.Proofs.Script.Datum

/-!
# Literals

Reads expressions of the script that are made of literals only: `takeLiteral` takes one from its
text, character by character, by the rules for them.  `takeLiteral_chars` says that the text of a
JSON value is such an expression, whatever may stand behind it, and comes to the datum of the value.

Strings are read as JSON has them, since both languages have all escapes in common that are ever
written.  What the script allows beyond JSON is not read: comments, other blanks, keys without
quotes, strings in other quotes.  So not every literal is taken, but what is taken is one.
-/

namespace PluginBundle

open Json (Value Delimited skipSpace)

/-! ## Reading expressions -/

namespace Literal

/-- Takes an expression from the front of a text, and returns the rest. -/
abbrev Taker := List Char → Option (Datum × List Char)

/-- A string behind its opening quote. -/
def takeString (cs : List Char) : Option (String × List Char) :=
  match Json.readString 0 cs with
  | .error _ => none
  | .ok (s, rest) => some (String.ofList s, rest)

/-- A number, as far as its characters go. -/
def takeNumeral : Taker := fun cs =>
  (numeral? (cs.takeWhile Json.isNumberChar)).map fun spelled =>
    (.ofNumeral spelled.1 spelled.2, cs.dropWhile Json.isNumberChar)

/-- The elements of an array behind its bracket.  A comma may stand behind the last one. -/
def takeElements (element : Taker) : Nat → List Char → Option (List Datum × List Char)
  | 0, _ => none
  | fuel + 1, cs =>
      match skipSpace cs with
      | ']' :: rest => some ([], rest)
      | _ =>
          match element cs with
          | none => none
          | some (v, rest) =>
              match skipSpace rest with
              | ']' :: rest => some ([v], rest)
              | ',' :: rest =>
                  (takeElements element fuel rest).map fun taken => (v :: taken.1, taken.2)
              | _ => none

/-- The properties of an object behind its brace, added to those that are there; each has a quoted
key.  A comma may stand behind the last one.  A second offer of a prototype is an error. -/
def takeProperties (value : Taker) :
    Nat → Properties → List Char → Option (Properties × List Char)
  | 0, _, _ => none
  | fuel + 1, p, cs =>
      match skipSpace cs with
      | '}' :: rest => some (p, rest)
      | '"' :: rest =>
          match takeString rest with
          | none => none
          | some (key, rest) =>
              match skipSpace rest with
              | ':' :: rest =>
                  match value rest with
                  | none => none
                  | some (v, rest) =>
                      if key = prototypeKey ∧ p.prototype.isSome then none
                      else
                        match skipSpace rest with
                        | '}' :: rest => some (p.define key v, rest)
                        | ',' :: rest => takeProperties value fuel (p.define key v) rest
                        | _ => none
              | _ => none
      | _ => none

/-- An expression that is made of literals only.  Each level of brackets takes from the fuel. -/
def takeLiteral : Nat → Taker
  | 0, _ => none
  | fuel + 1, cs =>
      match skipSpace cs with
      | 'n' :: 'u' :: 'l' :: 'l' :: rest => some (.null, rest)
      | 't' :: 'r' :: 'u' :: 'e' :: rest => some (.bool true, rest)
      | 'f' :: 'a' :: 'l' :: 's' :: 'e' :: rest => some (.bool false, rest)
      | '"' :: rest => (takeString rest).map fun taken => (.string taken.1, taken.2)
      | '[' :: rest =>
          (takeElements (takeLiteral fuel) (rest.length + 1) rest).map fun taken =>
            (.array taken.1, taken.2)
      | '{' :: rest =>
          (takeProperties (takeLiteral fuel) (rest.length + 1) .blank rest).map fun taken =>
            (taken.1.datum, taken.2)
      | cs => takeNumeral cs

/-- What a whole text comes to, if it is made of literals only.  There are no more brackets in it
than characters. -/
def evaluate? (text : String) : Option Datum :=
  match takeLiteral (text.toList.length + 1) text.toList with
  | some (v, []) => some v
  | _ => none

/-- The taker takes the text and nothing that stands behind it. -/
def Takes (take : Taker) (cs : List Char) (v : Datum) : Prop :=
  ∀ rest, Delimited rest → take (cs ++ rest) = some (v, rest)

/-! ### Strings and numbers -/

theorem takeString_flatMap_escape (s : String) (rest : List Char) :
    takeString (s.toList.flatMap Json.escape ++ '"' :: rest) = some (s, rest) := by
  simp [takeString, Json.readString_flatMap_escape]

/-- The text of a number is not empty. -/
theorem text_number_ne_nil (n : Json.Number) : n.text.toList ≠ [] := by
  obtain ⟨q, hread, -⟩ := n.exists_numeral?_text
  intro hempty
  rw [hempty] at hread
  cases hread

theorem takes_numeral (n : Json.Number) :
    Takes takeNumeral n.text.toList (Value.number n).datum := by
  intro rest hrest
  obtain ⟨q, hread, hnearest⟩ := n.exists_numeral?_text
  have hnumeric : ∀ c ∈ n.text.toList, Json.isNumberChar c = true := Json.numeric_numberText n
  have htake : (n.text.toList ++ rest).takeWhile Json.isNumberChar = n.text.toList := by
    rw [List.takeWhile_append_of_pos hnumeric]
    cases hrest <;> simp [Json.isNumberChar]
  have hdrop : (n.text.toList ++ rest).dropWhile Json.isNumberChar = rest := by
    rw [List.dropWhile_append_of_pos hnumeric]
    cases hrest <;> simp [Json.isNumberChar]
  simp only [takeNumeral, htake, hdrop, hread, Option.map_some, Value.datum, Datum.ofNumeral,
    hnearest]

theorem not_isSpace_of_isNumberChar {c : Char} (h : Json.isNumberChar c = true) :
    Json.isSpace c = false := by
  simp only [Json.isNumberChar, Bool.or_eq_true, beq_iff_eq] at h
  obtain (((hdigit | rfl) | rfl) | rfl) | rfl := h
  · exact Json.not_isSpace_of_isDigit hdigit
  all_goals rfl

/-- A character of numbers starts a number. -/
theorem takeLiteral_of_isNumberChar {c : Char} (h : Json.isNumberChar c = true) (fuel : Nat)
    (cs : List Char) : takeLiteral (fuel + 1) (c :: cs) = takeNumeral (c :: cs) := by
  unfold takeLiteral
  rw [Json.skipSpace_cons (not_isSpace_of_isNumberChar h)]
  split
  case h_7 => rfl
  -- The other characters that start an expression are none of numbers.
  all_goals
    rename_i heq
    cases heq
    cases h

/-! ### Elements and properties -/

/-- The text of a value starts with no blank, and not with the end of an array. -/
theorem exists_chars_cons (v : Value) :
    ∃ c more, v.chars = c :: more ∧ Json.isSpace c = false ∧ c ≠ ']' := by
  cases v with
  | null => exact ⟨'n', _, rfl, by decide, by decide⟩
  | bool b =>
      cases b with
      | true => exact ⟨'t', _, rfl, by decide, by decide⟩
      | false => exact ⟨'f', _, rfl, by decide, by decide⟩
  | number n =>
      obtain ⟨c, more, hchars⟩ := List.exists_cons_of_ne_nil (text_number_ne_nil n)
      have hnumber : Json.isNumberChar c = true :=
        Json.numeric_numberText n c (hchars ▸ List.mem_cons_self)
      refine ⟨c, more, by simpa [Value.chars, Value.text] using hchars,
        not_isSpace_of_isNumberChar hnumber, ?_⟩
      rintro rfl
      cases hnumber
  | string s => exact ⟨'"', _, Json.toList_quote s, by decide, by decide⟩
  | array items => exact ⟨'[', _, Json.chars_array items, by decide, by decide⟩
  | object members => exact ⟨'{', _, Json.chars_object members, by decide, by decide⟩

section Elements

variable {element : Taker} {fuel : Nat} {v : Value} {rest : List Char}

/-- An element and the end of its array. -/
theorem takeElements_last (htake : Takes element v.chars v.datum) (fuel : Nat) (rest : List Char) :
    takeElements element (fuel + 1) (v.chars ++ ']' :: rest) = some ([v.datum], rest) := by
  have hvalue := htake _ (.bracket rest)
  obtain ⟨c, more, hchars, hblank, hend⟩ := exists_chars_cons v
  rw [hchars, List.cons_append] at hvalue ⊢
  unfold takeElements
  rw [Json.skipSpace_cons hblank]
  split
  · rename_i heq
    cases heq
    exact absurd rfl hend
  · simp [hvalue, Json.skipSpace_cons, Json.isSpace]

/-- An element with others behind it. -/
theorem takeElements_next (htake : Takes element v.chars v.datum) (fuel : Nat) (rest : List Char) :
    takeElements element (fuel + 1) (v.chars ++ ',' :: rest) =
      (takeElements element fuel rest).map fun taken => (v.datum :: taken.1, taken.2) := by
  have hvalue := htake _ (.comma rest)
  obtain ⟨c, more, hchars, hblank, hend⟩ := exists_chars_cons v
  rw [hchars, List.cons_append] at hvalue ⊢
  conv => lhs; unfold takeElements
  rw [Json.skipSpace_cons hblank]
  split
  · rename_i heq
    cases heq
    exact absurd rfl hend
  · simp [hvalue, Json.skipSpace_cons, Json.isSpace]

/-- All elements of an array, up to its closing bracket. -/
theorem takeElements_itemsText {items : List Value}
    (htake : ∀ v ∈ items, Takes element v.chars v.datum) (hfuel : items.length < fuel)
    (rest : List Char) :
    takeElements element fuel ((Json.itemsText items).toList ++ ']' :: rest) =
      some (Json.itemsDatum items, rest) := by
  induction items generalizing fuel with
  | nil =>
      cases fuel with
      | zero => simp at hfuel
      | succ fuel => simp [Json.itemsText, takeElements, Json.skipSpace_cons, Json.isSpace,
          Json.itemsDatum]
  | cons v others ih =>
      cases fuel with
      | zero => simp at hfuel
      | succ fuel =>
          obtain ⟨hv, hothers⟩ := List.forall_mem_cons.1 htake
          have hmore := ih hothers (Nat.lt_of_succ_lt_succ hfuel)
          cases others with
          | nil =>
              have hlast := takeElements_last hv fuel rest
              simpa [Json.itemsText, Json.itemsDatum, Value.chars] using hlast
          | cons w others =>
              have hnext := takeElements_next hv fuel
                ((Json.itemsText (w :: others)).toList ++ ']' :: rest)
              rw [hmore] at hnext
              simpa [Json.itemsText, Json.itemsDatum, Value.chars] using hnext

end Elements

section Properties

/-- A prefix of blanks is passed over. -/
theorem skipSpace_append {front : List Char} (hfront : ∀ c ∈ front, Json.isSpace c = true)
    (cs : List Char) : skipSpace (front ++ cs) = skipSpace cs :=
  List.dropWhile_append_of_pos hfront

variable {front text rest : List Char} (hfront : ∀ c ∈ front, Json.isSpace c = true)
  (value : Taker) (fuel : Nat) (p : Properties)

include hfront

/-- The end of an object. -/
theorem takeProperties_end :
    takeProperties value (fuel + 1) p (front ++ '}' :: rest) = some (p, rest) := by
  have hstart : skipSpace (front ++ '}' :: rest) = '}' :: rest := by
    rw [skipSpace_append hfront, Json.skipSpace_cons (by decide)]
  simp [takeProperties, hstart]

/-- A property, and what its object goes on with. -/
theorem takeProperties_property {key : String} (hkey : key = prototypeKey → p.prototype = none)
    {v : Datum} (hvalue : value (text ++ rest) = some (v, rest)) :
    takeProperties value (fuel + 1) p
        (front ++ ((Json.quote key).toList ++ ':' :: (text ++ rest))) =
      match skipSpace rest with
      | '}' :: rest => some (p.define key v, rest)
      | ',' :: rest => takeProperties value fuel (p.define key v) rest
      | _ => none := by
  have hstart : skipSpace (front ++ ((Json.quote key).toList ++ ':' :: (text ++ rest))) =
      '"' :: (key.toList.flatMap Json.escape ++ '"' :: ':' :: (text ++ rest)) := by
    rw [skipSpace_append hfront, Json.toList_quote, List.cons_append,
      Json.skipSpace_cons (by decide), List.append_assoc]
    rfl
  have hcolon : skipSpace (':' :: (text ++ rest)) = ':' :: (text ++ rest) :=
    Json.skipSpace_cons (by decide) _
  have hfree : ¬(key = prototypeKey ∧ p.prototype.isSome) := by
    rintro ⟨hsame, hsome⟩
    rw [hkey hsame] at hsome
    cases hsome
  conv => lhs; unfold takeProperties
  simp only [hstart, takeString_flatMap_escape, hcolon, hvalue, if_neg hfree]

end Properties

/-- An offer that is still to come was not made before. -/
theorem prototype_define_eq_none {p : Properties} {key : String} {others : List String}
    (hkeys : (key :: others).Nodup) (hfree : prototypeKey ∈ key :: others → p.prototype = none)
    (v : Datum) : prototypeKey ∈ others → (p.define key v).prototype = none := by
  intro hmem
  have hother : key ≠ prototypeKey := by
    rintro rfl
    exact (List.nodup_cons.1 hkeys).1 hmem
  rw [Properties.define, if_neg hother]
  exact hfree (List.mem_cons_of_mem _ hmem)

/-- All members of an object, up to its closing brace. -/
theorem takeProperties_membersText {take : Taker} {members : List (String × Value)}
    (htake : ∀ m ∈ members, Takes take m.2.chars m.2.datum) (hkeys : (Keyed.keys members).Nodup)
    {fuel : Nat} (hfuel : members.length < fuel) {p : Properties}
    (hfree : prototypeKey ∈ Keyed.keys members → p.prototype = none) (rest : List Char) :
    takeProperties take fuel p ((Json.membersText members).toList ++ '}' :: rest) =
      some (p.defineAll (Json.membersDatum members), rest) := by
  have hnothing : ∀ c ∈ [], Json.isSpace c = true := by simp
  induction members generalizing fuel p with
  | nil =>
      cases fuel with
      | zero => simp at hfuel
      | succ fuel => exact takeProperties_end hnothing take fuel p
  | cons m others ih =>
      cases fuel with
      | zero => simp at hfuel
      | succ fuel =>
          obtain ⟨hm, hothers⟩ := List.forall_mem_cons.1 htake
          rw [Keyed.keys_cons] at hkeys hfree
          have hfirst : m.1 = prototypeKey → p.prototype = none :=
            fun hsame => hfree (hsame ▸ List.mem_cons_self)
          have hmore := ih hothers (List.nodup_cons.1 hkeys).2 (Nat.lt_of_succ_lt_succ hfuel)
            (prototype_define_eq_none hkeys hfree m.2.datum)
          -- What stands behind a member is a brace or a comma, by whether it is the last one.
          cases others with
          | nil =>
              have hlast := takeProperties_property hnothing take fuel p hfirst (hm _ (.brace rest))
              simpa [Json.membersText, Json.membersDatum, Value.chars, Json.skipSpace_cons,
                Json.isSpace] using hlast
          | cons other others =>
              have hnext := takeProperties_property hnothing take fuel p hfirst
                (hm _ (.comma ((Json.membersText (other :: others)).toList ++ '}' :: rest)))
              simpa [Json.membersText, Json.membersDatum, Value.chars, Json.skipSpace_cons,
                Json.isSpace, hmore] using hnext

/-! ### Whole values -/

theorem length_le_behindCommas_of_mem {texts : List (List Char)} {text : List Char}
    (h : text ∈ texts) : text.length ≤ (Json.behindCommas texts).length := by
  induction texts with
  | nil => cases h
  | cons first others ih =>
      rw [Json.behindCommas_cons, List.length_cons, List.length_append]
      rcases List.mem_cons.1 h with rfl | h
      · omega
      · have hothers := ih h
        omega

theorem length_chars_le_itemsText {items : List Value} {v : Value} (hv : v ∈ items) :
    v.chars.length ≤ (Json.itemsText items).toList.length := by
  cases items with
  | nil => cases hv
  | cons w others =>
      rw [Json.toList_itemsText_cons, List.length_append]
      rcases List.mem_cons.1 hv with rfl | hv
      · omega
      · have hpart := length_le_behindCommas_of_mem (List.mem_map_of_mem (f := Value.chars) hv)
        omega

theorem length_chars_le_membersText {members : List (String × Value)} {m : String × Value}
    (hm : m ∈ members) : m.2.chars.length ≤ (Json.membersText members).toList.length := by
  have hmember : m.2.chars.length ≤ (Json.memberChars m).length := by
    rw [Json.memberChars, List.length_append, List.length_cons]
    omega
  cases members with
  | nil => cases hm
  | cons other others =>
      rw [Json.toList_membersText_cons, List.length_append]
      rcases List.mem_cons.1 hm with rfl | hm
      · omega
      · have hpart := length_le_behindCommas_of_mem (List.mem_map_of_mem (f := Json.memberChars) hm)
        omega

/-- **The text of a value comes to its datum**, whatever may stand behind it. -/
theorem takeLiteral_chars {v : Value} (hkeys : v.KeysOnce) {fuel : Nat}
    (hfuel : v.chars.length ≤ fuel) :
    Takes (takeLiteral (fuel + 1)) v.chars v.datum := by
  induction v using Value.inductionOn generalizing fuel with
  | null =>
      intro rest _
      simp [Value.chars, Value.text, Value.datum, takeLiteral, Json.skipSpace_cons, Json.isSpace]
  | bool b =>
      intro rest _
      cases b <;>
        simp [Value.chars, Value.text, Value.datum, takeLiteral, Json.skipSpace_cons, Json.isSpace]
  | number n =>
      intro rest hrest
      have hnumeral := takes_numeral n rest hrest
      obtain ⟨c, more, hchars⟩ := List.exists_cons_of_ne_nil (text_number_ne_nil n)
      have hfirst : Json.isNumberChar c = true :=
        Json.numeric_numberText n c (hchars ▸ List.mem_cons_self)
      rw [hchars, List.cons_append] at hnumeral
      have hnumber : (Value.number n).chars = n.text.toList := rfl
      rw [hnumber, hchars, List.cons_append, takeLiteral_of_isNumberChar hfirst, hnumeral]
  | string s =>
      intro rest _
      have hread := takeString_flatMap_escape s rest
      simp [Value.chars, Value.text, Value.datum, Json.toList_quote, takeLiteral,
        Json.skipSpace_cons, Json.isSpace, hread]
  | array items ih =>
      intro rest _
      have hlength := Json.length_le_itemsText items
      rw [Json.chars_array] at hfuel ⊢
      simp only [List.length_cons, List.length_append, List.length_nil] at hfuel
      cases fuel with
      | zero => omega
      | succ fuel =>
          -- The brackets make the whole longer than each part, so the fuel that is left is enough.
          have htake : ∀ v ∈ items, Takes (takeLiteral (fuel + 1)) v.chars v.datum := by
            intro v hv
            have hpart := length_chars_le_itemsText hv
            exact ih v hv (hkeys.item hv) (by omega)
          have hrounds :
              items.length < ((Json.itemsText items).toList ++ ']' :: rest).length + 1 := by
            simp only [List.length_append, List.length_cons]
            omega
          have hitems := takeElements_itemsText htake hrounds rest
          simp only [List.cons_append, List.append_assoc, List.nil_append]
          unfold takeLiteral
          rw [Json.skipSpace_cons (by decide)]
          simp only [hitems, Option.map_some, Value.datum]
  | object members ih =>
      intro rest _
      have hlength := Json.length_le_membersText members
      rw [Json.chars_object] at hfuel ⊢
      simp only [List.length_cons, List.length_append, List.length_nil] at hfuel
      cases fuel with
      | zero => omega
      | succ fuel =>
          have htake : ∀ m ∈ members, Takes (takeLiteral (fuel + 1)) m.2.chars m.2.datum := by
            intro m hm
            have hpart := length_chars_le_membersText hm
            exact ih m hm (hkeys.member hm) (by omega)
          have hrounds :
              members.length < ((Json.membersText members).toList ++ '}' :: rest).length + 1 := by
            simp only [List.length_append, List.length_cons]
            omega
          have hblank : prototypeKey ∈ Keyed.keys members → Properties.blank.prototype = none :=
            fun _ => rfl
          have hmembers := takeProperties_membersText htake hkeys.nodup hrounds hblank rest
          simp only [List.cons_append, List.append_assoc, List.nil_append]
          unfold takeLiteral
          rw [Json.skipSpace_cons (by decide)]
          simp only [hmembers, Option.map_some, Value.datum]

/-- The text of a value is made of literals only. -/
theorem evaluate?_text {v : Value} (hkeys : v.KeysOnce) : evaluate? v.text = some v.datum := by
  have htake := takeLiteral_chars hkeys (Nat.le_refl v.chars.length) [] .nil
  rw [List.append_nil] at htake
  have hchars : v.text.toList = v.chars := rfl
  rw [evaluate?, hchars, htake]

end Literal
end PluginBundle
