import Mathlib.Data.List.Forall2
import PluginBundle.Keyed
import PluginBundle.Toml.Recognize

/-!
# What becomes of a TOML value

A TOML value becomes a JSON value in two passes: tables that stand for moments are replaced, and
what is left is translated.  This module says what the two passes together keep.

* `Mirrors` – a JSON value has the arrays, the tables and the leaves of a TOML value, each at its
  place, and nothing else.
* `Carried` – the values for which that comes about.
* `mirrors_toJson_iff` – that these are all of them, by induction over the value.
* `accounts_of_holds` – where the keys come from: a moment brings one that nobody wrote, and nothing
  else does.

Neither pass asks for the keys of a table to differ, and so nothing here does.
-/

namespace PluginBundle

namespace Json

/-- A leaf that is not null. -/
def Value.IsScalar : Value → Prop
  | .bool _ => True
  | .number _ => True
  | .string _ => True
  | .null => False
  | .array _ => False
  | .object _ => False

/-- An object of the value has the key, at any depth. -/
inductive Value.Holds (key : String) : Value → Prop where
  | here {members : List (String × Value)} (h : key ∈ Keyed.keys members) : Holds key (.object members)
  | member {members : List (String × Value)} {p : String × Value} (hp : p ∈ members)
      (h : Holds key p.2) : Holds key (.object members)
  | item {items : List Value} {v : Value} (hv : v ∈ items) (h : Holds key v) :
      Holds key (.array items)

end Json

namespace Toml

/-- Induction over values: an array by its items, a table by the values of its entries. -/
@[elab_as_elim]
theorem Value.inductionOn {P : Value → Prop} (string : ∀ s, P (.string s))
    (integer : ∀ i fits, P (.integer i fits)) (float : ∀ x, P (.float x))
    (boolean : ∀ b, P (.boolean b)) (moment : ∀ text, P (.moment text))
    (array : ∀ items, (∀ v ∈ items, P v) → P (.array items))
    (table : ∀ entries, (∀ p ∈ entries, P p.2) → P (.table entries)) (v : Value) : P v := by
  refine @Value.rec P (fun items => ∀ v ∈ items, P v) (fun entries => ∀ p ∈ entries, P p.2)
    (fun p => P p.2) string integer float boolean moment array table ?_ ?_ ?_ ?_ ?_ v
  · simp
  · intro v items hv hitems
    exact List.forall_mem_cons.2 ⟨hv, hitems⟩
  · simp
  · intro p entries hp hentries
    exact List.forall_mem_cons.2 ⟨hp, hentries⟩
  · intro key v hv
    exact hv

namespace Value

/-- The JSON value says what the TOML value says, at every level: a table has the same keys in the
same order, an array the same length, and a leaf becomes one leaf.  JSON has no moments, so these may
become any leaf but null; the other leaves stay what they are. -/
inductive Mirrors : Value → Json.Value → Prop where
  | string (s : String) : Mirrors (.string s) (.string s)
  | integer (i : Int) (fits : Json.IsWhole i) :
      Mirrors (.integer i fits) (.number (.whole i fits))
  | float (x : Float) (h : x.isFinite = true) : Mirrors (.float x) (.number (.float x h))
  | boolean (b : Bool) : Mirrors (.boolean b) (.bool b)
  | moment (text : String) {v : Json.Value} (h : v.IsScalar) : Mirrors (.moment text) v
  | array {items : List Value} {values : List Json.Value} (h : List.Forall₂ Mirrors items values) :
      Mirrors (.array items) (.array values)
  | table {entries : List (String × Value)} {members : List (String × Json.Value)}
      (hkeys : Keyed.keys members = Keyed.keys entries)
      (h : List.Forall₂ Mirrors (entries.map Prod.snd) (members.map Prod.snd)) :
      Mirrors (.table entries) (.object members)

/-- The value has no moment, and its floats are finite.  A table of it that begins with the private
name of moments has no other entry, and the moment there is spelled as it is shown. -/
inductive Carried : Value → Prop where
  | string (s : String) : Carried (.string s)
  | integer (i : Int) (fits : Json.IsWhole i) : Carried (.integer i fits)
  | float (x : Float) (h : x.isFinite = true) : Carried (.float x)
  | boolean (b : Bool) : Carried (.boolean b)
  | array {items : List Value} (h : ∀ v ∈ items, Carried v) : Carried (.array items)
  | table {entries : List (String × Value)} (hplain : privateMember? entries = none)
      (h : ∀ p ∈ entries, Carried p.2) : Carried (.table entries)
  | spelled {s : String} {m : Moment} (hread : Moment.read? s.toList = some m)
      (hnormal : m.text = s) : Carried (.table [(momentKey, .string s)])

/-- A table of the value has the key, at any depth. -/
inductive Writes (key : String) : Value → Prop where
  | here {entries : List (String × Value)} (h : key ∈ Keyed.keys entries) :
      Writes key (.table entries)
  | entry {entries : List (String × Value)} {p : String × Value} (hp : p ∈ entries)
      (h : Writes key p.2) : Writes key (.table entries)
  | item {items : List Value} {v : Value} (hv : v ∈ items) (h : Writes key v) :
      Writes key (.array items)

/-- There is a moment in the value, at any depth. -/
inductive HasMoment : Value → Prop where
  | here (text : String) : HasMoment (.moment text)
  | entry {entries : List (String × Value)} {p : String × Value} (hp : p ∈ entries)
      (h : HasMoment p.2) : HasMoment (.table entries)
  | item {items : List Value} {v : Value} (hv : v ∈ items) (h : HasMoment v) :
      HasMoment (.array items)

/-- A text is mirrored by itself alone. -/
theorem mirrors_string_iff {s : String} {v : Json.Value} :
    (string s).Mirrors v ↔ v = .string s := by
  constructor
  · intro h
    cases h with
    | string => rfl
  · rintro rfl
    exact .string s

theorem mirrors_array_iff {items : List Value} {values : List Json.Value} :
    (array items).Mirrors (.array values) ↔ List.Forall₂ Mirrors items values := by
  constructor
  · intro h
    cases h with
    | array h => exact h
  · exact .array

theorem mirrors_table_iff {entries : List (String × Value)}
    {members : List (String × Json.Value)} :
    (table entries).Mirrors (.object members) ↔
      Keyed.keys members = Keyed.keys entries ∧
        List.Forall₂ Mirrors (entries.map Prod.snd) (members.map Prod.snd) := by
  constructor
  · intro h
    cases h with
    | table hkeys h => exact ⟨hkeys, h⟩
  · rintro ⟨hkeys, h⟩
    exact .table hkeys h

theorem writes_table_iff {key : String} {entries : List (String × Value)} :
    (table entries).Writes key ↔
      key ∈ Keyed.keys entries ∨ ∃ v ∈ entries.map Prod.snd, v.Writes key := by
  constructor
  · intro h
    cases h with
    | here h => exact .inl h
    | entry hp h => exact .inr ⟨_, List.mem_map_of_mem hp, h⟩
  · rintro (h | ⟨v, hv, h⟩)
    · exact .here h
    · obtain ⟨p, hp, rfl⟩ := List.mem_map.1 hv
      exact .entry hp h

end Value

/-! ## The two passes, list by list -/

theorem itemsToJson_eq_map (items : List Value) : itemsToJson items = items.map Value.toJson := by
  induction items with
  | nil => rfl
  | cons v rest ih => rw [itemsToJson, ih, List.map_cons]

theorem entriesToJson_eq_map (entries : List (String × Value)) :
    entriesToJson entries = entries.map fun p => (p.1, p.2.toJson) := by
  induction entries with
  | nil => rfl
  | cons p rest ih =>
      obtain ⟨key, v⟩ := p
      rw [entriesToJson, ih, List.map_cons]

@[simp] theorem keys_entriesToJson (entries : List (String × Value)) :
    Keyed.keys (entriesToJson entries) = Keyed.keys entries := by
  simp [entriesToJson_eq_map, Keyed.keys]

@[simp] theorem values_entriesToJson (entries : List (String × Value)) :
    (entriesToJson entries).map Prod.snd = (entries.map Prod.snd).map Value.toJson := by
  simp [entriesToJson_eq_map]

/-- The first pass makes one value of the other. -/
def Value.Becomes (v r : Value) : Prop := v.recognize? = some r

theorem becomes_of_recognizeItems {items results : List Value}
    (h : recognizeItems? items = some results) : List.Forall₂ Value.Becomes items results := by
  induction items generalizing results with
  | nil =>
      cases h
      exact .nil
  | cons v rest ih =>
      rw [recognizeItems?] at h
      cases hv : v.recognize? with
      | none => simp [hv] at h
      | some r =>
          cases hrest : recognizeItems? rest with
          | none => simp [hv, hrest] at h
          | some rs =>
              simp only [hv, hrest, Option.some.injEq] at h
              subst h
              exact .cons hv (ih hrest)

/-- The first pass keeps the keys of a table. -/
theorem becomes_of_recognizeEntries {entries results : List (String × Value)}
    (h : recognizeEntries? entries = some results) :
    Keyed.keys results = Keyed.keys entries ∧
      List.Forall₂ Value.Becomes (entries.map Prod.snd) (results.map Prod.snd) := by
  induction entries generalizing results with
  | nil =>
      cases h
      exact ⟨rfl, .nil⟩
  | cons p rest ih =>
      obtain ⟨key, v⟩ := p
      rw [recognizeEntries?] at h
      cases hv : v.recognize? with
      | none => simp [hv] at h
      | some r =>
          cases hrest : recognizeEntries? rest with
          | none => simp [hv, hrest] at h
          | some rs =>
              simp only [hv, hrest, Option.some.injEq] at h
              subst h
              obtain ⟨hkeys, hvalues⟩ := ih hrest
              exact ⟨congrArg (key :: ·) hkeys, .cons hv hvalues⟩

/-- A table that begins with the private name becomes the moment that is spelled there. -/
theorem becomes_of_privateMember {entries : List (String × Value)} {value r : Value}
    (hfirst : privateMember? entries = some value) (h : (Value.table entries).Becomes r) :
    ∃ s m rest, entries = (momentKey, .string s) :: rest ∧ Moment.read? s.toList = some m ∧
      r = .moment m.text := by
  rw [Value.Becomes, Value.recognize?, hfirst] at h
  cases value with
  | string s =>
      cases hread : Moment.read? s.toList with
      | none => simp [momentOf?, hread] at h
      | some m =>
          cases entries with
          | nil => simp [privateMember?] at hfirst
          | cons p rest =>
              obtain ⟨key, first⟩ := p
              by_cases hkey : key = momentKey
              · obtain rfl : first = .string s := by simpa [privateMember?, hkey] using hfirst
                refine ⟨s, m, rest, by rw [hkey], hread, ?_⟩
                simpa [momentOf?, hread] using h.symm
              · simp [privateMember?, hkey] at hfirst
  | _ => simp [momentOf?] at h

/-- Any other table becomes a table. -/
theorem becomes_of_plain {entries : List (String × Value)} {r : Value}
    (hplain : privateMember? entries = none) (h : (Value.table entries).Becomes r) :
    ∃ results, recognizeEntries? entries = some results ∧ r = .table results := by
  rw [Value.Becomes, Value.recognize?, hplain] at h
  cases hresults : recognizeEntries? entries with
  | none => simp [hresults] at h
  | some results => exact ⟨results, rfl, by simpa [hresults] using h.symm⟩

theorem becomes_array {items : List Value} {r : Value} (h : (Value.array items).Becomes r) :
    ∃ results, List.Forall₂ Value.Becomes items results ∧ r = .array results := by
  rw [Value.Becomes, Value.recognize?] at h
  cases hresults : recognizeItems? items with
  | none => simp [hresults] at h
  | some results =>
      exact ⟨results, becomes_of_recognizeItems hresults, by simpa [hresults] using h.symm⟩

/-! ## What is carried over -/

/-- The values of a list are mirrored one by one. -/
theorem forall₂_mirrors_iff {vs rs : List Value} (h : List.Forall₂ Value.Becomes vs rs)
    (heach : ∀ v ∈ vs, ∀ r, v.Becomes r → (v.Mirrors r.toJson ↔ v.Carried)) :
    List.Forall₂ Value.Mirrors vs (rs.map Value.toJson) ↔ ∀ v ∈ vs, v.Carried := by
  induction h with
  | nil => simp
  | cons hfirst _ ih =>
      obtain ⟨hthis, hrest⟩ := List.forall_mem_cons.1 heach
      rw [List.map_cons, List.forall₂_cons, List.forall_mem_cons, hthis _ hfirst, ih hrest]

/-- A table that stays one is mirrored if its values are. -/
theorem mirrors_entriesToJson_iff {entries results : List (String × Value)}
    (h : recognizeEntries? entries = some results)
    (heach : ∀ p ∈ entries, ∀ r, p.2.Becomes r → (p.2.Mirrors r.toJson ↔ p.2.Carried)) :
    (Value.table entries).Mirrors (.object (entriesToJson results)) ↔
      ∀ p ∈ entries, p.2.Carried := by
  obtain ⟨hkeys, hvalues⟩ := becomes_of_recognizeEntries h
  have heach' : ∀ v ∈ entries.map Prod.snd, ∀ r, v.Becomes r →
      (v.Mirrors r.toJson ↔ v.Carried) := List.forall_mem_map.2 heach
  rw [Value.mirrors_table_iff, keys_entriesToJson, values_entriesToJson,
    forall₂_mirrors_iff hvalues heach', List.forall_mem_map]
  exact and_iff_right hkeys

/-- **What is carried over.**  The two passes make of a value one that says the same exactly if the
value is carried. -/
theorem mirrors_toJson_iff (v : Value) :
    ∀ r, v.Becomes r → (v.Mirrors r.toJson ↔ v.Carried) := by
  induction v using Value.inductionOn with
  | string s =>
      rintro r ⟨⟩
      exact iff_of_true (.string s) (.string s)
  | integer i fits =>
      rintro r ⟨⟩
      exact iff_of_true (.integer i fits) (.integer i fits)
  | float x =>
      rintro r ⟨⟩
      by_cases hfinite : x.isFinite = true
      · rw [Value.toJson, dif_pos hfinite]
        exact iff_of_true (.float x hfinite) (.float x hfinite)
      · rw [Value.toJson, dif_neg hfinite]
        refine iff_of_false nofun fun h => ?_
        cases h with
        | float _ h => exact hfinite h
  | boolean b =>
      rintro r ⟨⟩
      exact iff_of_true (.boolean b) (.boolean b)
  | moment text =>
      rintro r ⟨⟩
      refine iff_of_false (fun h => ?_) nofun
      cases h with
      | moment _ hscalar => exact hscalar
  | array items ih =>
      intro r hr
      obtain ⟨results, hresults, rfl⟩ := becomes_array hr
      rw [Value.toJson, itemsToJson_eq_map, Value.mirrors_array_iff, forall₂_mirrors_iff hresults ih]
      constructor
      · exact .array
      · intro h
        cases h with
        | array h => exact h
  | table entries ih =>
      intro r hr
      cases hfirst : privateMember? entries with
      | none =>
          obtain ⟨results, hresults, rfl⟩ := becomes_of_plain hfirst hr
          rw [Value.toJson, mirrors_entriesToJson_iff hresults ih]
          constructor
          · exact .table hfirst
          · intro h
            cases h with
            | table _ h => exact h
            | spelled hread _ => simp [privateMember?] at hfirst
      | some value =>
          obtain ⟨s, m, rest, rfl, hread, rfl⟩ := becomes_of_privateMember hfirst hr
          rw [Value.toJson, Value.mirrors_table_iff]
          constructor
          · rintro ⟨hkeys, hvalues⟩
            -- The other entries are dropped, so there must be none.
            obtain rfl : rest = [] := by simpa [Keyed.keys] using hkeys.symm
            cases hvalues with
            | cons htext _ =>
                have hnormal := Value.mirrors_string_iff.1 htext
                exact .spelled hread (Json.Value.string.inj hnormal)
          · intro h
            cases h with
            | table hplain _ => simp [privateMember?] at hplain
            | spelled hread' hnormal =>
                obtain rfl := Option.some.inj (hread.symm.trans hread')
                rw [hnormal]
                exact ⟨rfl, .cons (.string s) .nil⟩

/-! ## Where the keys come from -/

/-- The key is written in a value, or it is the private name of a moment of that value. -/
def Value.Accounts (key : String) (v : Value) : Prop :=
  v.Writes key ∨ key = momentKey ∧ v.HasMoment

theorem Value.Accounts.item {key : String} {items : List Value} {v : Value} (hv : v ∈ items)
    (h : v.Accounts key) : (Value.array items).Accounts key :=
  h.imp (.item hv) (And.imp_right (.item hv))

theorem Value.Accounts.entry {key : String} {entries : List (String × Value)} {v : Value}
    (hv : v ∈ entries.map Prod.snd) (h : v.Accounts key) : (Value.table entries).Accounts key := by
  obtain ⟨p, hp, rfl⟩ := List.mem_map.1 hv
  exact h.imp (.entry hp) (And.imp_right (.entry hp))

/-- There is no moment in what is carried over. -/
theorem Value.Carried.not_hasMoment {v : Value} (h : v.Carried) : ¬v.HasMoment := by
  intro hmoment
  induction hmoment with
  | here text => cases h
  | entry hp _ ih =>
      cases h with
      | table _ hentries => exact ih (hentries _ hp)
      | @spelled s =>
          obtain rfl := List.mem_singleton.1 hp
          exact ih (.string s)
  | item hv _ ih =>
      cases h with
      | array hitems => exact ih (hitems _ hv)

/-- What is found in the translation of a list comes from one of its values. -/
theorem exists_becomes_of_mem {vs rs : List Value} (h : List.Forall₂ Value.Becomes vs rs)
    {w : Json.Value} (hw : w ∈ rs.map Value.toJson) :
    ∃ v ∈ vs, ∃ r, v.Becomes r ∧ w = r.toJson := by
  induction h with
  | nil => cases hw
  | @cons v r vs rs hfirst _ ih =>
      rw [List.map_cons, List.mem_cons] at hw
      obtain rfl | hrest := hw
      · exact ⟨v, .head _, r, hfirst, rfl⟩
      · obtain ⟨v', hv', r', hr', rfl⟩ := ih hrest
        exact ⟨v', .tail _ hv', r', hr', rfl⟩

/-- A table that stays one has no keys but its own and those of its values. -/
theorem accounts_of_entriesToJson {key : String} {entries results : List (String × Value)}
    (h : recognizeEntries? entries = some results)
    (heach : ∀ p ∈ entries, ∀ r, p.2.Becomes r → r.toJson.Holds key → p.2.Accounts key)
    (hholds : (Json.Value.object (entriesToJson results)).Holds key) :
    (Value.table entries).Accounts key := by
  obtain ⟨hkeys, hvalues⟩ := becomes_of_recognizeEntries h
  cases hholds with
  | here hkey =>
      rw [keys_entriesToJson, hkeys] at hkey
      exact .inl (.here hkey)
  | @member _ member hmember hbelow =>
      have hvalue : member.2 ∈ (results.map Prod.snd).map Value.toJson := by
        rw [← values_entriesToJson]
        exact List.mem_map_of_mem hmember
      obtain ⟨v, hv, r, hr, hsame⟩ := exists_becomes_of_mem hvalues hvalue
      obtain ⟨p, hp, rfl⟩ := List.mem_map.1 hv
      exact .entry hv (heach p hp r hr (hsame ▸ hbelow))

/-- **Where the keys come from.**  Every key of the translation is written in the value, or is the
private name and stands for a moment. -/
theorem accounts_of_holds {key : String} (v : Value) :
    ∀ r, v.Becomes r → r.toJson.Holds key → v.Accounts key := by
  induction v using Value.inductionOn with
  | string s => rintro r ⟨⟩ ⟨⟩
  | integer i fits => rintro r ⟨⟩ ⟨⟩
  | float x =>
      rintro r ⟨⟩ hholds
      rw [Value.toJson] at hholds
      split at hholds <;> cases hholds
  | boolean b => rintro r ⟨⟩ ⟨⟩
  | moment text =>
      rintro r ⟨⟩ hholds
      cases hholds with
      | here hkey => exact .inr ⟨by simpa using hkey, .here text⟩
      | member hmember hbelow =>
          obtain rfl := List.mem_singleton.1 hmember
          cases hbelow
  | array items ih =>
      intro r hr hholds
      obtain ⟨results, hresults, rfl⟩ := becomes_array hr
      rw [Value.toJson, itemsToJson_eq_map] at hholds
      cases hholds with
      | item hitem hbelow =>
          obtain ⟨v, hv, r, hr, rfl⟩ := exists_becomes_of_mem hresults hitem
          exact .item hv (ih v hv r hr hbelow)
  | table entries ih =>
      intro r hr hholds
      cases hfirst : privateMember? entries with
      | none =>
          obtain ⟨results, hresults, rfl⟩ := becomes_of_plain hfirst hr
          exact accounts_of_entriesToJson hresults ih hholds
      | some value =>
          obtain ⟨s, m, rest, rfl, -, rfl⟩ := becomes_of_privateMember hfirst hr
          cases hholds with
          | here hkey =>
              obtain rfl : key = momentKey := by simpa using hkey
              exact .inl (.here (.head _))
          | member hmember hbelow =>
              obtain rfl := List.mem_singleton.1 hmember
              cases hbelow

end Toml
end PluginBundle
