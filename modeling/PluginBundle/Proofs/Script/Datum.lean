import Mathlib.Data.List.Sort
import Mathlib.Order.WithBot
import PluginBundle.Proofs.Json.Keys
import PluginBundle.Proofs.Script.Numerals

/-!
# What data comes to as an expression

The text of a JSON value is also an expression of the script, and there it need not mean the same.
`Value.datum` says what it comes to, by the rules of the script, and `Value.tree` is what one would
wish for instead: the same keys in order, the same items, the same leaves.  There are three
differences.

* A quoted key makes a property, and a later equal key gives it another value; but the key
  `__proto__` makes none: what is written there is offered as the prototype of the object.
* An object lists the keys that are indices of arrays first, in their order, and all others behind
  them as they were made.
* A number is a double.

`datum_eq_tree_iff` says when the wish comes true: `Value.Ordinary` excludes the three, and nothing
else.
-/

namespace PluginBundle

open Json (Value)

/-! ## What expressions come to -/

/-- What an expression comes to. -/
inductive Datum where
  | null
  | bool (value : Bool)
  /-- A number by its sign and its size; a zero may have a sign, too. -/
  | number (negative : Bool) (size : ℚ)
  /-- What a number comes to that is too large. -/
  | infinity (negative : Bool)
  | string (value : String)
  | array (items : List Datum)
  /-- An object, with what was offered as its prototype, and its own properties in the order in
  which it lists them. -/
  | object (prototype : Option Datum) (own : List (String × Datum))
  /-- The value of a variable. -/
  | binding (name : String)
  /-- Whatever another expression comes to. -/
  | expression (source : String)

instance : Inhabited Datum := ⟨.null⟩

/-- What a numeral comes to that spells this number. -/
def Datum.ofNumeral (negative : Bool) (q : ℚ) : Datum :=
  if nearestDouble q < 2 ^ 1024 then .number negative (nearestDouble q) else .infinity negative

/-! ## Objects -/

/-- The key that makes no property. -/
def prototypeKey : String := "__proto__"

/-- The number that a key is written for, if it is the index of an array. -/
def arrayIndex? (key : String) : Option ℕ :=
  let n := Nat.ofDigitChars 10 key.toList 0
  if key.toList = Nat.toDigits 10 n ∧ n < 4294967295 then some n else none

/-- The place of a key among those of an object; all that are no index have the last one. -/
def keyPlace (key : String) : WithTop ℕ :=
  match arrayIndex? key with
  | some n => n
  | none => ⊤

/-- The first key does not have to be listed behind the second, whichever was made first. -/
def ListedBefore (a b : String) : Prop := keyPlace a ≤ keyPlace b

instance : DecidableRel ListedBefore :=
  fun a b => inferInstanceAs (Decidable (keyPlace a ≤ keyPlace b))

/-- An object that is being made, with its properties in the order in which they were made. -/
structure Properties where
  prototype : Option Datum
  made : List (String × Datum)

namespace Properties

def blank : Properties := ⟨none, []⟩

/-- A quoted key with its value. -/
def define (p : Properties) (key : String) (value : Datum) : Properties :=
  if key = prototypeKey then { p with prototype := some value }
  else { p with made := Keyed.set key value p.made }

/-- Keys with their values, one after the other. -/
def defineAll (p : Properties) (pairs : List (String × Datum)) : Properties :=
  pairs.foldl (fun p q => p.define q.1 q.2) p

/-- The own properties in the order in which the object lists them. -/
def own (p : Properties) : List (String × Datum) :=
  p.made.insertionSort fun a b => ListedBefore a.1 b.1

def datum (p : Properties) : Datum := .object p.prototype p.own

variable {p : Properties} {pairs : List (String × Datum)}

@[simp] theorem defineAll_nil (p : Properties) : p.defineAll [] = p := rfl

@[simp] theorem defineAll_cons (p : Properties) (q : String × Datum)
    (rest : List (String × Datum)) :
    p.defineAll (q :: rest) = (p.define q.1 q.2).defineAll rest := rfl

/-- A prototype is offered by the one key for it. -/
theorem prototype_defineAll_eq_none_iff :
    (p.defineAll pairs).prototype = none ↔
      p.prototype = none ∧ prototypeKey ∉ Keyed.keys pairs := by
  induction pairs generalizing p with
  | nil => simp
  | cons q rest ih =>
      rw [defineAll_cons, ih]
      by_cases hkey : q.1 = prototypeKey
      · simp [define, hkey]
      · simp [define, hkey, Ne.symm hkey]

/-- The properties are set one after the other, without that key. -/
theorem made_defineAll :
    (p.defineAll pairs).made =
      (pairs.filter (·.1 ≠ prototypeKey)).foldl (fun made q => Keyed.set q.1 q.2 made) p.made := by
  induction pairs generalizing p with
  | nil => rfl
  | cons q rest ih =>
      rw [defineAll_cons, ih]
      by_cases hkey : q.1 = prototypeKey <;> simp [define, hkey]

/-- Distinct keys make their properties in order. -/
theorem made_defineAll_blank (hkeys : (Keyed.keys pairs).Nodup) :
    (blank.defineAll pairs).made = pairs.filter (·.1 ≠ prototypeKey) := by
  rw [made_defineAll]
  exact Keyed.collect_eq_self (hkeys.sublist (List.filter_sublist.map Prod.fst))

theorem perm_own (p : Properties) : p.own.Perm p.made := List.perm_insertionSort _ _

/-- The keys are listed in their order. -/
theorem pairwise_keys_own (p : Properties) : (Keyed.keys p.own).Pairwise ListedBefore := by
  have htotal : Std.Total fun a b : String × Datum => ListedBefore a.1 b.1 :=
    ⟨fun a b => le_total (keyPlace a.1) (keyPlace b.1)⟩
  have htrans : IsTrans (String × Datum) fun a b => ListedBefore a.1 b.1 :=
    ⟨fun _ _ _ => le_trans⟩
  exact List.pairwise_map.2 (List.pairwise_insertionSort _ _)

/-- If they were made in that order, they are listed as they were made. -/
theorem own_eq_made (h : (Keyed.keys p.made).Pairwise ListedBefore) : p.own = p.made :=
  (List.pairwise_map.1 h).insertionSort_eq

end Properties

/-! ## What a value comes to -/

namespace Json

mutual

/-- What the text of a value comes to. -/
def Value.datum : Value → Datum
  | .null => .null
  | .bool b => .bool b
  | .number n => .ofNumeral n.negative n.size
  | .string s => .string s
  | .array items => .array (itemsDatum items)
  | .object members => (Properties.blank.defineAll (membersDatum members)).datum

def itemsDatum : List Value → List Datum
  | [] => []
  | v :: rest => v.datum :: itemsDatum rest

def membersDatum : List (String × Value) → List (String × Datum)
  | [] => []
  | (key, v) :: rest => (key, v.datum) :: membersDatum rest

end

mutual

/-- The tree of a value: the same keys in order, the same items, the same leaves. -/
def Value.tree : Value → Datum
  | .null => .null
  | .bool b => .bool b
  | .number n => .number n.negative n.size
  | .string s => .string s
  | .array items => .array (itemsTree items)
  | .object members => .object none (membersTree members)

def itemsTree : List Value → List Datum
  | [] => []
  | v :: rest => v.tree :: itemsTree rest

def membersTree : List (String × Value) → List (String × Datum)
  | [] => []
  | (key, v) :: rest => (key, v.tree) :: membersTree rest

end

/-- No object of the value has the key that makes no property or a key behind another that is listed
in front of it, and all its numbers are doubles. -/
inductive Value.Ordinary : Value → Prop where
  | null : Ordinary .null
  | bool (b : Bool) : Ordinary (.bool b)
  | number {n : Number} (hn : IsDouble n.size) : Ordinary (.number n)
  | string (s : String) : Ordinary (.string s)
  | array {items : List Value} (hitems : ∀ v ∈ items, Ordinary v) : Ordinary (.array items)
  | object {members : List (String × Value)} (hkeys : prototypeKey ∉ Keyed.keys members)
      (horder : (Keyed.keys members).Pairwise ListedBefore)
      (hmembers : ∀ p ∈ members, Ordinary p.2) : Ordinary (.object members)

variable {items : List Value} {members : List (String × Value)}

theorem itemsDatum_eq_itemsTree_iff :
    itemsDatum items = itemsTree items ↔ ∀ v ∈ items, v.datum = v.tree := by
  induction items with
  | nil => simp [itemsDatum, itemsTree]
  | cons v rest ih => simp [itemsDatum, itemsTree, ih]

theorem membersDatum_eq_membersTree_iff :
    membersDatum members = membersTree members ↔ ∀ p ∈ members, p.2.datum = p.2.tree := by
  induction members with
  | nil => simp [membersDatum, membersTree]
  | cons p rest ih => simp [membersDatum, membersTree, ih]

@[simp] theorem keys_membersDatum (members : List (String × Value)) :
    Keyed.keys (membersDatum members) = Keyed.keys members := by
  induction members with
  | nil => rfl
  | cons p rest ih => simp [membersDatum, ih]

@[simp] theorem keys_membersTree (members : List (String × Value)) :
    Keyed.keys (membersTree members) = Keyed.keys members := by
  induction members with
  | nil => rfl
  | cons p rest ih => simp [membersTree, ih]

/-- A number comes to itself if it is a double. -/
theorem datum_number_iff (n : Number) :
    (Value.number n).datum = (Value.number n).tree ↔ IsDouble n.size := by
  rw [Value.datum, Value.tree, Datum.ofNumeral, if_pos n.nearestDouble_size_lt,
    ← nearestDouble_eq_self_iff n.size_nonneg]
  simp

/-- Without the key that makes no property, an object has the properties that are written. -/
theorem datum_object (hkeys : (Keyed.keys members).Nodup)
    (hordinary : prototypeKey ∉ Keyed.keys members) :
    (Value.object members).datum =
      .object none (Properties.mk none (membersDatum members)).own := by
  have hnone : (Properties.blank.defineAll (membersDatum members)).prototype = none :=
    Properties.prototype_defineAll_eq_none_iff.2 ⟨rfl, by simpa using hordinary⟩
  have hmade : (Properties.blank.defineAll (membersDatum members)).made = membersDatum members := by
    rw [Properties.made_defineAll_blank (by simpa using hkeys), List.filter_eq_self]
    intro q hq
    have hkey : q.1 ∈ Keyed.keys (membersDatum members) := List.mem_map_of_mem hq
    rw [keys_membersDatum] at hkey
    have hother : q.1 ≠ prototypeKey := fun hsame => hordinary (hsame ▸ hkey)
    simpa using hother
  rw [Value.datum, Properties.datum, hnone, Properties.own, hmade, Properties.own]

/-- The properties are those of the tree if their keys are written in the order in which they are
listed, and their values come to their trees. -/
theorem own_membersDatum_iff :
    (Properties.mk none (membersDatum members)).own = membersTree members ↔
      (Keyed.keys members).Pairwise ListedBefore ∧ ∀ p ∈ members, p.2.datum = p.2.tree := by
  rw [← membersDatum_eq_membersTree_iff]
  have hmade (horder : (Keyed.keys members).Pairwise ListedBefore) :
      (Properties.mk none (membersDatum members)).own = membersDatum members :=
    Properties.own_eq_made (by simpa using horder)
  constructor
  · intro h
    have horder : (Keyed.keys members).Pairwise ListedBefore := by
      rw [← keys_membersTree, ← h]
      exact Properties.pairwise_keys_own _
    exact ⟨horder, (hmade horder).symm.trans h⟩
  · rintro ⟨horder, hmembers⟩
    rw [hmade horder, hmembers]

/-- **A value comes to its own tree** if it is ordinary, and only then. -/
theorem datum_eq_tree_iff {v : Value} (hkeys : v.KeysOnce) : v.datum = v.tree ↔ v.Ordinary := by
  induction v using Value.inductionOn with
  | null => simp [Value.datum, Value.tree, Value.Ordinary.null]
  | bool b => simp [Value.datum, Value.tree, Value.Ordinary.bool]
  | number n =>
      rw [datum_number_iff]
      exact ⟨.number, fun h => by cases h with | number hn => exact hn⟩
  | string s => simp [Value.datum, Value.tree, Value.Ordinary.string]
  | array items ih =>
      have hitems : (∀ v ∈ items, v.datum = v.tree) ↔ ∀ v ∈ items, v.Ordinary :=
        forall_congr' fun v => forall_congr' fun hv => ih v hv (hkeys.item hv)
      rw [Value.datum, Value.tree, Datum.array.injEq, itemsDatum_eq_itemsTree_iff, hitems]
      exact ⟨.array, fun h => by cases h with | array hitems => exact hitems⟩
  | object members ih =>
      have hmembers : (∀ p ∈ members, p.2.datum = p.2.tree) ↔ ∀ p ∈ members, p.2.Ordinary :=
        forall_congr' fun p => forall_congr' fun hp => ih p hp (hkeys.member hp)
      by_cases hordinary : prototypeKey ∈ Keyed.keys members
      · -- Then a prototype is offered, and the tree has none.
        constructor
        · intro h
          rw [Value.datum, Value.tree, Properties.datum, Datum.object.injEq,
            Properties.prototype_defineAll_eq_none_iff, keys_membersDatum] at h
          exact absurd hordinary h.1.2
        · intro h
          cases h with
          | object hfree _ _ => exact absurd hordinary hfree
      · -- Else it has all keys, and they are in order if they are listed as they are written.
        rw [datum_object hkeys.nodup hordinary, Value.tree, Datum.object.injEq,
          own_membersDatum_iff, hmembers]
        exact ⟨fun h => .object hordinary h.2.1 h.2.2,
          fun h => by cases h with | object _ horder hmembers => exact ⟨rfl, horder, hmembers⟩⟩

end Json

end PluginBundle
