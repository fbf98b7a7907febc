/-!
# Lists of pairs as ordered maps

A list of keys with values keeps the order in which the keys were first given. Setting a key that
is there changes its value and not its place. The module proves what setting does to the keys and
to a look-up; it does not ask the list to be free of repeated keys, except where it says so.
-/

namespace PluginBundle.Keyed

variable {α : Type}

/-- The value of the first pair with the key. -/
def find? (key : String) : List (String × α) → Option α
  | [] => none
  | (k, v) :: rest => if k = key then some v else find? key rest

/-- Gives a key its value: in its place if the key is there, else at the end. -/
def set (key : String) (value : α) : List (String × α) → List (String × α)
  | [] => [(key, value)]
  | (k, v) :: rest => if k = key then (k, value) :: rest else (k, v) :: set key value rest

/-- The map that a sequence of pairs leaves when each is set in turn. -/
def collect (pairs : List (String × α)) : List (String × α) :=
  pairs.foldl (fun entries p => set p.1 p.2 entries) []

/-- The keys in the order of the list. -/
def keys (entries : List (String × α)) : List String := entries.map Prod.fst

@[simp] theorem keys_nil : keys ([] : List (String × α)) = [] := rfl

@[simp] theorem keys_cons (p : String × α) (rest : List (String × α)) :
    keys (p :: rest) = p.1 :: keys rest := rfl

theorem find?_eq_none_iff {key : String} {entries : List (String × α)} :
    find? key entries = none ↔ key ∉ keys entries := by
  induction entries with
  | nil => simp [find?]
  | cons p rest ih =>
      obtain ⟨k, v⟩ := p
      by_cases h : k = key
      · simp [find?, h]
      · simp [find?, h, ih, Ne.symm h]

theorem mem_of_find? {key : String} {value : α} {entries : List (String × α)}
    (h : find? key entries = some value) : (key, value) ∈ entries := by
  induction entries with
  | nil => simp [find?] at h
  | cons p rest ih =>
      obtain ⟨k, v⟩ := p
      by_cases hk : k = key
      · simp only [find?, hk, if_true, Option.some.injEq] at h
        simp [hk, h]
      · simp only [find?, hk, if_false] at h
        exact List.mem_cons_of_mem _ (ih h)

theorem find?_of_mem {key : String} {value : α} {entries : List (String × α)}
    (hkeys : (keys entries).Nodup) (h : (key, value) ∈ entries) :
    find? key entries = some value := by
  induction entries with
  | nil => simp at h
  | cons p rest ih =>
      obtain ⟨k, v⟩ := p
      simp only [keys_cons, List.nodup_cons] at hkeys
      rcases List.mem_cons.1 h with hfirst | hrest
      · cases hfirst
        simp [find?]
      · have hk : k ≠ key := by
          rintro rfl
          exact hkeys.1 (List.mem_map.2 ⟨_, hrest, rfl⟩)
        simp [find?, hk, ih hkeys.2 hrest]

theorem keys_set (key : String) (value : α) (entries : List (String × α)) :
    keys (set key value entries) =
      if key ∈ keys entries then keys entries else keys entries ++ [key] := by
  induction entries with
  | nil => simp [set, keys]
  | cons p rest ih =>
      obtain ⟨k, v⟩ := p
      by_cases h : k = key
      · simp [set, keys, h]
      · simp only [keys] at ih
        simp only [set, keys, h, if_false, List.map_cons, List.mem_cons, ih, Ne.symm h, false_or]
        split <;> simp_all

theorem keys_set_nodup {key : String} {value : α} {entries : List (String × α)}
    (h : (keys entries).Nodup) : (keys (set key value entries)).Nodup := by
  rw [keys_set]
  split
  · exact h
  · rename_i hk
    exact List.nodup_append.2 ⟨h, by simp, by
      intro a ha b hb hab
      simp only [List.mem_singleton] at hb
      exact hk (hb ▸ hab ▸ ha)⟩

theorem find?_set (key other : String) (value : α) (entries : List (String × α)) :
    find? other (set key value entries) =
      if key = other then some value else find? other entries := by
  induction entries with
  | nil => simp [set, find?]
  | cons p rest ih =>
      obtain ⟨k, v⟩ := p
      by_cases h : k = key
      · subst h
        by_cases ho : k = other <;> simp [set, find?, ho]
      · by_cases ho : k = other
        · subst ho
          simp [set, find?, h, Ne.symm h]
        · simp [set, find?, h, ho, ih]

/-- Setting a key that is not there puts it at the end. -/
theorem set_of_not_mem {key : String} {value : α} {entries : List (String × α)}
    (h : key ∉ keys entries) : set key value entries = entries ++ [(key, value)] := by
  induction entries with
  | nil => rfl
  | cons p rest ih =>
      obtain ⟨k, v⟩ := p
      simp only [keys_cons, List.mem_cons, not_or] at h
      simp [set, Ne.symm h.1, ih h.2]

/-- Pairs whose keys are distinct are collected as they are. -/
theorem collect_eq_self {pairs : List (String × α)} (h : (keys pairs).Nodup) :
    collect pairs = pairs := by
  suffices hfold : ∀ entries : List (String × α), (keys (entries ++ pairs)).Nodup →
      pairs.foldl (fun entries p => set p.1 p.2 entries) entries = entries ++ pairs by
    simpa [collect] using hfold [] (by simpa using h)
  clear h
  induction pairs with
  | nil => intro entries _; simp
  | cons p rest ih =>
      intro entries hkeys
      have hp : p.1 ∉ keys entries := by
        simp only [keys, List.map_append, List.map_cons, List.nodup_append] at hkeys
        intro hmem
        exact hkeys.2.2 _ hmem _ List.mem_cons_self rfl
      rw [List.foldl_cons, set_of_not_mem hp, ih]
      · simp
      · simpa using hkeys

theorem mem_of_mem_set {p : String × α} {key : String} {value : α} {entries : List (String × α)}
    (h : p ∈ set key value entries) : p = (key, value) ∨ p ∈ entries := by
  induction entries with
  | nil => simpa [set] using h
  | cons q rest ih =>
      obtain ⟨k, v⟩ := q
      by_cases hk : k = key
      · rw [set, if_pos hk, hk] at h
        rcases List.mem_cons.1 h with rfl | hrest
        · exact .inl rfl
        · exact .inr (List.mem_cons_of_mem _ hrest)
      · rw [set, if_neg hk] at h
        rcases List.mem_cons.1 h with rfl | hrest
        · exact .inr List.mem_cons_self
        · exact (ih hrest).imp_right (List.mem_cons_of_mem _)

/-- What is collected was among the pairs. -/
theorem mem_of_mem_collect {p : String × α} {pairs : List (String × α)} (h : p ∈ collect pairs) :
    p ∈ pairs := by
  suffices hfold : ∀ entries : List (String × α),
      p ∈ pairs.foldl (fun entries p => set p.1 p.2 entries) entries → p ∈ entries ∨ p ∈ pairs by
    simpa using hfold [] h
  clear h
  induction pairs with
  | nil => intro entries h; exact .inl h
  | cons q rest ih =>
      intro entries h
      rcases ih _ h with hset | hrest
      · rcases mem_of_mem_set hset with rfl | hentry
        · exact .inr List.mem_cons_self
        · exact .inl hentry
      · exact .inr (List.mem_cons_of_mem _ hrest)

theorem collect_nodup (pairs : List (String × α)) : (keys (collect pairs)).Nodup := by
  suffices h : ∀ entries : List (String × α), (keys entries).Nodup →
      (keys (pairs.foldl (fun entries p => set p.1 p.2 entries) entries)).Nodup by
    exact h [] (by simp [keys])
  induction pairs with
  | nil => intro entries h; exact h
  | cons p rest ih => intro entries h; exact ih _ (keys_set_nodup h)

end PluginBundle.Keyed
