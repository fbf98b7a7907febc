import PluginBundle.Json.Reader

/-!
# Values whose objects hold each key once

An object is a list of members, so it could hold a key twice.  The reader makes no such object: it
collects the members that it reads.  What is proved about the decoding of a value is proved for
values in which no object holds a key twice.
-/

namespace PluginBundle.Json

/-- No object of the value holds a key twice. -/
inductive Value.KeysOnce : Value → Prop where
  | null : KeysOnce .null
  | bool (b : Bool) : KeysOnce (.bool b)
  | number (n : Number) : KeysOnce (.number n)
  | string (s : String) : KeysOnce (.string s)
  | array {items : List Value} (hitems : ∀ v ∈ items, KeysOnce v) : KeysOnce (.array items)
  | object {members : List (String × Value)} (hkeys : (Keyed.keys members).Nodup)
      (hmembers : ∀ p ∈ members, KeysOnce p.2) : KeysOnce (.object members)

theorem Value.KeysOnce.item {items : List Value} (h : (Value.array items).KeysOnce) {v : Value}
    (hv : v ∈ items) : v.KeysOnce := by
  cases h with
  | array hitems => exact hitems v hv

theorem Value.KeysOnce.nodup {members : List (String × Value)}
    (h : (Value.object members).KeysOnce) : (Keyed.keys members).Nodup := by
  cases h with
  | object hkeys _ => exact hkeys

theorem Value.KeysOnce.member {members : List (String × Value)}
    (h : (Value.object members).KeysOnce) {p : String × Value} (hp : p ∈ members) :
    p.2.KeysOnce := by
  cases h with
  | object _ hmembers => exact hmembers p hp

/-- Collecting members leaves each key once. -/
theorem Value.KeysOnce.collect {members : List (String × Value)}
    (h : ∀ p ∈ members, p.2.KeysOnce) : (Value.object (Keyed.collect members)).KeysOnce :=
  .object (Keyed.collect_nodup members) fun p hp => h p (Keyed.mem_of_mem_collect hp)

/-- A reader all of whose values hold each key once. -/
def Faithful (element : Reader Value) : Prop :=
  ∀ cs v rest, element cs = .ok (v, rest) → v.KeysOnce

theorem bind_eq_ok_iff {ε α β : Type} {result : Except ε α} {next : α → Except ε β} {b : β} :
    (result >>= next) = .ok b ↔ ∃ a, result = .ok a ∧ next a = .ok b := by
  cases result with
  | error e => simp [bind, Except.bind]
  | ok a => simp [bind, Except.bind]

/-- One round of reading an array: it ends, or an item is read and the rest of them. -/
theorem readItems_succ_cases {element : Reader Value} {fuel : Nat} {first : Bool}
    {cs rest : List Char} {vs : List Value}
    (h : readItems element (fuel + 1) first cs = .ok (vs, rest)) :
    vs = [] ∨ ∃ start v more ws, element start = .ok (v, more) ∧
      readItems element fuel false more = .ok (ws, rest) ∧ vs = v :: ws := by
  have hnext : ∀ start,
      (element start >>= fun p => readItems element fuel false p.2 >>= fun q =>
        pure (p.1 :: q.1, q.2)) = Except.ok (vs, rest) →
      ∃ start v more ws, element start = .ok (v, more) ∧
        readItems element fuel false more = .ok (ws, rest) ∧ vs = v :: ws := by
    intro start h
    obtain ⟨⟨v, more⟩, hfirst, h⟩ := bind_eq_ok_iff.1 h
    obtain ⟨⟨ws, tail⟩, hmore, h⟩ := bind_eq_ok_iff.1 h
    cases h
    exact ⟨start, v, more, ws, hfirst, hmore, rfl⟩
  rw [readItems] at h
  split at h
  · simp [faultAt] at h
  · cases h
    exact .inl rfl
  · split at h
    · exact .inr (hnext _ h)
    · split at h
      · split at h
        · simp [faultAt] at h
        · simp [faultAt] at h
        · exact .inr (hnext _ h)
      · simp [faultAt] at h

theorem readItems_keysOnce {element : Reader Value} (helement : Faithful element) (fuel : Nat) :
    ∀ first cs vs rest, readItems element fuel first cs = .ok (vs, rest) →
      ∀ v ∈ vs, v.KeysOnce := by
  induction fuel with
  | zero => intro first cs vs rest h; simp [readItems, faultAt] at h
  | succ fuel ih =>
      intro first cs vs rest h
      rcases readItems_succ_cases h with rfl | ⟨start, v, more, ws, hfirst, hmore, rfl⟩
      · simp
      · exact List.forall_mem_cons.2 ⟨helement _ _ _ hfirst, ih _ _ _ _ hmore⟩

/-- One round of reading an object: it ends, or a member is read and the rest of them. -/
theorem readMembers_succ_cases {element : Reader Value} {fuel : Nat} {first : Bool}
    {cs rest : List Char} {ms : List (String × Value)}
    (h : readMembers element (fuel + 1) first cs = .ok (ms, rest)) :
    ms = [] ∨ ∃ key start v more ns, element start = .ok (v, more) ∧
      readMembers element fuel false more = .ok (ns, rest) ∧ ms = (key, v) :: ns := by
  have hnext : ∀ key start,
      (element start >>= fun p => readMembers element fuel false p.2 >>= fun q =>
        pure ((key, p.1) :: q.1, q.2)) = Except.ok (ms, rest) →
      ∃ key start v more ns, element start = .ok (v, more) ∧
        readMembers element fuel false more = .ok (ns, rest) ∧ ms = (key, v) :: ns := by
    intro key start h
    obtain ⟨⟨v, more⟩, hvalue, h⟩ := bind_eq_ok_iff.1 h
    obtain ⟨⟨ns, tail⟩, hmore, h⟩ := bind_eq_ok_iff.1 h
    cases h
    exact ⟨key, start, v, more, ns, hvalue, hmore, rfl⟩
  rw [readMembers] at h
  split at h
  · simp [faultAt] at h
  · cases h
    exact .inl rfl
  · split at h
    · split at h
      · obtain ⟨⟨key, more⟩, -, h⟩ := bind_eq_ok_iff.1 h
        dsimp only at h
        split at h
        · simp [faultAt] at h
        · exact .inr (hnext _ _ h)
        · simp [faultAt] at h
      · simp [faultAt] at h
    · split at h
      · split at h
        · simp [faultAt] at h
        · obtain ⟨⟨key, more⟩, -, h⟩ := bind_eq_ok_iff.1 h
          dsimp only at h
          split at h
          · simp [faultAt] at h
          · exact .inr (hnext _ _ h)
          · simp [faultAt] at h
        · simp [faultAt] at h
        · simp [faultAt] at h
      · simp [faultAt] at h

theorem readMembers_keysOnce {element : Reader Value} (helement : Faithful element) (fuel : Nat) :
    ∀ first cs ms rest, readMembers element fuel first cs = .ok (ms, rest) →
      ∀ p ∈ ms, p.2.KeysOnce := by
  induction fuel with
  | zero => intro first cs ms rest h; simp [readMembers, faultAt] at h
  | succ fuel ih =>
      intro first cs ms rest h
      rcases readMembers_succ_cases h with rfl | ⟨key, start, v, more, ns, hvalue, hmore, rfl⟩
      · simp
      · exact List.forall_mem_cons.2 ⟨helement _ _ _ hvalue, ih _ _ _ _ hmore⟩

/-- A value made of what was read. -/
theorem keysOnce_of_map {α : Type} {result : Except Fault (α × List Char)} {make : α → Value}
    {v : Value} {rest : List Char}
    (h : (result.map fun p => (make p.1, p.2)) = .ok (v, rest))
    (hmake : ∀ a more, result = .ok (a, more) → (make a).KeysOnce) : v.KeysOnce := by
  cases hresult : result with
  | error f => simp [hresult, Except.map] at h
  | ok p =>
      obtain ⟨a, more⟩ := p
      simp only [hresult, Except.map, Except.ok.injEq, Prod.mk.injEq] at h
      obtain ⟨rfl, -⟩ := h
      exact hmake a more hresult

/-- One level of a value, given the level below. -/
theorem readValue_faithful_of_below {depth : Nat}
    (hbelow : ∀ below, depth = below + 1 → Faithful (readValue below)) :
    Faithful (readValue depth) := by
  intro cs v rest h
  unfold readValue at h
  split at h
  · simp [faultAt] at h
  · exact keysOnce_of_map h fun _ _ _ => .null
  · exact keysOnce_of_map h fun _ _ _ => .bool true
  · exact keysOnce_of_map h fun _ _ _ => .bool false
  · exact keysOnce_of_map h fun _ _ _ => .number _
  · exact keysOnce_of_map h fun _ _ _ => .string _
  · split at h
    · simp [faultAt] at h
    · rename_i below
      exact keysOnce_of_map h fun _ _ hread =>
        .array (readItems_keysOnce (hbelow below rfl) _ _ _ _ _ hread)
  · split at h
    · simp [faultAt] at h
    · rename_i below
      exact keysOnce_of_map h fun _ _ hread =>
        .collect (readMembers_keysOnce (hbelow below rfl) _ _ _ _ _ hread)
  · split at h
    · exact keysOnce_of_map h fun _ _ _ => .number _
    · simp [faultAt] at h

/-- The reader keeps the last value of a key only, at every depth. -/
theorem readValue_faithful (depth : Nat) : Faithful (readValue depth) := by
  induction depth with
  | zero => exact readValue_faithful_of_below fun below h => by omega
  | succ depth ih =>
      refine readValue_faithful_of_below fun below h => ?_
      obtain rfl : depth = below := by omega
      exact ih

/-- A text never spells an object that holds a key twice. -/
theorem read_keysOnce {text : String} {v : Value} (h : read text = .ok v) : v.KeysOnce := by
  unfold read at h
  cases hvalue : readValue depthLimit text.toList with
  | error f => simp [hvalue] at h
  | ok p =>
      obtain ⟨w, rest⟩ := p
      simp only [hvalue] at h
      split at h
      · cases h
        exact readValue_faithful _ _ _ _ hvalue
      · simp [faultAt] at h

end PluginBundle.Json
