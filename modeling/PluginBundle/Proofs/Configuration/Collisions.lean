import PluginBundle.Proofs.Configuration.Faults

/-!
# Which names collide

Normalization sends the three separators of module names to the low line and leaves all else as it
is.  So it forgets which of the four characters stood at a place, and nothing else:
`normalizeName_eq_iff` says that two names are normalized alike if and only if they differ in no
more than that.  Names without a separator are left as they are, among them all legal variables and
all normalized names.

* `normalizeChar_eq_iff` – the same question for single characters, from which that for names
  follows place by place.
* `check_eq_collision_iff` – what the check of a configuration reports as a collision, told without
  normalization: the second name is that of the first plugin that differs from one before it only in
  which of these characters it uses.
* `exists_collision_iff` – plugins that are legal by themselves collide if and only if two of their
  names differ in nothing else.
-/

namespace PluginBundle

/-! ## Characters -/

/-- The characters that normalization does not tell apart. -/
def joiningChars : List Char := ['-', '/', '.', '_']

theorem normalizeChar_of_mem {c : Char} (h : c ∈ joiningChars) : normalizeChar c = '_' := by
  simp only [joiningChars, List.mem_cons, List.not_mem_nil, or_false] at h
  obtain rfl | rfl | rfl | rfl := h <;> decide

/-- A character is left as it is, unless it is a separator. -/
theorem normalizeChar_eq_self_iff (c : Char) :
    normalizeChar c = c ↔ c ≠ '-' ∧ c ≠ '/' ∧ c ≠ '.' := by
  unfold normalizeChar
  split
  · rename_i hseparator
    obtain rfl | rfl | rfl := hseparator <;> decide
  · rename_i hother
    simpa [not_or] using hother

theorem normalizeChar_of_not_mem {c : Char} (h : c ∉ joiningChars) : normalizeChar c = c := by
  rw [normalizeChar_eq_self_iff]
  simp only [joiningChars, List.mem_cons, List.not_mem_nil, or_false, not_or] at h
  exact ⟨h.1, h.2.1, h.2.2.1⟩

/-- **Which characters are normalized alike.** -/
theorem normalizeChar_eq_iff (x y : Char) :
    normalizeChar x = normalizeChar y ↔ x = y ∨ x ∈ joiningChars ∧ y ∈ joiningChars := by
  have hlow : '_' ∈ joiningChars := by decide
  by_cases hx : x ∈ joiningChars
  · by_cases hy : y ∈ joiningChars
    · simp [normalizeChar_of_mem hx, normalizeChar_of_mem hy, hx, hy]
    · rw [normalizeChar_of_mem hx, normalizeChar_of_not_mem hy]
      constructor
      · rintro rfl
        exact absurd hlow hy
      · rintro (rfl | ⟨-, hmem⟩)
        · exact absurd hx hy
        · exact absurd hmem hy
  · by_cases hy : y ∈ joiningChars
    · rw [normalizeChar_of_not_mem hx, normalizeChar_of_mem hy]
      constructor
      · rintro rfl
        exact absurd hlow hx
      · rintro (rfl | ⟨hmem, -⟩)
        · exact absurd hy hx
        · exact absurd hmem hx
    · simp [normalizeChar_of_not_mem hx, normalizeChar_of_not_mem hy, hx]

theorem normalizeChar_normalizeChar (c : Char) :
    normalizeChar (normalizeChar c) = normalizeChar c := by
  rw [normalizeChar_eq_iff]
  by_cases hc : c ∈ joiningChars
  · rw [normalizeChar_of_mem hc]
    exact .inr ⟨by decide, hc⟩
  · exact .inl (normalizeChar_of_not_mem hc)

/-! ## Names -/

/-- Two names of one length that agree at every place, or have one of the joining characters
there. -/
structure SameButJoining (a b : String) : Prop where
  length : a.length = b.length
  places : ∀ (i : Nat) (x y : Char), a.toList[i]? = some x → b.toList[i]? = some y →
    x = y ∨ x ∈ joiningChars ∧ y ∈ joiningChars

theorem toList_normalizeName (name : String) :
    (normalizeName name).toList = name.toList.map normalizeChar := by
  simp [normalizeName]

/-- **Which names are normalized alike.** -/
theorem normalizeName_eq_iff (a b : String) :
    normalizeName a = normalizeName b ↔ SameButJoining a b := by
  rw [← String.toList_inj, toList_normalizeName, toList_normalizeName]
  constructor
  · intro h
    refine ⟨?_, fun i x y hx hy => ?_⟩
    · rw [← String.length_toList, ← String.length_toList]
      simpa only [List.length_map] using congrArg List.length h
    · have hplace := congrArg (·[i]?) h
      simp only [List.getElem?_map, hx, hy, Option.map_some, Option.some.injEq] at hplace
      exact (normalizeChar_eq_iff x y).1 hplace
  · rintro ⟨hlength, hplaces⟩
    rw [← String.length_toList, ← String.length_toList] at hlength
    refine List.ext_getElem (by simpa only [List.length_map] using hlength) fun i hi hi' => ?_
    rw [List.length_map] at hi hi'
    rw [List.getElem_map, List.getElem_map, normalizeChar_eq_iff]
    exact hplaces i _ _ (List.getElem?_eq_getElem hi) (List.getElem?_eq_getElem hi')

instance (a b : String) : Decidable (SameButJoining a b) :=
  decidable_of_iff _ (normalizeName_eq_iff a b)

/-- A name is left as it is if each of its characters is. -/
theorem normalizeName_eq_self_iff (a : String) :
    normalizeName a = a ↔ ∀ c ∈ a.toList, normalizeChar c = c := by
  have hkept : a.toList.map normalizeChar = a.toList.map id ↔
      ∀ c ∈ a.toList, normalizeChar c = id c := List.map_inj_left
  rwa [List.map_id, ← toList_normalizeName, String.toList_inj] at hkept

/-- **Which names are left as they are**: those without a separator. -/
theorem normalizeName_eq_self_iff_not_mem (a : String) :
    normalizeName a = a ↔ '-' ∉ a.toList ∧ '/' ∉ a.toList ∧ '.' ∉ a.toList := by
  rw [normalizeName_eq_self_iff]
  simp only [normalizeChar_eq_self_iff, ne_eq, imp_and, forall_and, List.forall_mem_ne']

theorem normalizeName_normalizeName (a : String) :
    normalizeName (normalizeName a) = normalizeName a := by
  rw [normalizeName_eq_self_iff, toList_normalizeName]
  exact List.forall_mem_map.2 fun c _ => normalizeChar_normalizeChar c

/-- No separator is a letter or a number. -/
theorem normalizeChar_of_isNamePart {c : Char} (h : isNamePart c = true) : normalizeChar c = c := by
  rw [normalizeChar_eq_self_iff]
  refine ⟨?_, ?_, ?_⟩ <;>
    · rintro rfl
      rw [isNamePart_of_ascii (by decide)] at h
      exact absurd h (by decide)

/-- Legal variables are left as they are. -/
theorem normalizeName_of_isIdentifier {a : String} (h : isIdentifier a = true) :
    normalizeName a = a := by
  rw [normalizeName_eq_self_iff]
  exact fun c hc => normalizeChar_of_isNamePart ((isNamePart_of_isIdentifier h).2 c hc)

/-! ## Collisions -/

/-- A plugin that has no fault of its own. -/
def LegalAlone (p : String × PluginEntry) : Prop :=
  p.1 ≠ "" ∧ VisibleRule p.2.rule ∧ LegalName (normalizeName p.1)

/-- No two names of a list differ only in their joining characters. -/
def Apart (names : List String) : Prop := names.Pairwise fun a b => ¬SameButJoining a b

theorem apart_iff_nodup (names : List String) : Apart names ↔ (names.map normalizeName).Nodup := by
  simp only [Apart, List.Nodup, List.pairwise_map, ne_eq, normalizeName_eq_iff]

/-- Names that are all different are apart if no two of them differ in nothing else. -/
theorem apart_iff_forall {names : List String} (hnames : names.Nodup) :
    Apart names ↔ ∀ a ∈ names, ∀ b ∈ names, SameButJoining a b → a = b := by
  rw [apart_iff_nodup, List.nodup_map_iff_inj_on hnames]
  simp only [normalizeName_eq_iff]

theorem acceptable_iff_apart (entries : List (String × PluginEntry)) :
    Acceptable entries ↔ (∀ p ∈ entries, LegalAlone p) ∧ Apart (Keyed.keys entries) := by
  rw [acceptable_iff_forall, apart_iff_nodup, Keyed.keys, List.map_map]
  rfl

/-- What the fault of a collision says, behind acceptable plugins. -/
theorem faultAfter_collision_iff {before : List (String × PluginEntry)}
    (hbefore : Acceptable before) (q : String × PluginEntry) (first second identifier : String) :
    FaultAfter before q (.identifierCollision first second identifier) ↔
      LegalAlone q ∧ second = q.1 ∧ identifier = normalizeName q.1 ∧
        ∃ p ∈ before, first = p.1 ∧ SameButJoining p.1 q.1 := by
  constructor
  · intro h
    cases h with
    | collision hname hrule hlegal hfirst hsame _ =>
        exact ⟨⟨hname, hrule, hlegal⟩, rfl, rfl, _, hfirst, rfl, (normalizeName_eq_iff _ _).1 hsame⟩
  · rintro ⟨⟨hname, hrule, hlegal⟩, rfl, rfl, p, hp, rfl, hsame⟩
    have hnormal := (normalizeName_eq_iff p.1 q.1).2 hsame
    -- Acceptable plugins have distinct variables, so no other one before has this one.
    exact .collision hname hrule hlegal hp hnormal fun r hr hr' =>
      List.inj_on_of_nodup_map hbefore.apart hr hp (hr'.trans hnormal.symm)

/-- The first two plugins whose names differ only in their joining characters, the first of them in
front.  Up to the second one, no plugin has a fault of its own. -/
inductive FirstCollision (entries : List (String × PluginEntry)) : String → String → Prop where
  | mk {before middle after : List (String × PluginEntry)} {p q : String × PluginEntry}
      (hsplit : entries = (before ++ p :: middle) ++ q :: after)
      (halone : ∀ r ∈ (before ++ p :: middle) ++ [q], LegalAlone r)
      (hapart : Apart (Keyed.keys (before ++ p :: middle)))
      (hsame : SameButJoining p.1 q.1) : FirstCollision entries p.1 q.1

/-- **Which collisions are reported.** -/
theorem check_eq_collision_iff (c : Configuration) (first second identifier : String) :
    c.check = .error (.identifierCollision first second identifier) ↔
      FirstCollision c.plugins.entries first second ∧ identifier = normalizeName second := by
  rw [c.check_eq_error_iff]
  constructor
  · rintro ⟨cut, q, after, hsplit, hcut, hfault⟩
    obtain ⟨hq, rfl, rfl, p, hp, rfl, hsame⟩ := (faultAfter_collision_iff hcut q _ _ _).1 hfault
    obtain ⟨before, middle, rfl⟩ := List.append_of_mem hp
    obtain ⟨halone, hapart⟩ := (acceptable_iff_apart _).1 hcut
    exact ⟨.mk hsplit (List.forall_mem_append.2 ⟨halone, by simpa using hq⟩) hapart hsame, rfl⟩
  · rintro ⟨⟨hsplit, halone, hapart, hsame⟩, rfl⟩
    obtain ⟨hbefore, hq⟩ := List.forall_mem_append.1 halone
    have hcut := (acceptable_iff_apart _).2 ⟨hbefore, hapart⟩
    refine ⟨_, _, _, hsplit, hcut, (faultAfter_collision_iff hcut _ _ _ _).2 ?_⟩
    exact ⟨hq _ List.mem_cons_self, rfl, rfl, _, by simp, rfl, hsame⟩

/-- Plugins without a fault of their own are accepted, or two of them collide. -/
theorem ok_or_collision {c : Configuration} (halone : ∀ p ∈ c.plugins.entries, LegalAlone p) :
    c.check = .ok () ∨
      ∃ first second identifier,
        c.check = .error (.identifierCollision first second identifier) := by
  cases hcheck : c.check with
  | ok => exact .inl rfl
  | error e =>
      obtain ⟨before, p, after, hsplit, -, hfault⟩ := (c.check_eq_error_iff e).1 hcheck
      obtain ⟨hname, hrule, hlegal⟩ := halone p (by simp [hsplit])
      cases hfault with
      | unnamed hempty => exact absurd hempty hname
      | unruled _ hblank => exact absurd hrule hblank
      | illegal _ _ hillegal => exact absurd hlegal hillegal
      | collision => exact .inr ⟨_, _, _, rfl⟩

/-- Plugins without a fault of their own collide if and only if two of their names differ only in
their joining characters. -/
theorem exists_collision_iff {c : Configuration}
    (halone : ∀ p ∈ c.plugins.entries, LegalAlone p) :
    (∃ first second identifier, c.check = .error (.identifierCollision first second identifier)) ↔
      ∃ a ∈ c.plugins.names, ∃ b ∈ c.plugins.names, a ≠ b ∧ SameButJoining a b := by
  have hok : c.check = .ok () ↔
      ∀ a ∈ c.plugins.names, ∀ b ∈ c.plugins.names, SameButJoining a b → a = b := by
    have hapart := apart_iff_forall c.plugins.distinct
    rw [check_eq_ok_iff, acceptable_iff_apart, hapart]
    exact and_iff_right halone
  constructor
  · rintro ⟨first, second, identifier, hcollision⟩
    by_contra hnone
    have haccepted := hok.2 fun a ha b hb hsame => by
      by_contra hdifferent
      exact hnone ⟨a, ha, b, hb, hdifferent, hsame⟩
    rw [haccepted] at hcollision
    cases hcollision
  · rintro ⟨a, ha, b, hb, hdifferent, hsame⟩
    refine (ok_or_collision halone).resolve_left fun haccepted => hdifferent ?_
    exact hok.1 haccepted a ha b hb hsame

/-- **Which names are taken for one another.**  Two names are normalized alike if and only if they
have as many characters and at every place agree or both have a hyphen, a slash, a dot or a low
line.  The names that are left as they are hold no hyphen, slash or dot; all normalized names and
all legal variables are among them.  So a collision is reported of the first two plugins whose names
differ in nothing else, and plugins without another fault have one if and only if there are two such
names. -/
theorem names_collide_iff_same_but_joining :
    (∀ a b : String, normalizeName a = normalizeName b ↔ SameButJoining a b) ∧
      (∀ a : String, normalizeName a = a ↔
        '-' ∉ a.toList ∧ '/' ∉ a.toList ∧ '.' ∉ a.toList) ∧
      (∀ a : String, normalizeName (normalizeName a) = normalizeName a) ∧
      (∀ a : String, isIdentifier a = true → normalizeName a = a) ∧
      (∀ (c : Configuration) (first second identifier : String),
        c.check = .error (.identifierCollision first second identifier) ↔
          FirstCollision c.plugins.entries first second ∧ identifier = normalizeName second) ∧
      ∀ c : Configuration, (∀ p ∈ c.plugins.entries, LegalAlone p) →
        ((∃ first second identifier,
            c.check = .error (.identifierCollision first second identifier)) ↔
          ∃ a ∈ c.plugins.names, ∃ b ∈ c.plugins.names, a ≠ b ∧ SameButJoining a b) :=
  ⟨normalizeName_eq_iff, normalizeName_eq_self_iff_not_mem, normalizeName_normalizeName,
    fun _ => normalizeName_of_isIdentifier, check_eq_collision_iff, fun _ => exists_collision_iff⟩

/-- Of four plugins, the second and the last have names that differ only in their joining
characters; the first and the third have fewer characters or other ones. -/
theorem second_and_last_plugin_collide :
    let flag (name : String) : String × PluginEntry := (name, ⟨.null, .flag true⟩)
    let c : Configuration :=
      { Configuration.empty with
        plugins := .ofList [flag "a-b", flag "a-b/c", flag "a_b_d", flag "a.b_c"] }
    (∀ p ∈ c.plugins.entries, LegalAlone p) ∧ SameButJoining "a-b/c" "a.b_c" ∧
      normalizeName "a-b/c" = normalizeName "a.b_c" ∧
      (∃ first second identifier,
        c.check = .error (.identifierCollision first second identifier)) ∧
      c.check = .error (.identifierCollision "a-b/c" "a.b_c" "a_b_c") ∧
      isIdentifier "a_b_c" = true ∧ normalizeName "a_b_c" = "a_b_c" := by
  intro flag c
  obtain ⟨halike, -, -, hidentifiers, hreported, hcollide⟩ := names_collide_iff_same_but_joining
  have hsame : SameButJoining "a-b/c" "a.b_c" := by decide
  have hlegal : ∀ p ∈ c.plugins.entries, isIdentifier (normalizeName p.1) = true := by
    decide +kernel
  have halone : ∀ p ∈ c.plugins.entries, LegalAlone p := by
    intro p hp
    have hnamed : ∀ p ∈ c.plugins.entries, p.1 ≠ "" ∧ p.2.rule.isBlank = false := by decide
    obtain ⟨hname, hrule⟩ := hnamed p hp
    exact ⟨hname, (Rule.isBlank_eq_false_iff _).1 hrule, (isIdentifier_iff _).1 (hlegal p hp)⟩
  have hsome := (hcollide c halone).2 ⟨"a-b/c", by decide, "a.b_c", by decide, by decide, hsame⟩
  have hfirst : FirstCollision c.plugins.entries "a-b/c" "a.b_c" := by
    have hsplit : c.plugins.entries =
        ([flag "a-b"] ++ flag "a-b/c" :: [flag "a_b_d"]) ++ flag "a.b_c" :: [] := rfl
    refine .mk hsplit (hsplit ▸ halone) ?_ hsame
    rw [apart_iff_nodup]
    decide
  have hvariable : isIdentifier "a_b_c" = true := by decide +kernel
  exact ⟨halone, hsame, (halike _ _).2 hsame, hsome, (hreported c _ _ _).2 ⟨hfirst, by decide⟩,
    hvariable, hidentifiers _ hvariable⟩

end PluginBundle
