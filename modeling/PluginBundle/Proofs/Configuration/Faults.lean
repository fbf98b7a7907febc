import Mathlib.Data.List.Nodup
import PluginBundle.Proofs.Configuration.Acceptance

/-!
# The first fault of plugins

Which plugins are acceptable is said by `Acceptable`.  This module says what is reported of those
that are not.  The walk of the check carries the variables of the plugins before, and the invariant
is that these are acceptable: then the walk stops at a plugin if and only if there is a fault in it,
and otherwise goes on with one acceptable plugin more.

* `FaultAfter` is what is wrong with a plugin, given the ones before it: the four questions in the
  order in which they are asked.
* `checkPlugins_cons_eq_error_iff` is one step of the walk, `checkPlugins_eq_error_iff` the whole of
  it, from any acceptable plugins on.
* `check_reports_first_fault` puts this together with what the check accepts.
-/

namespace PluginBundle

theorem acceptable_iff_forall (entries : List (String × PluginEntry)) :
    Acceptable entries ↔
      (∀ p ∈ entries, p.1 ≠ "" ∧ VisibleRule p.2.rule ∧ LegalName (normalizeName p.1)) ∧
        (entries.map fun p => normalizeName p.1).Nodup := by
  simp only [← Rule.isBlank_eq_false_iff, ← isIdentifier_iff]
  constructor
  · intro h
    exact ⟨fun p hp => ⟨h.named p hp, h.ruled p hp, h.legal p hp⟩, h.apart⟩
  · rintro ⟨heach, hapart⟩
    exact ⟨fun p hp => (heach p hp).1, fun p hp => (heach p hp).2.1, fun p hp => (heach p hp).2.2,
      hapart⟩

/-- Plugins with one more at the end. -/
theorem acceptable_concat_iff (before : List (String × PluginEntry)) (p : String × PluginEntry) :
    Acceptable (before ++ [p]) ↔
      Acceptable before ∧ (p.1 ≠ "" ∧ VisibleRule p.2.rule ∧ LegalName (normalizeName p.1)) ∧
        ∀ q ∈ before, normalizeName q.1 ≠ normalizeName p.1 := by
  simp only [acceptable_iff_forall, List.forall_mem_append,
    List.map_append, List.map_singleton, List.nodup_append, List.nodup_singleton, true_and,
    List.mem_singleton, forall_eq, List.forall_mem_map]
  constructor
  · rintro ⟨⟨hbefore, hp⟩, hapart, hfresh⟩
    exact ⟨⟨hbefore, hapart⟩, hp, hfresh⟩
  · rintro ⟨⟨hbefore, hapart⟩, hp, hfresh⟩
    exact ⟨⟨hbefore, hp⟩, hapart, hfresh⟩

/-- What holds of plugins that are acceptable together holds of the first of them. -/
theorem Acceptable.of_isPrefix {cut entries : List (String × PluginEntry)} (h : Acceptable entries)
    (hcut : cut <+: entries) : Acceptable cut := by
  rw [acceptable_iff_forall] at h ⊢
  exact ⟨fun p hp => h.1 p (hcut.subset hp), h.2.sublist (hcut.map _).sublist⟩

/-- What is wrong with a plugin, given the ones before it.  Each fault is one of a plugin without
the faults above it. -/
inductive FaultAfter (before : List (String × PluginEntry)) (p : String × PluginEntry) :
    ConfigurationError → Prop where
  | unnamed (hname : p.1 = "") : FaultAfter before p .emptyPluginName
  | unruled (hname : p.1 ≠ "") (hrule : ¬VisibleRule p.2.rule) :
      FaultAfter before p (.missingPluginField p.1 .rule)
  | illegal (hname : p.1 ≠ "") (hrule : VisibleRule p.2.rule)
      (hlegal : ¬LegalName (normalizeName p.1)) :
      FaultAfter before p (.invalidPluginName p.1 (normalizeName p.1))
  | collision (hname : p.1 ≠ "") (hrule : VisibleRule p.2.rule)
      (hlegal : LegalName (normalizeName p.1))
      {first : String × PluginEntry} (hfirst : first ∈ before)
      (hsame : normalizeName first.1 = normalizeName p.1)
      (honly : ∀ q ∈ before, normalizeName q.1 = normalizeName p.1 → q = first) :
      FaultAfter before p (.identifierCollision first.1 p.1 (normalizeName p.1))

section Walk

variable {before : List (String × PluginEntry)} {p : String × PluginEntry} {e : ConfigurationError}

theorem FaultAfter.not_acceptable (h : FaultAfter before p e) : ¬Acceptable (before ++ [p]) := by
  rw [acceptable_concat_iff]
  rintro ⟨-, ⟨hname, hrule, hlegal⟩, hfresh⟩
  cases h with
  | unnamed hempty => exact hname hempty
  | unruled _ hblank => exact hblank hrule
  | illegal _ _ hillegal => exact hillegal hlegal
  | collision _ _ _ hfirst hsame _ => exact hfresh _ hfirst hsame

/-- A plugin behind acceptable ones has a fault, or is acceptable too. -/
theorem exists_faultAfter_or_acceptable (hbefore : Acceptable before) (p : String × PluginEntry) :
    (∃ e, FaultAfter before p e) ∨ Acceptable (before ++ [p]) := by
  by_cases hname : p.1 = ""
  · exact .inl ⟨_, .unnamed hname⟩
  by_cases hrule : VisibleRule p.2.rule
  · by_cases hlegal : LegalName (normalizeName p.1)
    · by_cases hfresh : ∀ q ∈ before, normalizeName q.1 ≠ normalizeName p.1
      · exact .inr ((acceptable_concat_iff before p).2 ⟨hbefore, ⟨hname, hrule, hlegal⟩, hfresh⟩)
      · simp only [not_forall, not_not] at hfresh
        obtain ⟨first, hfirst, hsame⟩ := hfresh
        -- Acceptable plugins have distinct variables, so no other one before has this one.
        have honly : ∀ q ∈ before, normalizeName q.1 = normalizeName p.1 → q = first :=
          fun q hq hq' => List.inj_on_of_nodup_map hbefore.apart hq hfirst (hq'.trans hsame.symm)
        exact .inl ⟨_, .collision hname hrule hlegal hfirst hsame honly⟩
    · exact .inl ⟨_, .illegal hname hrule hlegal⟩
  · exact .inl ⟨_, .unruled hname hrule⟩

/-- The variables of plugins with their names, the last one first, as the walk carries them. -/
def variablesOf (entries : List (String × PluginEntry)) : List (String × String) :=
  (entries.map fun p => (normalizeName p.1, p.1)).reverse

theorem variablesOf_concat (before : List (String × PluginEntry)) (p : String × PluginEntry) :
    variablesOf (before ++ [p]) = (normalizeName p.1, p.1) :: variablesOf before := by
  simp [variablesOf]

theorem keys_variablesOf (before : List (String × PluginEntry)) :
    Keyed.keys (variablesOf before) = (before.map fun p => normalizeName p.1).reverse := by
  simp [variablesOf, Keyed.keys, Function.comp_def]

theorem find?_variablesOf (hbefore : Acceptable before) {q : String × PluginEntry}
    (hq : q ∈ before) : Keyed.find? (normalizeName q.1) (variablesOf before) = some q.1 := by
  refine Keyed.find?_of_mem ?_ ?_
  · rw [keys_variablesOf]
    exact List.nodup_reverse.2 hbefore.apart
  · exact List.mem_reverse.2 (List.mem_map.2 ⟨q, hq, rfl⟩)

/-- The walk stops at a plugin with a fault. -/
theorem checkPlugins_of_faultAfter (hbefore : Acceptable before) (h : FaultAfter before p e)
    (rest : List (String × PluginEntry)) :
    checkPlugins (variablesOf before) (p :: rest) = .error e := by
  simp only [checkPlugins, String.isEmpty_iff]
  cases h with
  | unnamed hname => simp [hname]
  | unruled hname hrule =>
      rw [← Rule.isBlank_eq_false_iff, Bool.not_eq_false] at hrule
      simp [hname, hrule]
  | illegal hname hrule hlegal =>
      rw [← Rule.isBlank_eq_false_iff] at hrule
      rw [← isIdentifier_iff, Bool.not_eq_true] at hlegal
      simp [hname, hrule, hlegal]
  | collision hname hrule hlegal hfirst hsame _ =>
      rw [← Rule.isBlank_eq_false_iff] at hrule
      rw [← isIdentifier_iff] at hlegal
      have htaken := find?_variablesOf hbefore hfirst
      rw [hsame] at htaken
      simp [hname, hrule, hlegal, htaken]

/-- The walk goes on behind a plugin that is acceptable with the ones before. -/
theorem checkPlugins_of_acceptable (h : Acceptable (before ++ [p]))
    (rest : List (String × PluginEntry)) :
    checkPlugins (variablesOf before) (p :: rest) =
      checkPlugins (variablesOf (before ++ [p])) rest := by
  obtain ⟨-, ⟨hname, hrule, hlegal⟩, hfresh⟩ := (acceptable_concat_iff before p).1 h
  rw [← Rule.isBlank_eq_false_iff] at hrule
  rw [← isIdentifier_iff] at hlegal
  have hfree : Keyed.find? (normalizeName p.1) (variablesOf before) = none := by
    rw [Keyed.find?_eq_none_iff, keys_variablesOf]
    simpa using hfresh
  simp only [checkPlugins, String.isEmpty_iff]
  simp [hname, hrule, hlegal, hfree, variablesOf_concat]

/-- **One step of the walk.**  An error is that of a fault in the first plugin, or comes up behind
it. -/
theorem checkPlugins_cons_eq_error_iff (hbefore : Acceptable before)
    (rest : List (String × PluginEntry)) :
    checkPlugins (variablesOf before) (p :: rest) = .error e ↔
      FaultAfter before p e ∨
        Acceptable (before ++ [p]) ∧ checkPlugins (variablesOf (before ++ [p])) rest = .error e := by
  constructor
  · intro h
    rcases exists_faultAfter_or_acceptable hbefore p with ⟨e', hfault⟩ | hmore
    · rw [checkPlugins_of_faultAfter hbefore hfault] at h
      cases h
      exact .inl hfault
    · rw [checkPlugins_of_acceptable hmore] at h
      exact .inr ⟨hmore, h⟩
  · rintro (hfault | ⟨hmore, h⟩)
    · exact checkPlugins_of_faultAfter hbefore hfault rest
    · rw [checkPlugins_of_acceptable hmore, h]

/-- **The whole walk.**  An error is that of a fault in a plugin behind acceptable ones. -/
theorem checkPlugins_eq_error_iff (hbefore : Acceptable before)
    (rest : List (String × PluginEntry)) :
    checkPlugins (variablesOf before) rest = .error e ↔
      ∃ middle p after, rest = middle ++ p :: after ∧ Acceptable (before ++ middle) ∧
        FaultAfter (before ++ middle) p e := by
  induction rest generalizing before with
  | nil => simp [checkPlugins]
  | cons first rest ih =>
      rw [checkPlugins_cons_eq_error_iff hbefore]
      constructor
      · rintro (hfault | ⟨hmore, h⟩)
        · exact ⟨[], first, rest, rfl, by simpa using hbefore, by simpa using hfault⟩
        · obtain ⟨middle, p, after, rfl, hmiddle, hfault⟩ := (ih hmore).1 h
          rw [List.append_assoc] at hmiddle hfault
          exact ⟨first :: middle, p, after, rfl, hmiddle, hfault⟩
      · rintro ⟨middle, p, after, hsplit, hmiddle, hfault⟩
        cases middle with
        | nil =>
            cases hsplit
            rw [List.append_nil] at hfault
            exact .inl hfault
        | cons second middle =>
            obtain ⟨rfl, rfl⟩ := List.cons.inj hsplit
            have hmore : Acceptable (before ++ [first]) := hmiddle.of_isPrefix (by simp)
            rw [List.append_cons] at hmiddle hfault
            exact .inr ⟨hmore, (ih hmore).2 ⟨middle, p, after, rfl, hmiddle, hfault⟩⟩

end Walk

theorem Configuration.check_eq_error_iff (c : Configuration) (e : ConfigurationError) :
    c.check = .error e ↔
      ∃ before p after, c.plugins.entries = before ++ p :: after ∧ Acceptable before ∧
        FaultAfter before p e := by
  rw [Configuration.check]
  exact checkPlugins_eq_error_iff acceptable_nil c.plugins.entries

/-- **Which plugins are accepted, and what is reported of others.**  Plugins are accepted if each
has a name, a rule that says something and a legal variable, and no two variables are the same.
Otherwise the error is that of the first plugin that is not acceptable together with those before
it. -/
theorem check_reports_first_fault (c : Configuration) :
    (c.check = .ok () ↔
        (∀ p ∈ c.plugins.entries,
          p.1 ≠ "" ∧ VisibleRule p.2.rule ∧ LegalName (normalizeName p.1)) ∧
        (c.plugins.entries.map fun p => normalizeName p.1).Nodup) ∧
      ∀ e, c.check = .error e ↔
        ∃ before p after, c.plugins.entries = before ++ p :: after ∧
          (∀ cut, cut <+: before → Acceptable cut) ∧ ¬Acceptable (before ++ [p]) ∧
          FaultAfter before p e := by
  refine ⟨by rw [check_eq_ok_iff, acceptable_iff_forall], fun e => ?_⟩
  rw [c.check_eq_error_iff]
  constructor
  · rintro ⟨before, p, after, hsplit, hbefore, hfault⟩
    exact ⟨before, p, after, hsplit, fun cut hcut => hbefore.of_isPrefix hcut,
      hfault.not_acceptable, hfault⟩
  · rintro ⟨before, p, after, hsplit, hbefore, -, hfault⟩
    exact ⟨before, p, after, hsplit, hbefore before (List.prefix_refl before), hfault⟩

/-- A blank rule is reported before the collision that its plugin makes too, and a plugin without a
name behind it is not looked at. -/
example :
    checkPlugins []
        [("my-plugin", ⟨.null, .flag true⟩), ("my.plugin", ⟨.null, .expression " "⟩),
          ("", ⟨.null, .flag true⟩)] =
      .error (.missingPluginField "my.plugin" .rule) := by
  decide +kernel

end PluginBundle
