import PluginBundle.Configuration.Validation
import PluginBundle.Proofs.Text.NameCharacters

/-!
# Acceptable plugins

`Configuration.check` goes through the plugins once, with the variables that are taken so far.
This module says what it accepts without that walk: each plugin is acceptable by itself, and no two
of them share a variable.  `VisibleRule` and `LegalName` spell out two of the questions that are
asked of a single plugin.  Which fault is reported of a list that is not acceptable is not said
here.
-/

namespace PluginBundle

/-- A rule that says something: a flag, or a text with a character that is not blank. -/
inductive VisibleRule : Rule → Prop where
  | flag (on : Bool) : VisibleRule (.flag on)
  | expression {source : String} (visible : ∃ ch ∈ source.toList, isBlank ch = false) :
      VisibleRule (.expression source)

theorem Rule.isBlank_eq_false_iff (rule : Rule) : rule.isBlank = false ↔ VisibleRule rule := by
  cases rule with
  | flag on => exact ⟨fun _ => .flag on, fun _ => rfl⟩
  | expression source =>
      have hsource : (Rule.expression source).isBlank = false ↔ _ := isBlankText_eq_false_iff source
      rw [hsource]
      constructor
      · exact .expression
      · rintro ⟨⟩
        assumption

/-- A text that starts like a name, goes on like one, and is no reserved word. -/
structure LegalName (name : String) : Prop where
  shape : ∃ first rest, name.toList = first :: rest ∧ isNameStart first = true ∧
    ∀ ch ∈ rest, isNamePart ch = true
  unreserved : name ∉ reservedWords

theorem isIdentifier_iff (name : String) : isIdentifier name = true ↔ LegalName name := by
  unfold isIdentifier
  split
  · rename_i hchars
    simp only [Bool.false_eq_true, false_iff]
    rintro ⟨⟨first, rest, hname, -⟩, -⟩
    rw [hchars] at hname
    cases hname
  · rename_i first rest hchars
    simp only [Bool.and_eq_true, List.all_eq_true, Bool.not_eq_true', List.contains_eq_mem,
      decide_eq_false_iff_not]
    constructor
    · rintro ⟨⟨hfirst, hrest⟩, hwords⟩
      exact ⟨⟨first, rest, hchars, hfirst, hrest⟩, hwords⟩
    · rintro ⟨⟨first', rest', hname, hfirst, hrest⟩, hwords⟩
      rw [hchars] at hname
      cases hname
      exact ⟨⟨hfirst, hrest⟩, hwords⟩

/-- A name has characters, and all of them are those of names. -/
theorem isNamePart_of_isIdentifier {name : String} (h : isIdentifier name = true) :
    name.toList ≠ [] ∧ ∀ c ∈ name.toList, isNamePart c = true := by
  obtain ⟨first, rest, hchars, hfirst, hrest⟩ := ((isIdentifier_iff name).1 h).shape
  rw [hchars]
  exact ⟨by simp, List.forall_mem_cons.2 ⟨isNamePart_of_isNameStart hfirst, hrest⟩⟩

/-- Plugins of which a script can be made. -/
structure Acceptable (entries : List (String × PluginEntry)) : Prop where
  named : ∀ p ∈ entries, p.1 ≠ ""
  ruled : ∀ p ∈ entries, p.2.rule.isBlank = false
  legal : ∀ p ∈ entries, isIdentifier (normalizeName p.1) = true
  apart : (entries.map fun p => normalizeName p.1).Nodup

theorem acceptable_nil : Acceptable [] :=
  ⟨by simp, by simp, by simp, by simp⟩

theorem acceptable_cons_iff (p : String × PluginEntry) (rest : List (String × PluginEntry)) :
    Acceptable (p :: rest) ↔
      p.1 ≠ "" ∧ p.2.rule.isBlank = false ∧ isIdentifier (normalizeName p.1) = true ∧
        (∀ q ∈ rest, normalizeName q.1 ≠ normalizeName p.1) ∧ Acceptable rest := by
  constructor
  · rintro ⟨hnamed, hruled, hlegal, hapart⟩
    simp only [List.forall_mem_cons] at hnamed hruled hlegal
    simp only [List.map_cons, List.nodup_cons, List.mem_map, not_exists, not_and] at hapart
    exact ⟨hnamed.1, hruled.1, hlegal.1, hapart.1, hnamed.2, hruled.2, hlegal.2, hapart.2⟩
  · rintro ⟨hname, hrule, hidentifier, hfresh, hnamed, hruled, hlegal, hapart⟩
    refine ⟨List.forall_mem_cons.2 ⟨hname, hnamed⟩, List.forall_mem_cons.2 ⟨hrule, hruled⟩,
      List.forall_mem_cons.2 ⟨hidentifier, hlegal⟩, ?_⟩
    simp only [List.map_cons, List.nodup_cons, List.mem_map, not_exists, not_and]
    exact ⟨hfresh, hapart⟩

/-- One step of the walk: the four questions about the first plugin. -/
theorem checkPlugins_cons_eq_ok_iff (taken : List (String × String)) (p : String × PluginEntry)
    (rest : List (String × PluginEntry)) :
    checkPlugins taken (p :: rest) = .ok () ↔
      p.1 ≠ "" ∧ p.2.rule.isBlank = false ∧ isIdentifier (normalizeName p.1) = true ∧
        normalizeName p.1 ∉ Keyed.keys taken ∧
        checkPlugins ((normalizeName p.1, p.1) :: taken) rest = .ok () := by
  obtain ⟨name, entry⟩ := p
  by_cases hname : name = ""
  · simp [checkPlugins, hname]
  cases hrule : entry.rule.isBlank with
  | true => simp [checkPlugins, hname, hrule]
  | false =>
      cases hidentifier : isIdentifier (normalizeName name) with
      | false => simp [checkPlugins, hname, hrule, hidentifier]
      | true =>
          rw [← Keyed.find?_eq_none_iff]
          cases htaken : Keyed.find? (normalizeName name) taken with
          | some first => simp [checkPlugins, hname, hrule, hidentifier, htaken]
          | none => simp [checkPlugins, hname, hrule, hidentifier, htaken]

/-- The walk accepts acceptable plugins whose variables are not taken. -/
theorem checkPlugins_eq_ok_iff (taken : List (String × String))
    (entries : List (String × PluginEntry)) :
    checkPlugins taken entries = .ok () ↔
      Acceptable entries ∧ ∀ p ∈ entries, normalizeName p.1 ∉ Keyed.keys taken := by
  induction entries generalizing taken with
  | nil => simp [checkPlugins, acceptable_nil]
  | cons p rest ih =>
      rw [checkPlugins_cons_eq_ok_iff, ih, acceptable_cons_iff, List.forall_mem_cons]
      simp only [Keyed.keys_cons, List.mem_cons, not_or]
      constructor
      · rintro ⟨hname, hrule, hidentifier, hfree, hrest, hall⟩
        exact ⟨⟨hname, hrule, hidentifier, fun q hq => (hall q hq).1, hrest⟩, hfree,
          fun q hq => (hall q hq).2⟩
      · rintro ⟨⟨hname, hrule, hidentifier, hapart, hrest⟩, hfree, hall⟩
        exact ⟨hname, hrule, hidentifier, hfree, hrest, fun q hq => ⟨hapart q hq, hall q hq⟩⟩

theorem check_eq_ok_iff (c : Configuration) : c.check = .ok () ↔ Acceptable c.plugins.entries := by
  simp [Configuration.check, checkPlugins_eq_ok_iff]

end PluginBundle
