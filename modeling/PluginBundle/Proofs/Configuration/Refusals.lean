import PluginBundle.Proofs.Configuration.Faults
import PluginBundle.Proofs.Configuration.Values

/-!
# Which fault of a value is reported

A value that is no configuration may have many faults, and one of them is reported.  This module
says which.  Every pass of `Configuration.fromValue` is described by the faults that it looks for,
each told without the passes before.  `Foremost` then says that a pass is heard only if those before
it find nothing, and in the same way that a pass which goes through a list reports the first element
with a fault.

* `checkOptions_eq_error_iff`: the raw check looks for four kinds of fault.
* `takeOptions_eq_error_iff`: behind the raw check, decoding finds members of wrong types only.
* `fromValue_refuses_in_order`: the order of all six kinds.

Which plugin the last check reports is said by `Configuration.check_eq_error_iff`.
-/

namespace PluginBundle

open Json (Value)

/-! ## The first of several faults -/

/-- A fault of the first kind in a list of which there is any. -/
def Foremost {ε : Type} : List (ε → Prop) → ε → Prop
  | [], _ => False
  | fault :: later, e => fault e ∨ (∀ e', ¬fault e') ∧ Foremost later e

section Foremost

variable {ε α : Type} {fault : ε → Prop} {faults later : List (ε → Prop)} {e : ε}
  {result : Except ε α} {find : α → ε → Prop} {xs : List α}

theorem foremost_append :
    Foremost (faults ++ later) e ↔
      Foremost faults e ∨ (∀ e', ¬Foremost faults e') ∧ Foremost later e := by
  induction faults with
  | nil => simp [Foremost]
  | cons fault faults ih =>
      rw [List.cons_append, Foremost, Foremost, ih]
      simp only [Foremost, not_or, not_and, forall_and]
      constructor
      · rintro (h | ⟨hnone, h | ⟨hnone', h⟩⟩)
        · exact .inl (.inl h)
        · exact .inl (.inr ⟨hnone, h⟩)
        · exact .inr ⟨⟨hnone, fun e' _ => hnone' e'⟩, h⟩
      · rintro ((h | ⟨hnone, h⟩) | ⟨⟨hnone, hnone'⟩, h⟩)
        · exact .inl h
        · exact .inr ⟨hnone, .inl h⟩
        · exact .inr ⟨hnone, .inr ⟨fun e' => hnone' e' hnone, h⟩⟩

/-- There is a first fault if there is any. -/
theorem exists_foremost_iff : (∃ e, Foremost faults e) ↔ ∃ fault ∈ faults, ∃ e, fault e := by
  induction faults with
  | nil => simp [Foremost]
  | cons fault faults ih =>
      simp only [Foremost, List.mem_cons, exists_eq_or_imp, ← ih]
      constructor
      · rintro ⟨e, h | ⟨-, h⟩⟩
        · exact .inl ⟨e, h⟩
        · exact .inr ⟨e, h⟩
      · intro h
        by_cases hfirst : ∃ e, fault e
        · obtain ⟨e, he⟩ := hfirst
          exact ⟨e, .inl he⟩
        · obtain ⟨e, he⟩ := h.resolve_left hfirst
          exact ⟨e, .inr ⟨not_exists.1 hfirst, he⟩⟩

theorem exists_of_foremost (h : Foremost faults e) : ∃ fault ∈ faults, fault e := by
  induction faults with
  | nil => exact h.elim
  | cons fault faults ih =>
      rcases h with h | ⟨-, h⟩
      · exact ⟨fault, List.mem_cons_self, h⟩
      · obtain ⟨other, hother, he⟩ := ih h
        exact ⟨other, List.mem_cons_of_mem fault hother, he⟩

theorem exists_of_foremost_map (h : Foremost (xs.map find) e) : ∃ x ∈ xs, find x e := by
  obtain ⟨fault, hfault, he⟩ := exists_of_foremost h
  obtain ⟨x, hx, rfl⟩ := List.mem_map.1 hfault
  exact ⟨x, hx, he⟩

/-- A pass whose errors are the faults of one kind is heard first, and then the later ones. -/
theorem foremost_cons_iff (h : ∀ e, result = .error e ↔ fault e) :
    Foremost (fault :: later) e ↔
      result = .error e ∨ (∃ a, result = .ok a) ∧ Foremost later e := by
  have hnone : (∀ e', ¬fault e') ↔ ∃ a, result = .ok a := by
    simp only [← h]
    cases result <;> simp
  rw [Foremost, h, hnone]

end Foremost

/-! ## The raw check -/

/-- A fault in the members of a value that is an object. -/
inductive Within (fault : List (String × Value) → ConfigurationError → Prop) :
    Value → ConfigurationError → Prop where
  | object {members : List (String × Value)} {e : ConfigurationError} (h : fault members e) :
      Within fault (.object members) e

@[simp] theorem within_object_iff {fault : List (String × Value) → ConfigurationError → Prop}
    {members : List (String × Value)} {e : ConfigurationError} :
    Within fault (.object members) e ↔ fault members e := by
  constructor
  · rintro ⟨h⟩
    exact h
  · exact .object

/-- A value that is no object. -/
def NotAnObject (v : Value) (e : ConfigurationError) : Prop :=
  (∀ members, v ≠ .object members) ∧ e = .notAnObject v.kind

/-- A key that is that of no option. -/
def UnknownKey (key : String) (e : ConfigurationError) : Prop :=
  (∀ option : ConfigurationOption, option.key ≠ key) ∧ e = .unknownOption key

/-- The first key in order that is that of no option. -/
def UnknownOption (members : List (String × Value)) : ConfigurationError → Prop :=
  Foremost (members.map fun m => UnknownKey m.1)

/-- Plugins that are neither null nor an object. -/
def MisshapenPlugins (members : List (String × Value)) (e : ConfigurationError) : Prop :=
  ∃ value, Keyed.find? ConfigurationOption.plugins.key members = some value ∧ value ≠ .null ∧
    (∀ plugins, value ≠ .object plugins) ∧
    e = .invalidValue "plugins" ("expected an object, got " ++ value.kind.describe)

/-- Absent or null. -/
def Unset (found : Option Value) : Prop := found = none ∨ found = some .null

/-- What the raw check finds in an entry: its shape, its data, and then its rule. -/
inductive EntryFault (name : String) : Value → ConfigurationError → Prop where
  | shape {entry : Value} (hentry : ∀ fields, entry ≠ .object fields) :
      EntryFault name entry
        (.invalidValue ("plugins." ++ name) ("expected an object, got " ++ entry.kind.describe))
  | config {fields : List (String × Value)}
      (hconfig : Unset (Keyed.find? PluginField.config.key fields)) :
      EntryFault name (.object fields) (.missingPluginField name .config)
  | rule {fields : List (String × Value)}
      (hconfig : ¬Unset (Keyed.find? PluginField.config.key fields))
      (hrule : Unset (Keyed.find? PluginField.rule.key fields) ∨
        ∃ source, Keyed.find? PluginField.rule.key fields = some (.string source) ∧
          ∀ ch ∈ source.toList, isBlank ch = true) :
      EntryFault name (.object fields) (.missingPluginField name .rule)

/-- The first entry in order that has a fault. -/
def IncompletePlugin (members : List (String × Value)) (e : ConfigurationError) : Prop :=
  ∃ plugins, Keyed.find? ConfigurationOption.plugins.key members = some (.object plugins) ∧
    Foremost (plugins.map fun p => EntryFault p.1 p.2) e

theorem unknownOption_iff (members : List (String × Value)) (e : ConfigurationError) :
    UnknownOption members e ↔ ∃ key, unknownKey? members = some key ∧ e = .unknownOption key := by
  induction members with
  | nil => simp [UnknownOption, Foremost, unknownKey?]
  | cons m rest ih =>
      obtain ⟨key, value⟩ := m
      have hfirst : unknownKey? ((key, value) :: rest) =
          if (ConfigurationOption.ofKey? key).isNone then some key else unknownKey? rest := by
        rw [unknownKey?, Keyed.keys_cons, List.find?_cons]
        cases ConfigurationOption.ofKey? key <;> rfl
      rw [UnknownOption] at ih ⊢
      rw [List.map_cons, Foremost, ih, hfirst]
      cases hkey : ConfigurationOption.ofKey? key with
      | none =>
          have hunknown := ofKey?_eq_none_iff.1 hkey
          simp [UnknownKey, not_exists.1 hunknown]
      | some option =>
          have hknown := ofKey?_eq_some_iff.1 hkey
          have hnone : ∀ e, ¬UnknownKey key e := fun e h => h.1 option hknown
          simp [hnone]

theorem lacksField_config_iff (fields : List (String × Value)) :
    lacksField fields .config = true ↔ Unset (Keyed.find? PluginField.config.key fields) := by
  unfold lacksField Unset
  cases Keyed.find? PluginField.config.key fields with
  | none => simp
  | some value => cases value <;> simp

theorem lacksField_rule_iff (fields : List (String × Value)) :
    lacksField fields .rule = true ↔
      Unset (Keyed.find? PluginField.rule.key fields) ∨
        ∃ source, Keyed.find? PluginField.rule.key fields = some (.string source) ∧
          ∀ ch ∈ source.toList, isBlank ch = true := by
  unfold lacksField Unset
  cases Keyed.find? PluginField.rule.key fields with
  | none => simp
  | some value => cases value <;> simp [isBlankText]

theorem checkPluginEntry_eq_error_iff (name : String) (entry : Value) (e : ConfigurationError) :
    checkPluginEntry name entry = .error e ↔ EntryFault name entry e := by
  cases entry with
  | object fields =>
      have hconfig := lacksField_config_iff fields
      have hrule := lacksField_rule_iff fields
      rw [checkPluginEntry]
      constructor
      · intro h
        split at h
        · rename_i hlacks
          cases h
          exact .config (hconfig.1 hlacks)
        · rename_i hdata
          rw [hconfig] at hdata
          split at h
          · rename_i hlacks
            cases h
            exact .rule hdata (hrule.1 hlacks)
          · cases h
      · intro h
        cases h with
        | shape hentry => exact absurd rfl (hentry fields)
        | config hunset => simp [hconfig.2 hunset]
        | rule hdata hblank =>
            rw [← hconfig, Bool.not_eq_true] at hdata
            simp [hdata, hrule.2 hblank]
  | _ =>
      simp only [checkPluginEntry, Except.error.injEq]
      constructor
      · rintro rfl
        exact .shape (by simp)
      · rintro ⟨-⟩
        rfl

theorem checkPluginEntries_eq_error_iff (plugins : List (String × Value)) (e : ConfigurationError) :
    checkPluginEntries plugins = .error e ↔
      Foremost (plugins.map fun p => EntryFault p.1 p.2) e := by
  induction plugins with
  | nil => simp [checkPluginEntries, Foremost]
  | cons p rest ih =>
      rw [List.map_cons, foremost_cons_iff (checkPluginEntry_eq_error_iff p.1 p.2), ← ih,
        checkPluginEntries]
      cases checkPluginEntry p.1 p.2 <;> simp

/-- The faults that the raw check looks for. -/
def rawFaults (v : Value) : List (ConfigurationError → Prop) :=
  [NotAnObject v, Within UnknownOption v, Within MisshapenPlugins v, Within IncompletePlugin v]

theorem checkOptions_object_eq_error_iff (members : List (String × Value))
    (e : ConfigurationError) :
    checkOptions (.object members) = .error e ↔
      Foremost [UnknownOption members, MisshapenPlugins members, IncompletePlugin members] e := by
  have hunknown := unknownOption_iff members
  rw [checkOptions]
  cases hkey : unknownKey? members with
  | some key => simp [Foremost, hunknown, hkey, eq_comm]
  | none =>
      cases hfound : Keyed.find? ConfigurationOption.plugins.key members with
      | none => simp [Foremost, hunknown, hkey, MisshapenPlugins, IncompletePlugin, hfound]
      | some value =>
          cases value with
          | object plugins =>
              simp [Foremost, hunknown, hkey, MisshapenPlugins, IncompletePlugin, hfound,
                checkPluginEntries_eq_error_iff]
          | _ =>
              simp [Foremost, hunknown, hkey, MisshapenPlugins, IncompletePlugin, hfound, eq_comm]

theorem checkOptions_of_not_object {v : Value} (h : ∀ members, v ≠ .object members) :
    checkOptions v = .error (.notAnObject v.kind) := by
  cases v with
  | object members => exact absurd rfl (h members)
  | _ => rfl

/-- **What the raw check reports.** -/
theorem checkOptions_eq_error_iff (v : Value) (e : ConfigurationError) :
    checkOptions v = .error e ↔ Foremost (rawFaults v) e := by
  by_cases hobject : ∃ members, v = .object members
  · obtain ⟨members, rfl⟩ := hobject
    rw [checkOptions_object_eq_error_iff]
    simp [rawFaults, Foremost, NotAnObject]
  · have hnone : ∀ members, v ≠ .object members := fun members h => hobject ⟨members, h⟩
    simp [rawFaults, Foremost, NotAnObject, checkOptions_of_not_object hnone, hnone, eq_comm]

/-! ## Decoding behind the raw check -/

/-- An entry whose rule is neither a flag nor a text. -/
def MistypedRule (entry : Value) : Prop :=
  ∃ fields value, entry = .object fields ∧
    Keyed.find? PluginField.rule.key fields = some value ∧
    (∀ on, value ≠ .bool on) ∧ ∀ text, value ≠ .string text

/-- A value of another type than its option has; in the plugins, a rule of another type. -/
inductive WrongType : ConfigurationOption → Value → DecodeError → Prop where
  | flag {value : Value} (hnull : value ≠ .null) (hflag : ∀ on, value ≠ .bool on) :
      WrongType .debug value (.wrongType value .boolean)
  | path {option : ConfigurationOption} (hoption : option = .baseDir ∨ option = .outputPath)
      {value : Value} (hnull : value ≠ .null) (htext : ∀ text, value ≠ .string text) :
      WrongType option value (.wrongType value .path)
  | text {option : ConfigurationOption}
      (hoption : option = .outputFilename ∨ option = .onBeforeInitialize)
      {value : Value} (hnull : value ≠ .null) (htext : ∀ text, value ≠ .string text) :
      WrongType option value (.wrongType value .string)
  | rule {plugins : List (String × Value)} {p : String × Value} (hp : p ∈ plugins)
      (hrule : MistypedRule p.2) : WrongType .plugins (.object plugins) .noRule

theorem map_eq_error_iff {ε α β : Type} {f : α → β} {result : Except ε α} {e : ε} :
    result.map f = .error e ↔ result = .error e := by
  cases result <;> simp [Except.map]

theorem decodeText?_eq_error_iff (wanted : Wanted) (value : Value) (d : DecodeError) :
    decodeText? wanted value = .error d ↔
      value ≠ .null ∧ (∀ text, value ≠ .string text) ∧ d = .wrongType value wanted := by
  cases value <;> simp [decodeText?, eq_comm]

theorem decodeFlag_eq_error_iff (value : Value) (d : DecodeError) :
    decodeFlag value = .error d ↔
      value ≠ .null ∧ (∀ on, value ≠ .bool on) ∧ d = .wrongType value .boolean := by
  cases value <;> simp [decodeFlag, eq_comm]

theorem decodeRule_eq_error_iff (value : Value) (d : DecodeError) :
    decodeRule value = .error d ↔
      d = .noRule ∧ (∀ on, value ≠ .bool on) ∧ ∀ text, value ≠ .string text := by
  cases value <;> simp [decodeRule, eq_comm]

theorem eq_noRule_of_takeEntryMembers {fields : List (String × Value)} {found : PartialEntry}
    {d : DecodeError} (h : takeEntryMembers found fields = .error d) : d = .noRule := by
  induction fields generalizing found with
  | nil => cases h
  | cons field rest ih =>
      obtain ⟨key, value⟩ := field
      rw [takeEntryMembers] at h
      split at h
      · exact ih h
      · split at h
        · split at h
          · rename_i hrule
            cases h
            exact ((decodeRule_eq_error_iff value d).1 hrule).1
          · exact ih h
        · exact ih h

/-- Behind the raw check an entry is refused for the type of its rule only. -/
theorem decodeEntry_eq_error_iff {name : String} {entry : Value} (hkeys : entry.KeysOnce)
    (hchecked : checkPluginEntry name entry = .ok ()) (d : DecodeError) :
    decodeEntry entry = .error d ↔ d = .noRule ∧ MistypedRule entry := by
  obtain ⟨fields, rfl, hconfig, hrule⟩ := (checkPluginEntry_eq_ok_iff name entry).1 hchecked
  obtain ⟨data, hdata, -⟩ := (lacksField_config_eq_false_iff fields).1 hconfig
  obtain ⟨source, hsource, -⟩ := (lacksField_rule_eq_false_iff fields).1 hrule
  -- Both fields are there, so no error says that one is missing.
  have hmembers : ∀ d, decodeEntry (.object fields) = .error d → d = .noRule := by
    intro d h
    rw [decodeEntry] at h
    split at h
    · rename_i htake
      cases h
      exact eq_noRule_of_takeEntryMembers htake
    · rename_i htake
      have hsettled := ((takeEntryMembers_eq_ok_iff hkeys.nodup _ _).1 htake).1
      simp [Settles, hdata] at hsettled
    · rename_i htake
      have hsettled := ((takeEntryMembers_eq_ok_iff hkeys.nodup _ _).1 htake).2
      simp [Settles, hsource, map_eq_ok_iff] at hsettled
    · cases h
  constructor
  · intro h
    refine ⟨hmembers d h, fields, source, rfl, hsource, ?_⟩
    cases hread : decodeRule source with
    | error d' => exact ((decodeRule_eq_error_iff source d').1 hread).2
    | ok rule =>
        have hok := (decodeEntry_object_eq_ok_iff hkeys.nodup ⟨data, rule⟩).2
          ⟨hdata, source, hsource, hread⟩
        rw [hok] at h
        cases h
  · rintro ⟨rfl, _, value, ⟨rfl⟩, hfound, hother⟩
    cases hdecode : decodeEntry (.object fields) with
    | error d => rw [hmembers d hdecode]
    | ok entry =>
        obtain ⟨-, value', hfound', hread⟩ :=
          (decodeEntry_object_eq_ok_iff hkeys.nodup entry).1 hdecode
        rw [hfound] at hfound'
        cases hfound'
        rw [(decodeRule_eq_error_iff value .noRule).2 ⟨rfl, hother⟩] at hread
        cases hread

theorem decodeEntries_eq_error_iff {plugins : List (String × Value)}
    (hkeys : ∀ p ∈ plugins, p.2.KeysOnce) (hchecked : checkPluginEntries plugins = .ok ())
    (d : DecodeError) :
    decodeEntries plugins = .error d ↔ d = .noRule ∧ ∃ p ∈ plugins, MistypedRule p.2 := by
  induction plugins with
  | nil => simp [decodeEntries]
  | cons p rest ih =>
      obtain ⟨hentry, hrest⟩ := List.forall_mem_cons.1 hkeys
      rw [checkPluginEntries] at hchecked
      split at hchecked
      · cases hchecked
      · rename_i hfirst
        have hthis := decodeEntry_eq_error_iff hentry hfirst
        have hthose := ih hrest hchecked
        -- The first entry decides alone if its rule is mistyped, and else leaves it to the others.
        rw [decodeEntries]
        cases hdecode : decodeEntry p.2 with
        | error d' =>
            obtain ⟨rfl, hmistyped⟩ := (hthis d').1 hdecode
            constructor
            · rintro ⟨⟩
              exact ⟨rfl, p, List.mem_cons_self, hmistyped⟩
            · rintro ⟨rfl, -⟩
              rfl
        | ok entry =>
            have htyped : ¬MistypedRule p.2 := by
              intro hmistyped
              rw [(hthis .noRule).2 ⟨rfl, hmistyped⟩] at hdecode
              cases hdecode
            simp only [List.mem_cons, exists_eq_or_imp, htyped, false_or]
            rw [← hthose]
            cases decodeEntries rest <;> simp

theorem decodePlugins_eq_error_iff {value : Value} (hkeys : value.KeysOnce)
    (hchecked : CheckedPlugins (some value)) (d : DecodeError) :
    decodePlugins value = .error d ↔
      d = .noRule ∧ ∃ plugins, value = .object plugins ∧ ∃ p ∈ plugins, MistypedRule p.2 := by
  cases value with
  | null => simp [decodePlugins]
  | object plugins =>
      have hentries := decodeEntries_eq_error_iff (fun _ => hkeys.member) hchecked d
      have hsame : decodePlugins (.object plugins) = .error d ↔
          decodeEntries plugins = .error d := by
        rw [decodePlugins]
        cases decodeEntries plugins <;> simp
      rw [hsame, hentries]
      simp
  | _ => exact hchecked.elim

/-- Behind the raw check an option is refused for its type only. -/
theorem decodeOption_eq_error_iff {option : ConfigurationOption} {value : Value}
    (hkeys : value.KeysOnce) (hchecked : option = .plugins → CheckedPlugins (some value))
    (c : Configuration) (d : DecodeError) :
    decodeOption c option value = .error d ↔ WrongType option value d := by
  cases option with
  | debug =>
      simp only [decodeOption, map_eq_error_iff, decodeFlag_eq_error_iff]
      constructor
      · rintro ⟨hnull, hflag, rfl⟩
        exact .flag hnull hflag
      · rintro (⟨hnull, hflag⟩ | ⟨hoption, -, -⟩ | ⟨hoption, -, -⟩ | _)
        · exact ⟨hnull, hflag, rfl⟩
        · simp at hoption
        · simp at hoption
  | plugins =>
      simp only [decodeOption, map_eq_error_iff, decodePlugins_eq_error_iff hkeys (hchecked rfl)]
      constructor
      · rintro ⟨rfl, plugins, rfl, p, hp, hrule⟩
        exact .rule hp hrule
      · rintro (_ | ⟨hoption, -, -⟩ | ⟨hoption, -, -⟩ | ⟨hp, hrule⟩)
        · simp at hoption
        · simp at hoption
        · exact ⟨rfl, _, rfl, _, hp, hrule⟩
  | baseDir | outputPath =>
      simp only [decodeOption, map_eq_error_iff, decodeText?_eq_error_iff]
      constructor
      · rintro ⟨hnull, htext, rfl⟩
        exact .path (by simp) hnull htext
      · rintro (_ | ⟨-, hnull, htext⟩ | ⟨hoption, -, -⟩ | _)
        · exact ⟨hnull, htext, rfl⟩
        · simp at hoption
  | outputFilename | onBeforeInitialize =>
      simp only [decodeOption, map_eq_error_iff, decodeText?_eq_error_iff]
      constructor
      · rintro ⟨hnull, htext, rfl⟩
        exact .text (by simp) hnull htext
      · rintro (_ | ⟨hoption, -, -⟩ | ⟨-, hnull, htext⟩ | _)
        · simp at hoption
        · exact ⟨hnull, htext, rfl⟩

/-- A member whose option has a value of another type. -/
def MistypedMember (m : String × Value) (d : DecodeError) : Prop :=
  ∃ option : ConfigurationOption, option.key = m.1 ∧ WrongType option m.2 d

/-- A member that the raw check has let pass. -/
structure CheckedMember (m : String × Value) : Prop where
  known : ∃ option : ConfigurationOption, option.key = m.1
  plugins : m.1 = ConfigurationOption.plugins.key → CheckedPlugins (some m.2)
  keys : m.2.KeysOnce

/-- Behind the raw check the first member of a wrong type is reported. -/
theorem takeOptions_eq_error_iff {members : List (String × Value)}
    (hmembers : ∀ m ∈ members, CheckedMember m) (c : Configuration) (d : DecodeError) :
    takeOptions c members = .error d ↔ Foremost (members.map MistypedMember) d := by
  induction members generalizing c with
  | nil => simp [takeOptions, Foremost]
  | cons m rest ih =>
      obtain ⟨hfirst, hrest⟩ := List.forall_mem_cons.1 hmembers
      obtain ⟨option, hoption⟩ := hfirst.known
      have hchecked : option = .plugins → CheckedPlugins (some m.2) := by
        rintro rfl
        exact hfirst.plugins hoption.symm
      have hthis : ∀ d, decodeOption c option m.2 = .error d ↔ MistypedMember m d := by
        intro d
        rw [decodeOption_eq_error_iff hfirst.keys hchecked]
        constructor
        · intro h
          exact ⟨option, hoption, h⟩
        · rintro ⟨other, hother, h⟩
          rwa [key_injective (hoption.trans hother.symm)]
      rw [List.map_cons, foremost_cons_iff hthis, takeOptions, ofKey?_eq_some_iff.2 hoption]
      cases hdecode : decodeOption c option m.2 with
      | error d' => simp [hdecode]
      | ok next => simp [hdecode, ih hrest next]

/-- A value that the raw check has let pass. -/
theorem checked_of_checkOptions {v : Value} (hv : v.KeysOnce) (h : checkOptions v = .ok ()) :
    ∃ members, v = .object members ∧ KnownKeys members ∧
      CheckedPlugins (Keyed.find? ConfigurationOption.plugins.key members) ∧
      ∀ m ∈ members, CheckedMember m := by
  cases v with
  | object members =>
      obtain ⟨hknown, hplugins⟩ := (checkOptions_object_eq_ok_iff members).1 h
      refine ⟨members, rfl, hknown, hplugins, fun m hm => ?_⟩
      exact {
        known := hknown m.1 (List.mem_map.2 ⟨m, hm, rfl⟩)
        -- Each key stands once, so the plugins that were checked are those of this member.
        plugins := fun hkey => by
          have hfound : Keyed.find? m.1 members = some m.2 := Keyed.find?_of_mem hv.nodup hm
          rwa [← hkey, hfound] at hplugins
        keys := hv.member hm }
  | _ => cases h

/-- The first member in order that has a value of a wrong type. -/
def IllTyped (members : List (String × Value)) (e : ConfigurationError) : Prop :=
  ∃ d, Foremost (members.map MistypedMember) d ∧ e = .invalidValue "configuration" d.message

/-- What the last check finds in the configuration that the members say. -/
def Unacceptable (members : List (String × Value)) (e : ConfigurationError) : Prop :=
  ∃ c, HoldsMembers c members ∧ c.check = .error e

/-- **What decoding and the last check report** of a value that the raw check has let pass. -/
theorem fromValue_eq_error_iff_of_checked {v : Value} (hv : v.KeysOnce)
    (h : checkOptions v = .ok ()) (e : ConfigurationError) :
    Configuration.fromValue v = .error e ↔
      Foremost [Within IllTyped v, Within Unacceptable v] e := by
  obtain ⟨members, rfl, hknown, hplugins, hmembers⟩ := checked_of_checkOptions hv h
  have herror := takeOptions_eq_error_iff hmembers .empty
  -- The last check sees what was decoded, which is what the members say.
  have hok : ∀ c, takeOptions .empty members = .ok c ↔ HoldsMembers c members := by
    intro c
    rw [takeOptions_eq_ok_iff hv.nodup, ← holdsMembers_iff hv]
    simp [hknown, hplugins]
  rw [Configuration.fromValue, h]
  simp only [Configuration.decode, Foremost, within_object_iff, IllTyped, Unacceptable, ← herror,
    ← hok]
  cases htake : takeOptions .empty members with
  | error d => simp [eq_comm]
  | ok c =>
      simp only [Except.ok.injEq]
      cases hcheck : c.check with
      | error e' => simp [hcheck]
      | ok _ => simp [hcheck]

/-! ## The order of the passes -/

theorem EntryFault.ne_configuration {name : String} {entry : Value} {e : ConfigurationError}
    (h : EntryFault name entry e) (reason : String) : e ≠ .invalidValue "configuration" reason := by
  cases h with
  | shape hentry =>
      intro he
      have htext := congrArg String.toList (ConfigurationError.invalidValue.inj he).1
      simp [String.toList_append] at htext
  | config hconfig => simp
  | rule hconfig hrule => simp

/-- Only decoding speaks of the configuration as a whole. -/
theorem checkOptions_ne_configuration (v : Value) (reason : String) :
    checkOptions v ≠ .error (.invalidValue "configuration" reason) := by
  intro h
  obtain ⟨fault, hfault, he⟩ := exists_of_foremost ((checkOptions_eq_error_iff v _).1 h)
  simp only [rawFaults, List.mem_cons, List.not_mem_nil, or_false] at hfault
  -- Two kinds have other errors; two name an option, which is `plugins` or begins with it.
  rcases hfault with rfl | rfl | rfl | rfl
  · cases he.2
  · obtain ⟨hunknown⟩ := he
    obtain ⟨m, -, -, he⟩ := exists_of_foremost_map hunknown
    cases he
  · obtain ⟨value, -, -, -, he⟩ := he
    simp at he
  · obtain ⟨plugins, -, hplugins⟩ := he
    obtain ⟨p, -, he⟩ := exists_of_foremost_map hplugins
    exact he.ne_configuration reason rfl

theorem check_ne_invalidValue (c : Configuration) (option reason : String) :
    c.check ≠ .error (.invalidValue option reason) := by
  intro h
  obtain ⟨before, p, after, -, -, hfault⟩ := (c.check_eq_error_iff _).1 h
  cases hfault

/-- The passes one after the other. -/
theorem fromValue_eq_error_iff {v : Value} (hv : v.KeysOnce) (e : ConfigurationError) :
    Configuration.fromValue v = .error e ↔
      Foremost (rawFaults v ++ [Within IllTyped v, Within Unacceptable v]) e := by
  simp only [foremost_append, ← checkOptions_eq_error_iff]
  cases hraw : checkOptions v with
  | error e' => simp [Configuration.fromValue, hraw]
  | ok _ =>
      rw [fromValue_eq_error_iff_of_checked hv hraw]
      simp

/-- The configuration as a whole is called invalid behind the raw check, for a member of a wrong
type, and for nothing else. -/
theorem exists_configuration_error_iff {v : Value} (hv : v.KeysOnce) :
    (∃ reason, Configuration.fromValue v = .error (.invalidValue "configuration" reason)) ↔
      checkOptions v = .ok () ∧
        ∃ members, v = .object members ∧ ∃ m ∈ members, ∃ d, MistypedMember m d := by
  constructor
  · rintro ⟨reason, h⟩
    cases hraw : checkOptions v with
    | error e =>
        have he : e = .invalidValue "configuration" reason := by
          simpa [Configuration.fromValue, hraw] using h
        exact absurd (he ▸ hraw) (checkOptions_ne_configuration v reason)
    | ok _ =>
        obtain ⟨members, rfl, -⟩ := checked_of_checkOptions hv hraw
        refine ⟨rfl, members, rfl, ?_⟩
        rcases (fromValue_eq_error_iff_of_checked hv hraw _).1 h with h | ⟨-, h | ⟨-, ⟨⟩⟩⟩
        · obtain ⟨d, hd, -⟩ := within_object_iff.1 h
          obtain ⟨m, hm, hmistyped⟩ := exists_of_foremost_map hd
          exact ⟨m, hm, d, hmistyped⟩
        · obtain ⟨c, -, hcheck⟩ := within_object_iff.1 h
          exact absurd hcheck (check_ne_invalidValue c "configuration" reason)
  · rintro ⟨hraw, members, rfl, m, hm, d, hd⟩
    -- The one that is reported may be another, which comes before.
    obtain ⟨first, hfirst⟩ := exists_foremost_iff.2
      ⟨MistypedMember m, List.mem_map.2 ⟨m, hm, rfl⟩, d, hd⟩
    exact ⟨first.message, (fromValue_eq_error_iff_of_checked hv hraw _).2
      (.inl (.object ⟨first, hfirst, rfl⟩))⟩

/-- Of all that decoding may report, wrong types of options and rules are left to it. -/
theorem decode_error_of_checked {v : Value} (hv : v.KeysOnce) (hraw : checkOptions v = .ok ())
    {d : DecodeError} (hd : Configuration.decode v = .error d) :
    d = .noRule ∨
      ∃ found wanted, d = .wrongType found wanted ∧ wanted ∈ [.boolean, .path, .string] := by
  obtain ⟨members, rfl, -, -, hmembers⟩ := checked_of_checkOptions hv hraw
  obtain ⟨⟨key, value⟩, -, option, -, htype⟩ :=
    exists_of_foremost_map ((takeOptions_eq_error_iff hmembers .empty d).1 hd)
  cases htype <;> simp

/-- **Which fault of a value is reported.**  The raw check reports a fault of its four kinds, in
their order, whatever else is wrong.  Behind it, and only there, decoding reports the first option
of a wrong type, and it does so if and only if there is one; an unknown or missing field and a wrong
shape are not left for it to find.  The last check comes last. -/
theorem fromValue_refuses_in_order (v : Value) (hv : v.KeysOnce) :
    (∀ e, checkOptions v = .error e ↔ Foremost (rawFaults v) e) ∧
      (∀ e, Configuration.fromValue v = .error e ↔
        Foremost (rawFaults v ++ [Within IllTyped v, Within Unacceptable v]) e) ∧
      ((∃ reason,
          Configuration.fromValue v = .error (.invalidValue "configuration" reason)) ↔
        checkOptions v = .ok () ∧
          ∃ members, v = .object members ∧ ∃ m ∈ members, ∃ d, MistypedMember m d) ∧
      (checkOptions v = .ok () → ∀ d, Configuration.decode v = .error d →
        d = .noRule ∨
          ∃ found wanted, d = .wrongType found wanted ∧ wanted ∈ [.boolean, .path, .string]) :=
  ⟨checkOptions_eq_error_iff v, fromValue_eq_error_iff hv, exists_configuration_error_iff hv,
    fun hraw _ hd => decode_error_of_checked hv hraw hd⟩

/-- A rule that is an array, before a flag that is a text, and plugins one of which has no name:
the rule is reported. -/
theorem mistyped_rule_is_reported_first :
    let plugins := [("ga", Value.object [("rule", .array []), ("config", .bool true)]),
      ("", .object [("config", .string "a"), ("rule", .bool true)])]
    let members := [("plugins", Value.object plugins), ("debug", .string "yes")]
    let v := Value.object members
    v.KeysOnce ∧ checkOptions v = .ok () ∧ Configuration.decode v = .error .noRule ∧
      Foremost (rawFaults v ++ [Within IllTyped v, Within Unacceptable v])
        (.invalidValue "configuration" DecodeError.noRule.message) ∧
      (∃ m ∈ members, ∃ d, MistypedMember m d) ∧
      ∀ d, Configuration.decode v = .error d →
        d = .noRule ∨
          ∃ found wanted, d = .wrongType found wanted ∧ wanted ∈ [.boolean, .path, .string] := by
  intro plugins members v
  have hplugins : (Value.object plugins).KeysOnce := by
    refine .object (by decide) ?_
    simp only [plugins, List.forall_mem_cons, List.not_mem_nil, false_implies, implies_true,
      and_true]
    refine ⟨.object (by decide) ?_, .object (by decide) ?_⟩
    · simpa using ⟨.array (by simp), .bool true⟩
    · simpa using ⟨.string "a", .bool true⟩
  have hv : v.KeysOnce := by
    refine .object (by decide) ?_
    simpa [members] using ⟨hplugins, .string "yes"⟩
  have hraw : checkOptions v = .ok () := rfl
  have hdecode : Configuration.decode v = .error .noRule := rfl
  have hrefused : Configuration.fromValue v =
      .error (.invalidValue "configuration" DecodeError.noRule.message) := rfl
  obtain ⟨-, horder, hwhole, hleft⟩ := fromValue_refuses_in_order v hv
  obtain ⟨-, members', hsame, hmistyped⟩ := hwhole.1 ⟨_, hrefused⟩
  rw [← Value.object.inj hsame] at hmistyped
  exact ⟨hv, hraw, hdecode, (horder _).1 hrefused, hmistyped, hleft hraw⟩

end PluginBundle
