import PluginBundle.Configuration.Decoding
import PluginBundle.Proofs.Json.Keys

/-!
# What decoding settles

Decoding takes the members of an object one after the other, and each known key settles one part of
the result.  If no key occurs twice then the order of the members does not matter: a part is as its
value is read, and stays what it was if there is no such value.

`Settles` says this of one part, and `Configuration.Settled` of every option.  Arrays are not looked
at here, since no array passes the raw check.
-/

namespace PluginBundle

open Json (Value)

/-- A part is as the value that was found for it is read, and unchanged if none was found. -/
def Settles {α : Type} (read : Value → Except DecodeError α) (found : Option Value)
    (before after : α) : Prop :=
  match found with
  | none => after = before
  | some value => read value = .ok after

theorem map_eq_ok_iff {ε α β : Type} {f : α → β} {result : Except ε α} {b : β} :
    result.map f = .ok b ↔ ∃ a, result = .ok a ∧ f a = b := by
  cases result with
  | error e => simp [Except.map]
  | ok a => simp [Except.map]

/-! ## Plugin entries -/

theorem takeEntryMembers_eq_ok_iff {members : List (String × Value)}
    (hkeys : (Keyed.keys members).Nodup) (before after : PartialEntry) :
    takeEntryMembers before members = .ok after ↔
      Settles (fun value => .ok (some value)) (Keyed.find? PluginField.config.key members)
          before.config after.config ∧
        Settles (fun value => (decodeRule value).map some)
          (Keyed.find? PluginField.rule.key members) before.rule after.rule := by
  induction members generalizing before with
  | nil =>
      obtain ⟨config, rule⟩ := before
      obtain ⟨config', rule'⟩ := after
      simp [takeEntryMembers, Settles, Keyed.find?, eq_comm]
  | cons p rest ih =>
      obtain ⟨key, value⟩ := p
      simp only [Keyed.keys_cons, List.nodup_cons] at hkeys
      have hdiffer : PluginField.rule.key ≠ PluginField.config.key := by decide
      by_cases hconfig : key = PluginField.config.key
      · subst hconfig
        have hrest := Keyed.find?_eq_none_iff.2 hkeys.1
        simp [takeEntryMembers, ih hkeys.2, Keyed.find?, hrest, hdiffer.symm, Settles, eq_comm]
      · by_cases hrule : key = PluginField.rule.key
        · subst hrule
          have hrest := Keyed.find?_eq_none_iff.2 hkeys.1
          cases hvalue : decodeRule value with
          | error e => simp [takeEntryMembers, Keyed.find?, hdiffer, hvalue, Settles, Except.map]
          | ok rule =>
              simp [takeEntryMembers, ih hkeys.2, Keyed.find?, hrest, hdiffer, hvalue, Settles,
                Except.map, eq_comm]
        · simp [takeEntryMembers, ih hkeys.2, Keyed.find?, hconfig, hrule]

/-- An object is decoded as an entry if it has both fields and its rule can be read. -/
theorem decodeEntry_object_eq_ok_iff {fields : List (String × Value)}
    (hkeys : (Keyed.keys fields).Nodup) (entry : PluginEntry) :
    decodeEntry (.object fields) = .ok entry ↔
      Keyed.find? PluginField.config.key fields = some entry.config ∧
        ∃ rule, Keyed.find? PluginField.rule.key fields = some rule ∧
          decodeRule rule = .ok entry.rule := by
  have htake := takeEntryMembers_eq_ok_iff hkeys ⟨none, none⟩
  constructor
  · intro h
    rw [decodeEntry] at h
    split at h
    · cases h
    · cases h
    · cases h
    · rename_i config rule hok
      cases h
      obtain ⟨hconfig, hrule⟩ := (htake _).1 hok
      cases hfound : Keyed.find? PluginField.config.key fields with
      | none => simp [Settles, hfound] at hconfig
      | some value =>
          cases hread : Keyed.find? PluginField.rule.key fields with
          | none => simp [Settles, hread] at hrule
          | some source =>
              simp only [Settles, hfound, Except.ok.injEq, Option.some.injEq] at hconfig
              simp only [Settles, hread, map_eq_ok_iff, Option.some.injEq, exists_eq_right] at hrule
              exact ⟨by rw [hconfig], source, rfl, hrule⟩
  · rintro ⟨hconfig, source, hsource, hrule⟩
    have hok : takeEntryMembers ⟨none, none⟩ fields = .ok ⟨some entry.config, some entry.rule⟩ := by
      rw [htake]
      simp [Settles, hconfig, hsource, hrule, Except.map]
    simp [decodeEntry, hok]

/-! ## Options -/

/-- What an option is after decoding, given what it was and the value that was found for it. -/
def Configuration.Settled (before after : Configuration) (found : Option Value) :
    ConfigurationOption → Prop
  | .debug => Settles decodeFlag found before.debug after.debug
  | .baseDir =>
      Settles (fun value => (decodeText? .path value).map (·.map Path.mk)) found
        before.baseDir after.baseDir
  | .outputPath =>
      Settles (fun value => (decodeText? .path value).map (·.map Path.mk)) found
        before.outputPath after.outputPath
  | .outputFilename =>
      Settles (decodeText? .string) found before.outputFilename after.outputFilename
  | .plugins => Settles decodePlugins found before.plugins after.plugins
  | .onBeforeInitialize =>
      Settles (decodeText? .string) found before.onBeforeInitialize after.onBeforeInitialize

/-- Decoding one option settles it and leaves the others to the members that follow. -/
theorem settled_of_decodeOption {c d : Configuration} {option : ConfigurationOption} {value : Value}
    (h : decodeOption c option value = .ok d) (after : Configuration) :
    (c.Settled after (some value) option ↔ d.Settled after none option) ∧
      ∀ other, other ≠ option → ∀ found, c.Settled after found other ↔ d.Settled after found other
    := by
  cases option <;>
    · obtain ⟨x, hx, rfl⟩ := map_eq_ok_iff.1 h
      refine ⟨by simp [Configuration.Settled, Settles, hx, Except.map, eq_comm], ?_⟩
      intro other hother found
      cases other <;> simp_all [Configuration.Settled]

/-- An option whose value cannot be read is not settled. -/
theorem not_settled_of_decodeOption {c : Configuration} {option : ConfigurationOption}
    {value : Value} {e : DecodeError} (h : decodeOption c option value = .error e)
    (after : Configuration) : ¬c.Settled after (some value) option := by
  intro hsettled
  cases option with
  | baseDir | outputPath =>
      obtain ⟨text, htext, -⟩ := map_eq_ok_iff.1 hsettled
      simp [decodeOption, htext, Except.map] at h
  | debug | outputFilename | plugins | onBeforeInitialize =>
      simp only [Configuration.Settled, Settles] at hsettled
      simp [decodeOption, hsettled, Except.map] at h

theorem eq_of_settled_none {before after : Configuration}
    (h : ∀ option, before.Settled after none option) : after = before := by
  obtain ⟨debug, baseDir, outputPath, outputFilename, plugins, hook⟩ := before
  obtain ⟨debug', baseDir', outputPath', outputFilename', plugins', hook'⟩ := after
  simp only [Configuration.mk.injEq]
  exact ⟨h .debug, h .baseDir, h .outputPath, h .outputFilename, h .plugins, h .onBeforeInitialize⟩

theorem key_injective {option other : ConfigurationOption} (h : option.key = other.key) :
    option = other := by
  cases option <;> cases other <;> first | rfl | simp [ConfigurationOption.key] at h

theorem ofKey?_eq_some_iff {key : String} {option : ConfigurationOption} :
    ConfigurationOption.ofKey? key = some option ↔ option.key = key := by
  constructor
  · intro h
    simpa using List.find?_some h
  · rintro rfl
    cases option <;> rfl

theorem ofKey?_eq_none_iff {key : String} :
    ConfigurationOption.ofKey? key = none ↔ ¬∃ option : ConfigurationOption, option.key = key := by
  cases h : ConfigurationOption.ofKey? key with
  | none =>
      simp only [true_iff, not_exists]
      intro option hoption
      simp [ofKey?_eq_some_iff.2 hoption] at h
  | some option =>
      have hkey := ofKey?_eq_some_iff.1 h
      simp only [reduceCtorEq, false_iff, Classical.not_not]
      exact ⟨option, hkey⟩

/-- Every key is that of an option. -/
def KnownKeys (members : List (String × Value)) : Prop :=
  ∀ key ∈ Keyed.keys members, ∃ option : ConfigurationOption, option.key = key

theorem knownKeys_cons_iff (p : String × Value) (rest : List (String × Value)) :
    KnownKeys (p :: rest) ↔
      (∃ option : ConfigurationOption, option.key = p.1) ∧ KnownKeys rest := by
  simp [KnownKeys]

/-- **What taking members settles.**  Every key must be that of an option, and then each option is
settled by the value at its key. -/
theorem takeOptions_eq_ok_iff {members : List (String × Value)}
    (hkeys : (Keyed.keys members).Nodup) (before after : Configuration) :
    takeOptions before members = .ok after ↔
      KnownKeys members ∧
        ∀ option, before.Settled after (Keyed.find? option.key members) option := by
  induction members generalizing before with
  | nil =>
      simp only [takeOptions, Except.ok.injEq, KnownKeys, Keyed.keys_nil, List.not_mem_nil,
        false_implies, implies_true, true_and, Keyed.find?]
      constructor
      · rintro rfl option
        cases option <;> rfl
      · intro h
        exact (eq_of_settled_none h).symm
  | cons p rest ih =>
      obtain ⟨key, value⟩ := p
      simp only [Keyed.keys_cons, List.nodup_cons] at hkeys
      rw [takeOptions, knownKeys_cons_iff]
      cases hoption : ConfigurationOption.ofKey? key with
      | none =>
          have hunknown := ofKey?_eq_none_iff.1 hoption
          simp [hunknown]
      | some option =>
          obtain rfl := ofKey?_eq_some_iff.1 hoption
          cases hdecode : decodeOption before option value with
          | error e =>
              simp only [hdecode, reduceCtorEq, false_iff]
              rintro ⟨-, hsettled⟩
              have hfirst := hsettled option
              simp only [Keyed.find?, if_pos] at hfirst
              exact not_settled_of_decodeOption hdecode after hfirst
          | ok next =>
              obtain ⟨hthis, hothers⟩ := settled_of_decodeOption hdecode after
              have hrest := Keyed.find?_eq_none_iff.2 hkeys.1
              -- The first member settles its option, and the rest settles the others as before.
              have hstep : ∀ other, next.Settled after (Keyed.find? other.key rest) other ↔
                  before.Settled after
                    (Keyed.find? other.key ((option.key, value) :: rest)) other := by
                intro other
                by_cases hother : other = option
                · subst hother
                  simp [Keyed.find?, hrest, hthis]
                · have hkey : option.key ≠ other.key := fun h => hother (key_injective h).symm
                  simp only [Keyed.find?, if_neg hkey]
                  exact (hothers other hother _).symm
              simp only [hdecode]
              rw [ih hkeys.2]
              simp only [hstep]
              exact and_congr_left fun _ => ⟨fun h => ⟨⟨option, rfl⟩, h⟩, And.right⟩

end PluginBundle
