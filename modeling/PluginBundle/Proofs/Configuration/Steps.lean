import Mathlib.Data.List.Induction
import PluginBundle.Proofs.Configuration.Serialization

/-!
# What a sequence of steps leaves

Steps are taken one after the other, and each overwrites what an earlier one has set.  `LeftBy` says
what is left without taking them: every option is as its last step says, and a plugin stands where
its name was registered first, with the entry that was registered last.

1. A step carries `LeftBy` on, and so all steps lead to it.
2. No other configuration is described by `LeftBy`, since the names and the entries that are found
   under them determine a table.
3. So steps for different options may be taken in any order, and an entry that is registered again
   later may have been anything.

What is accepted is the configuration that is left, and nothing is said about the ones before it.
-/

namespace PluginBundle

namespace Keyed

variable {α : Type}

theorem keys_append (front rest : List (String × α)) :
    keys (front ++ rest) = keys front ++ keys rest := by
  simp [keys]

theorem find?_append (key : String) (front rest : List (String × α)) :
    find? key (front ++ rest) = (find? key front).or (find? key rest) := by
  induction front with
  | nil => rfl
  | cons p front ih =>
      by_cases hp : p.1 = key
      · simp [find?, hp]
      · simp [find?, hp, ih]

/-- Keys that are distinct and the values under them determine the list. -/
theorem eq_of_find?_eq {entries others : List (String × α)} (hkeys : keys entries = keys others)
    (hdistinct : (keys entries).Nodup)
    (hfind : ∀ key, find? key entries = find? key others) : entries = others := by
  induction entries generalizing others with
  | nil =>
      cases others with
      | nil => rfl
      | cons q others => cases hkeys
  | cons p entries ih =>
      obtain ⟨key, value⟩ := p
      cases others with
      | nil => cases hkeys
      | cons q others =>
          obtain ⟨key', value'⟩ := q
          simp only [keys_cons, List.cons.injEq] at hkeys
          obtain ⟨rfl, hkeys⟩ := hkeys
          have hfirst := hfind key
          simp only [find?, if_true, Option.some.injEq] at hfirst
          obtain ⟨hnew, hdistinct⟩ := List.nodup_cons.1 hdistinct
          have hothers : ∀ other, find? other entries = find? other others := by
            intro other
            by_cases hother : key = other
            · subst hother
              rw [find?_eq_none_iff.2 hnew, find?_eq_none_iff.2 (hkeys ▸ hnew)]
            · simpa [find?, hother] using hfind other
          rw [hfirst, ih hkeys hdistinct hothers]

end Keyed

/-- Every registered name has its place from when it came first, and its entry from when it came
last. -/
structure PluginTable.Keeps (t : PluginTable) (registered : List (String × PluginEntry)) :
    Prop where
  names : t.names = (Keyed.keys registered).eraseDups
  entries : ∀ name, Keyed.find? name t.entries = Keyed.find? name registered.reverse

namespace PluginTable

theorem keeps_nil : PluginTable.empty.Keeps [] := ⟨rfl, fun _ => rfl⟩

theorem Keeps.insert {t : PluginTable} {registered : List (String × PluginEntry)}
    (h : t.Keeps registered) (name : String) (entry : PluginEntry) :
    (t.insert name entry).Keeps (registered ++ [(name, entry)]) where
  names := by
    have hinsert : (t.insert name entry).names =
        if name ∈ t.names then t.names else t.names ++ [name] := Keyed.keys_set name entry t.entries
    rw [hinsert, h.names, Keyed.keys_append, List.eraseDups_append]
    by_cases hname : name ∈ Keyed.keys registered
    · simp [hname, List.removeAll]
    · simp [hname, List.removeAll, List.eraseDups_cons]
  entries other := by
    have hinsert : Keyed.find? other (t.insert name entry).entries =
        if name = other then some entry else Keyed.find? other t.entries :=
      Keyed.find?_set name other entry t.entries
    rw [hinsert, h.entries, List.reverse_concat]
    rfl

theorem Keeps.unique {s t : PluginTable} {registered : List (String × PluginEntry)}
    (hs : s.Keeps registered) (ht : t.Keeps registered) : s = t := by
  refine PluginTable.ext (Keyed.eq_of_find?_eq (hs.names.trans ht.names.symm) s.distinct ?_)
  intro name
  rw [hs.entries, ht.entries]

/-- An entry that is registered again later may have been anything. -/
theorem Keeps.overwritten {t : PluginTable} {front rest : List (String × PluginEntry)}
    {name : String} {entry : PluginEntry} (h : t.Keeps (front ++ (name, entry) :: rest))
    (hagain : name ∈ Keyed.keys rest) (other : PluginEntry) :
    t.Keeps (front ++ (name, other) :: rest) where
  names := by
    rw [h.names, Keyed.keys_append, Keyed.keys_append]
    rfl
  entries key := by
    have hlast : ∀ e, Keyed.find? key (front ++ (name, e) :: rest).reverse =
        (Keyed.find? key rest.reverse).or
          ((if name = key then some e else none).or (Keyed.find? key front.reverse)) := by
      intro e
      rw [List.reverse_append, List.reverse_cons, List.append_assoc, Keyed.find?_append,
        Keyed.find?_append]
      rfl
    rw [h.entries, hlast, hlast]
    -- From the end, the name comes up among the later registrations before it comes up here.
    by_cases hkey : name = key
    · subst hkey
      have hfound : Keyed.find? name rest.reverse ≠ none := by
        rw [Ne, Keyed.find?_eq_none_iff]
        simpa [Keyed.keys] using hagain
      obtain ⟨e, he⟩ := Option.ne_none_iff_exists'.1 hfound
      simp [he]
    · simp [hkey]

end PluginTable

namespace ConfigurationStep

/-- The option that a step is for. -/
def option : ConfigurationStep → ConfigurationOption
  | .debug _ => .debug
  | .baseDir _ => .baseDir
  | .outputPath _ => .outputPath
  | .outputFilename _ => .outputFilename
  | .plugin _ _ _ => .plugins
  | .onBeforeInitialize _ => .onBeforeInitialize

/-! What a step sets an option to, if it is for that option. -/

def debug? : ConfigurationStep → Option Bool
  | .debug on => some on
  | _ => none

def baseDir? : ConfigurationStep → Option Path
  | .baseDir dir => some dir
  | _ => none

def outputPath? : ConfigurationStep → Option Path
  | .outputPath dir => some dir
  | _ => none

def outputFilename? : ConfigurationStep → Option String
  | .outputFilename name => some name
  | _ => none

def onBeforeInitialize? : ConfigurationStep → Option String
  | .onBeforeInitialize hook => some hook
  | _ => none

/-- The plugin that a step registers. -/
def registration? : ConfigurationStep → Option (String × PluginEntry)
  | .plugin name config rule => some (name, ⟨config, rule⟩)
  | _ => none

end ConfigurationStep

/-- The last step for an option. -/
def lastStep? (option : ConfigurationOption) (steps : List ConfigurationStep) :
    Option ConfigurationStep :=
  (steps.filter (·.option == option)).getLast?

/-- The plugins that are registered, one after the other. -/
def registrations (steps : List ConfigurationStep) : List (String × PluginEntry) :=
  steps.filterMap ConfigurationStep.registration?

theorem lastStep?_concat (option : ConfigurationOption) (steps : List ConfigurationStep)
    (step : ConfigurationStep) :
    lastStep? option (steps ++ [step]) =
      if step.option = option then some step else lastStep? option steps := by
  by_cases h : step.option = option <;> simp [lastStep?, h]

theorem registrations_concat (steps : List ConfigurationStep) (step : ConfigurationStep) :
    registrations (steps ++ [step]) = registrations steps ++ step.registration?.toList := by
  cases h : step.registration? <;> simp [registrations, h]

/-- The steps for each option are the same in both lists, and in the same order. -/
def SameOrder (other steps : List ConfigurationStep) : Prop :=
  ∀ option : ConfigurationOption,
    other.filter (·.option == option) = steps.filter (·.option == option)

theorem SameOrder.lastStep?_eq {other steps : List ConfigurationStep} (h : SameOrder other steps)
    (option : ConfigurationOption) : lastStep? option other = lastStep? option steps := by
  rw [lastStep?, h option, lastStep?]

theorem registrations_filter (steps : List ConfigurationStep) :
    registrations (steps.filter (·.option == .plugins)) = registrations steps := by
  induction steps with
  | nil => rfl
  | cons step rest ih =>
      cases step with
      | plugin name config rule => exact congrArg ((name, ⟨config, rule⟩) :: ·) ih
      | _ => exact ih

theorem SameOrder.registrations_eq {other steps : List ConfigurationStep}
    (h : SameOrder other steps) : registrations other = registrations steps := by
  rw [← registrations_filter other, h .plugins, registrations_filter]

namespace Configuration

/-- What steps leave, without taking them. -/
structure LeftBy (steps : List ConfigurationStep) (c : Configuration) : Prop where
  debug : c.debug = ((lastStep? .debug steps).bind ConfigurationStep.debug?).getD false
  baseDir : c.baseDir = (lastStep? .baseDir steps).bind ConfigurationStep.baseDir?
  outputPath : c.outputPath = (lastStep? .outputPath steps).bind ConfigurationStep.outputPath?
  outputFilename :
    c.outputFilename = (lastStep? .outputFilename steps).bind ConfigurationStep.outputFilename?
  onBeforeInitialize :
    c.onBeforeInitialize =
      (lastStep? .onBeforeInitialize steps).bind ConfigurationStep.onBeforeInitialize?
  plugins : c.plugins.Keeps (registrations steps)

theorem leftBy_empty : empty.LeftBy [] := ⟨rfl, rfl, rfl, rfl, rfl, PluginTable.keeps_nil⟩

/-- **One step.**  It is the last one for its option, and the others are as they were. -/
theorem LeftBy.apply {steps : List ConfigurationStep} {c : Configuration} (h : c.LeftBy steps)
    (step : ConfigurationStep) : (step.apply c).LeftBy (steps ++ [step]) := by
  obtain ⟨hdebug, hbase, hpath, hfilename, hhook, hplugins⟩ := h
  -- For each option, five kinds of step leave its last step as it was and one is the new last step.
  constructor <;> simp only [lastStep?_concat, registrations_concat]
  · cases step <;> first | exact hdebug | rfl
  · cases step <;> first | exact hbase | rfl
  · cases step <;> first | exact hpath | rfl
  · cases step <;> first | exact hfilename | rfl
  · cases step <;> first | exact hhook | rfl
  · cases step with
    | plugin name config rule => exact hplugins.insert name ⟨config, rule⟩
    | _ => simpa [ConfigurationStep.registration?, ConfigurationStep.apply] using hplugins

/-- **All steps**, by induction from their end. -/
theorem leftBy_ofSteps (steps : List ConfigurationStep) : (ofSteps steps).LeftBy steps := by
  induction steps using List.reverseRecOn with
  | nil => exact leftBy_empty
  | append_singleton steps step ih =>
      have hlast : ofSteps (steps ++ [step]) = step.apply (ofSteps steps) := by
        simp [ofSteps]
      rw [hlast]
      exact ih.apply step

theorem LeftBy.unique {steps : List ConfigurationStep} {c d : Configuration}
    (hc : c.LeftBy steps) (hd : d.LeftBy steps) : c = d := by
  have hplugins := hc.plugins.unique hd.plugins
  obtain ⟨debug, baseDir, outputPath, outputFilename, plugins, hook⟩ := c
  obtain ⟨debug', baseDir', outputPath', outputFilename', plugins', hook'⟩ := d
  cases hc.debug.trans hd.debug.symm
  cases hc.baseDir.trans hd.baseDir.symm
  cases hc.outputPath.trans hd.outputPath.symm
  cases hc.outputFilename.trans hd.outputFilename.symm
  cases hc.onBeforeInitialize.trans hd.onBeforeInitialize.symm
  cases hplugins
  rfl

theorem leftBy_iff {steps : List ConfigurationStep} {c : Configuration} :
    c.LeftBy steps ↔ c = ofSteps steps := by
  constructor
  · intro h
    exact h.unique (leftBy_ofSteps steps)
  · rintro rfl
    exact leftBy_ofSteps steps

theorem LeftBy.reordered {steps other : List ConfigurationStep} {c : Configuration}
    (h : c.LeftBy steps) (hother : SameOrder other steps) : c.LeftBy other := by
  obtain ⟨hdebug, hbase, hpath, hfilename, hhook, hplugins⟩ := h
  constructor <;> simpa only [hother.lastStep?_eq, hother.registrations_eq]

theorem LeftBy.overwritten {front rest : List ConfigurationStep} {name : String}
    {config : Json.Value} {rule : Rule} {c : Configuration}
    (h : c.LeftBy (front ++ .plugin name config rule :: rest))
    (hagain : name ∈ Keyed.keys (registrations rest)) (config' : Json.Value) (rule' : Rule) :
    c.LeftBy (front ++ .plugin name config' rule' :: rest) := by
  have hlast : ∀ option, option ≠ .plugins → ∀ config rule,
      lastStep? option (front ++ .plugin name config rule :: rest) =
        lastStep? option (front ++ rest) := by
    intro option hoption config rule
    have hskip : (ConfigurationStep.plugin name config rule).option ≠ option := Ne.symm hoption
    simp [lastStep?, hskip]
  have hregistered : ∀ config rule,
      registrations (front ++ .plugin name config rule :: rest) =
        registrations front ++ (name, ⟨config, rule⟩) :: registrations rest := by
    intro config rule
    simp [registrations, ConfigurationStep.registration?]
  obtain ⟨hdebug, hbase, hpath, hfilename, hhook, hplugins⟩ := h
  rw [hlast _ (by decide)] at hdebug hbase hpath hfilename hhook
  rw [hregistered] at hplugins
  constructor
  · rwa [hlast _ (by decide)]
  · rwa [hlast _ (by decide)]
  · rwa [hlast _ (by decide)]
  · rwa [hlast _ (by decide)]
  · rwa [hlast _ (by decide)]
  · rw [hregistered]
    exact hplugins.overwritten hagain ⟨config', rule'⟩

theorem build_congr {steps other : List ConfigurationStep} (h : ofSteps other = ofSteps steps) :
    build other = build steps := by
  simp only [build, h]

/-- **The last step for an option counts, and nothing else.**  Of the steps, `ofSteps` leaves the
one configuration that `LeftBy` describes, and `build` gives it if it is accepted.  So steps for
different options may change places, and of a plugin that is registered again neither the data nor
the rule matters, not even one that would be refused. -/
theorem ofSteps_keeps_last_settings (steps : List ConfigurationStep) :
    (∀ c, c.LeftBy steps ↔ c = ofSteps steps) ∧
      (∀ d, build steps = .ok d ↔ (ofSteps steps).check = .ok () ∧ d = ofSteps steps) ∧
      (∀ other, SameOrder other steps →
        ofSteps other = ofSteps steps ∧ build other = build steps) ∧
      ∀ front name config rule rest, steps = front ++ .plugin name config rule :: rest →
        name ∈ Keyed.keys (registrations rest) → ∀ config' rule',
          ofSteps (front ++ .plugin name config' rule' :: rest) = ofSteps steps ∧
            build (front ++ .plugin name config' rule' :: rest) = build steps := by
  refine ⟨fun c => leftBy_iff, build_eq_ok_iff steps, ?_, ?_⟩
  · intro other hother
    have hsame : ofSteps other = ofSteps steps :=
      (leftBy_iff.1 ((leftBy_ofSteps steps).reordered hother)).symm
    exact ⟨hsame, build_congr hsame⟩
  · rintro front name config rule rest rfl hagain config' rule'
    have hleft := leftBy_ofSteps (front ++ .plugin name config rule :: rest)
    have hsame := (leftBy_iff.1 (hleft.overwritten hagain config' rule')).symm
    exact ⟨hsame, build_congr hsame⟩

/-- A plugin that stands first with a blank rule is registered once more behind another one, and the
steps for `debug` go elsewhere. -/
theorem blank_rule_registered_again :
    let first := ConfigurationStep.plugin "ga" .null (.expression " ")
    let later := [ConfigurationStep.debug true, .plugin "matomo" .null (.flag false),
      .debug false, .plugin "ga" (.bool true) (.flag true)]
    let other := [first, .plugin "matomo" .null (.flag false),
      .plugin "ga" (.bool true) (.flag true), .debug true, .debug false]
    ∃ d, build (first :: later) = .ok d ∧ d.debug = false ∧ d.plugins.names = ["ga", "matomo"] ∧
      build other = .ok d ∧ build (.plugin "ga" (.bool false) (.flag false) :: later) = .ok d := by
  intro first later other
  obtain ⟨hleft, hbuild, hreorder, hagain⟩ := ofSteps_keeps_last_settings (first :: later)
  have hd := (hleft _).2 rfl
  have hsame : SameOrder other (first :: later) := by
    intro option
    cases option <;> rfl
  have haccepted : (ofSteps (first :: later)).check = .ok () := by
    rw [check_eq_ok_iff]
    exact ⟨by decide, by decide, by decide +kernel, by decide +kernel⟩
  have hbuilt := (hbuild _).2 ⟨haccepted, rfl⟩
  refine ⟨ofSteps (first :: later), hbuilt, hd.debug, hd.plugins.names, ?_, ?_⟩
  · rw [(hreorder other hsame).2, hbuilt]
  · have hoverwritten := hagain [] "ga" .null (.expression " ") later rfl (by decide)
    rw [← hbuilt]
    exact (hoverwritten (.bool false) (.flag false)).2

end Configuration

end PluginBundle
