import PluginBundle.Build.Session
import PluginBundle.Proofs.Build.Course

/-!
# What a build does to its files and its bundler

In given circumstances a build either does nothing, because its configuration is refused, or it
goes through a fixed sequence of writes, one call of the bundler and a removal, and stops at the
first of them that fails.  The removal is the exception: it may fail and the build still succeeds.

`trace` and `ending` say this in terms of the circumstances only, without reference to how a build
is run.  `build_effects_and_outcome` proves that a build does the one and returns the other,
whatever the builder kept before.
-/

namespace PluginBundle

/-- A build is refused: its configuration is not accepted, or the one it works with names no
bundle. -/
def Refused (given : Option Configuration) (active : Configuration) : Prop :=
  (∃ c, given = some c ∧ c.check ≠ .ok ()) ∨
    ¬∃ name, active.outputFilename = some name ∧ name ≠ ""

/-- The stage that a builder is left in. -/
def BuildOutcome.stage : BuildOutcome → BuildStage
  | .built _ => .done
  | .failed _ => .failed
  | .unending => .bundling

namespace Circumstances

/-- What the bundler comes to within a limit: a bundle or an error, or nothing if the wait has no
end. -/
def answer (c : Circumstances) (limit : Option Duration) :
    Option (Except BundlerError ByteArray) :=
  match c.reply.within limit with
  | .unending => none
  | .timedOut limit => some (.error (.timeout limit))
  | .answered outcome => some outcome

/-- The effects of a build that is not refused, in order. -/
def trace (c : Circumstances) (limit : Option Duration) (paths : BuildPaths) (script : ByteArray)
    (debug : Bool) : List Effect :=
  .write paths.temp script (!c.refusesWrite paths.temp) ::
    if c.refusesWrite paths.temp then []
    else
      .bundle paths.temp (some standaloneName) ::
        match c.answer limit with
        | some (.ok contents) =>
            .write paths.target contents (!c.refusesWrite paths.target) ::
              if c.refusesWrite paths.target || debug then []
              else [.remove paths.temp (!c.refusesRemove paths.temp)]
        | _ => []

/-- What such a build returns. -/
def ending (c : Circumstances) (limit : Option Duration) (paths : BuildPaths) (debug : Bool) :
    BuildOutcome :=
  if c.refusesWrite paths.temp then
    .failed (.filesystem .writingTemp paths.temp (.denied "read-only"))
  else
    match c.answer limit with
    | none => .unending
    | some (.error e) => .failed (.bundler e)
    | some (.ok contents) =>
        if c.refusesWrite paths.target then
          .failed (.filesystem .writingFinal paths.target (.denied "read-only"))
        else
          .built ⟨paths.target, paths.temp, debug || c.refusesRemove paths.temp, contents,
            Sha256.hex contents⟩

/-! ## The answers of the recording host -/

variable {c : Circumstances} {p : Path} {contents : ByteArray} {done done' : List Effect}

theorem host_write_ok (h : c.host.write p contents done = (.ok (), done')) :
    c.refusesWrite p = false ∧ done' = done ++ [.write p contents true] := by
  cases hrefuses : c.refusesWrite p <;> simp_all [host]

theorem host_write_error {e : IoError} (h : c.host.write p contents done = (.error e, done')) :
    c.refusesWrite p = true ∧ e = .denied "read-only" ∧
      done' = done ++ [.write p contents false] := by
  cases hrefuses : c.refusesWrite p <;> simp_all [host]

theorem host_remove_ok (h : c.host.remove p done = (.ok (), done')) :
    c.refusesRemove p = false ∧ done' = done ++ [.remove p true] := by
  cases hrefuses : c.refusesRemove p <;> simp_all [host]

theorem host_remove_error {e : IoError} (h : c.host.remove p done = (.error e, done')) :
    c.refusesRemove p = true ∧ e = .denied "busy" ∧ done' = done ++ [.remove p false] := by
  cases hrefuses : c.refusesRemove p <;> simp_all [host]

/-- The recorded bundler reports nothing, and waiting for it comes to its answer. -/
theorem verdict_silent (c : Circumstances) (limit : Option Duration) :
    Builder.verdict (c.reply.silent.within limit) = (c.answer limit, []) := by
  unfold answer
  cases c.reply with
  | now outcome => rfl
  | later delay outcome =>
      cases limit with
      | none => rfl
      | some limit =>
          simp only [Reply.silent, Reply.within]
          split <;> rfl
  | never => cases limit <;> rfl

/-- What a called bundler comes to, and the effects until then. -/
theorem called_host {c : Circumstances} {b : Builder} {given : Option Configuration}
    {paths : BuildPaths} {result : Option (Except BundlerError ByteArray)}
    {told : List LogRecord} {done : List Effect}
    (h : Builder.Called c.host b given paths [] result told done) :
    c.refusesWrite paths.temp = false ∧ result = c.answer b.timeout ∧ told = [] ∧
      done = [.write paths.temp (b.entryScript given) true,
        .bundle paths.temp (some standaloneName)] := by
  obtain ⟨v, call, hwrite, hbundle, hresult, htold⟩ := h
  obtain ⟨hrefuses, hv⟩ := host_write_ok hwrite
  simp only [host, Prod.mk.injEq] at hbundle
  obtain ⟨hcall, hdone⟩ := hbundle
  rw [← hcall, verdict_silent] at hresult
  rw [← hcall, verdict_silent] at htold
  exact ⟨hrefuses, hresult, by simpa using htold, by simp [← hdone, hv]⟩

end Circumstances

namespace Builder

variable {cwd : Path} {b : Builder} {given : Option Configuration} {paths : BuildPaths}

theorem Prepared.unique {paths' : BuildPaths} (h : Prepared cwd b given paths)
    (h' : Prepared cwd b given paths') : paths' = paths := by
  have hresolved := h.resolved.symm.trans h'.resolved
  simpa using hresolved.symm

/-- The effects and the result of a build whose paths are known. -/
theorem effects_of_prepared {c : Circumstances} {outcome : BuildOutcome}
    {run : BuildRun (List Effect)} (hprepared : Prepared cwd b given paths)
    (hcourse : Course c.host cwd b given [] outcome run) :
    run.world = c.trace b.timeout paths (b.entryScript given) (b.active given).debug ∧
      outcome = c.ending b.timeout paths (b.active given).debug := by
  unfold Circumstances.trace Circumstances.ending
  cases hcourse with
  | refused rejected e hgiven hcheck =>
      have haccepted := hprepared.accepted rejected hgiven
      simp [haccepted] at hcheck
  | unnamed e haccepted hresolve =>
      have hresolved := hprepared.resolved
      simp [hresolved] at hresolve
  | scriptUnwritten found e w' hfound hwrite =>
      obtain rfl := hprepared.unique hfound
      obtain ⟨hrefuses, he, hdone⟩ := Circumstances.host_write_error hwrite
      simp [hrefuses, he, hdone]
  | unanswered found told w' hfound hcalled =>
      obtain rfl := hprepared.unique hfound
      obtain ⟨hrefuses, hanswer, -, hdone⟩ := Circumstances.called_host hcalled
      simp [hrefuses, ← hanswer, hdone]
  | unbundled found e told w' hfound hcalled =>
      obtain rfl := hprepared.unique hfound
      obtain ⟨hrefuses, hanswer, -, hdone⟩ := Circumstances.called_host hcalled
      simp [hrefuses, ← hanswer, hdone]
  | bundleUnwritten found contents told e w' w'' hfound hcalled hwrite =>
      obtain rfl := hprepared.unique hfound
      obtain ⟨hrefuses, hanswer, -, hdone⟩ := Circumstances.called_host hcalled
      obtain ⟨htarget, he, hdone'⟩ := Circumstances.host_write_error hwrite
      simp [hrefuses, ← hanswer, htarget, he, hdone', hdone]
  | finished found contents told left w' w'' w''' hfound hcalled hwrite hcleaned =>
      obtain rfl := hprepared.unique hfound
      obtain ⟨hrefuses, hanswer, -, hdone⟩ := Circumstances.called_host hcalled
      obtain ⟨htarget, hdone'⟩ := Circumstances.host_write_ok hwrite
      unfold Cleaned at hcleaned
      cases hdebug : (b.active given).debug with
      | true =>
          simp only [hdebug, if_true] at hcleaned
          obtain ⟨rfl, rfl⟩ := hcleaned
          simp [hrefuses, ← hanswer, htarget, hdone', hdone]
      | false =>
          cases left with
          | none =>
              obtain ⟨hremove, hdone''⟩ :=
                Circumstances.host_remove_ok (by simpa [hdebug] using hcleaned)
              simp [hrefuses, ← hanswer, htarget, hremove, hdone'', hdone', hdone]
          | some e =>
              obtain ⟨hremove, -, hdone''⟩ :=
                Circumstances.host_remove_error (by simpa [hdebug] using hcleaned)
              simp [hrefuses, ← hanswer, htarget, hremove, hdone'', hdone', hdone]

/-- A builder is left in the stage that the result tells. -/
theorem stage_of_course {σ : Type} {host : BuildHost σ} {w : σ} {outcome : BuildOutcome}
    {run : BuildRun σ} (hcourse : Course host cwd b given w outcome run) :
    run.builder.stage = outcome.stage := by
  cases hcourse <;> rfl

end Builder

/-! ## When a build is refused -/

theorem Refused.not_prepared {cwd : Path} {b : Builder} {given : Option Configuration}
    (h : Refused given (b.active given)) (paths : BuildPaths) :
    ¬Builder.Prepared cwd b given paths := by
  intro hprepared
  cases h with
  | inl hrejected =>
      obtain ⟨c, hgiven, hcheck⟩ := hrejected
      exact hcheck (hprepared.accepted c hgiven)
  | inr hunnamed =>
      have hresolved := hprepared.resolved
      unfold BuildPaths.resolve at hresolved
      split at hresolved
      · cases hresolved
      · rename_i name hname
        split at hresolved
        · cases hresolved
        · rename_i hempty
          exact hunnamed ⟨name, hname, by simpa using hempty⟩

theorem exists_prepared (cwd : Path) (b : Builder) {given : Option Configuration}
    (h : ¬Refused given (b.active given)) :
    ∃ paths, Builder.Prepared cwd b given paths := by
  simp only [Refused, not_or, Classical.not_not] at h
  obtain ⟨haccepted, name, hname, hne⟩ := h
  refine ⟨.below (BuildPaths.baseOf cwd (b.active given)) (b.active given).outputPath name, ?_, ?_⟩
  · intro c hgiven
    exact Classical.byContradiction fun hcheck => haccepted ⟨c, hgiven, hcheck⟩
  · simp [BuildPaths.resolve, hname, hne]

/-- The temporary file has the name of the target, with the suffix behind it. -/
theorem temp_eq_withSuffix {cwd : Path} {c : Configuration} {paths : BuildPaths}
    (h : BuildPaths.resolve cwd c = .ok paths) :
    paths.temp = paths.target.withSuffix tempSuffix := by
  unfold BuildPaths.resolve at h
  split at h
  · cases h
  · split at h
    · cases h
    · cases h
      rfl

/-- The temporary file is not the target. -/
theorem temp_ne_target {cwd : Path} {c : Configuration} {paths : BuildPaths}
    (h : BuildPaths.resolve cwd c = .ok paths) : paths.temp ≠ paths.target := by
  rw [temp_eq_withSuffix h]
  intro hsame
  have hlength := congrArg (fun p : Path => p.text.length) hsame
  simp [Path.withSuffix, tempSuffix] at hlength

namespace Circumstances

variable {c : Circumstances} {limit : Option Duration} {paths : BuildPaths} {debug : Bool}

/-- The bundle that a build returns is the one that it wrote, and it returns one whenever it wrote
one. -/
theorem ending_eq_built_iff (hpaths : paths.temp ≠ paths.target) (script contents : ByteArray) :
    (∃ a, c.ending limit paths debug = .built a ∧ a.contents = contents) ↔
      Effect.write paths.target contents true ∈ c.trace limit paths script debug := by
  unfold ending trace
  cases hrefuses : c.refusesWrite paths.temp with
  | true => simp [hpaths.symm]
  | false =>
      cases hanswer : c.answer limit with
      | none => simp [hpaths.symm]
      | some result =>
          cases result with
          | error e => simp [hpaths.symm]
          | ok bundle =>
              cases htarget : c.refusesWrite paths.target with
              | true => simp [hpaths.symm]
              | false => cases debug <;> simp [hpaths.symm, eq_comm]

theorem ending_not_configuration {e : BuildError} (h : c.ending limit paths debug = .failed e) :
    e.isConfiguration = false := by
  unfold ending at h
  split at h
  · cases h
    rfl
  · split at h
    · cases h
    · cases h
      rfl
    · split at h
      · cases h
        rfl
      · cases h

theorem ending_built {a : Artifact} (h : c.ending limit paths debug = .built a) :
    a.target = paths.target ∧ a.temp = paths.temp ∧
      a.tempRetained = (debug || c.refusesRemove paths.temp) ∧
      a.checksum = Sha256.hex a.contents := by
  unfold ending at h
  split at h
  · cases h
  · split at h
    · cases h
    · cases h
    · split at h
      · cases h
      · cases h
        exact ⟨rfl, rfl, rfl, rfl⟩

end Circumstances

/-! ## The law of a build -/

/-- A refused build has no effect and fails for its configuration. -/
theorem effects_of_refused {cwd : Path} {b : Builder} {given : Option Configuration}
    {c : Circumstances} {outcome : BuildOutcome} {run : BuildRun (List Effect)}
    (hrefused : Refused given (b.active given))
    (hcourse : Builder.Course c.host cwd b given [] outcome run) :
    run.world = [] ∧ ∃ e, outcome = .failed (.configuration e) := by
  cases hcourse with
  | refused rejected e _ _ => exact ⟨rfl, e, rfl⟩
  | unnamed e _ _ => exact ⟨rfl, e, rfl⟩
  | scriptUnwritten paths _ _ hprepared _ => exact absurd hprepared (hrefused.not_prepared paths)
  | unanswered paths _ _ hprepared _ => exact absurd hprepared (hrefused.not_prepared paths)
  | unbundled paths _ _ _ hprepared _ => exact absurd hprepared (hrefused.not_prepared paths)
  | bundleUnwritten paths _ _ _ _ _ hprepared _ _ =>
      exact absurd hprepared (hrefused.not_prepared paths)
  | finished paths _ _ _ _ _ _ hprepared _ _ _ =>
      exact absurd hprepared (hrefused.not_prepared paths)

/-- **Effects and outcome of a build.**  A build that is refused has no effect, and only such a
build fails for its configuration.  Any other build has the effects of `Circumstances.trace` and the
outcome of `Circumstances.ending`: it succeeds exactly if it wrote the bundle, whatever became of
the temporary file, and it says of that file what became of it. -/
theorem build_effects_and_outcome (cwd : Path) (b : Builder) (given : Option Configuration)
    (c : Circumstances) :
    let active := given.getD b.configuration
    let outcome := (b.build c.host cwd given []).1
    let run := (b.build c.host cwd given []).2
    ((∃ e, outcome = .failed e ∧ e.isConfiguration = true) ↔ Refused given active) ∧
      (Refused given active → run.world = []) ∧
      (¬Refused given active → ∃ paths, BuildPaths.resolve cwd active = .ok paths ∧
        run.world = c.trace b.timeout paths (active.script b.style).toUTF8 active.debug ∧
        outcome = c.ending b.timeout paths active.debug ∧
        (∀ contents, (∃ a, outcome = .built a ∧ a.contents = contents) ↔
          Effect.write paths.target contents true ∈ run.world) ∧
        (∀ a, outcome = .built a → a.target = paths.target ∧ a.temp = paths.temp ∧
          (a.tempRetained = true ↔ active.debug = true ∨ c.refusesRemove paths.temp = true) ∧
          a.checksum = Sha256.hex a.contents)) ∧
      run.builder.stage = outcome.stage := by
  intro active outcome run
  have hcourse : Builder.Course c.host cwd b given [] outcome run :=
    Builder.build_course c.host cwd b given []
  have hprepare := fun h : ¬Refused given active => exists_prepared cwd b h
  refine ⟨⟨?_, ?_⟩, ?_, ?_, Builder.stage_of_course hcourse⟩
  · rintro ⟨e, hfailed, hconfiguration⟩
    refine Classical.byContradiction fun hrefused => ?_
    obtain ⟨paths, hprepared⟩ := hprepare hrefused
    have hending := (Builder.effects_of_prepared hprepared hcourse).2
    rw [hfailed] at hending
    rw [Circumstances.ending_not_configuration hending.symm] at hconfiguration
    cases hconfiguration
  · intro hrefused
    obtain ⟨-, e, hfailed⟩ := effects_of_refused hrefused hcourse
    exact ⟨.configuration e, hfailed, rfl⟩
  · intro hrefused
    exact (effects_of_refused hrefused hcourse).1
  · intro hrefused
    obtain ⟨paths, hprepared⟩ := hprepare hrefused
    obtain ⟨htrace, hending⟩ := Builder.effects_of_prepared hprepared hcourse
    refine ⟨paths, hprepared.resolved, htrace, hending, ?_, ?_⟩
    · intro contents
      rw [htrace, hending]
      exact Circumstances.ending_eq_built_iff (temp_ne_target hprepared.resolved) _ contents
    · intro a hbuilt
      obtain ⟨htarget, htemp, hretained, hchecksum⟩ :=
        Circumstances.ending_built (hending.symm.trans hbuilt)
      exact ⟨htarget, htemp, by simp [hretained, active, Builder.active], hchecksum⟩

/-- A bundler that answers just at the limit, and a temporary file that cannot be removed: the build
has all its effects and succeeds. -/
theorem effects_at_the_limit :
    let b : Builder := { Builder.initial with timeout := some (.ofSeconds 2) }
    let bundle : ByteArray := "var a;".toUTF8
    let c : Circumstances :=
      ⟨fun _ => false, fun _ => true, .later (.ofSeconds 2) (.ok bundle)⟩
    let active : Configuration := { Configuration.empty with outputFilename := some "odl.js" }
    let run := (b.build c.host ⟨"/site"⟩ (some active) []).2
    ¬Refused (some active) active ∧ run.builder.stage = .done ∧
      ∃ paths, BuildPaths.resolve ⟨"/site"⟩ active = .ok paths ∧
        run.world = [.write paths.temp (active.script b.style).toUTF8 true,
          .bundle paths.temp (some standaloneName), .write paths.target bundle true,
          .remove paths.temp false] := by
  intro b bundle c active run
  have hrefused : ¬Refused (some active) active := by
    rintro (⟨_, hgiven, hcheck⟩ | hunnamed)
    · cases hgiven
      exact hcheck rfl
    · exact hunnamed ⟨"odl.js", rfl, by decide⟩
  obtain ⟨-, -, hrun, hstage⟩ := build_effects_and_outcome ⟨"/site"⟩ b (some active) c
  obtain ⟨paths, hresolve, hworld, hending, -⟩ := hrun hrefused
  refine ⟨hrefused, ?_, paths, hresolve, hworld⟩
  rw [hstage, hending]
  rfl

end PluginBundle
