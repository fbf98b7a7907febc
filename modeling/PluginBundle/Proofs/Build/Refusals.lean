import PluginBundle.Proofs.Build.Sessions

/-!
# Builds that are refused for their configuration

A build can be refused twice: when the configuration that it is given is checked, and when the one
it works with turns out to name no bundle.  Between the two the configuration that was given takes
the place of the one that was kept.

`refusal_of_course` reads both ways off the courses of a build, for any host whatever: neither
touches the world, and they differ in what the builder is left with.  `refused_build_is_harmless`
says so of a build at any point of a session.
-/

namespace PluginBundle

/-- The configuration names the file of a bundle. -/
def Configuration.NamesBundle (c : Configuration) : Prop :=
  ∃ name, c.outputFilename = some name ∧ name ≠ ""

/-- Paths are refused for one reason only. -/
theorem BuildPaths.resolve_eq_error_iff {cwd : Path} {c : Configuration}
    {e : ConfigurationError} :
    resolve cwd c = .error e ↔ ¬c.NamesBundle ∧ e = .missingOption .outputFilename := by
  unfold resolve Configuration.NamesBundle
  cases hname : c.outputFilename with
  | none => simpa using eq_comm
  | some name =>
      by_cases hempty : name = ""
      · simpa [hempty] using eq_comm
      · simp [hempty]

namespace Builder

variable {σ : Type} {host : BuildHost σ} {cwd : Path} {b : Builder}
  {given : Option Configuration} {w : σ} {run : BuildRun σ} {e : BuildError}

/-- The two ways to be refused.  Only the second one comes after the replacement of the
configuration. -/
theorem refusal_of_course (hcourse : Course host cwd b given w (.failed e) run)
    (he : e.isConfiguration = true) :
    (∃ c fault, given = some c ∧ c.check = .error fault ∧ e = .configuration fault ∧
        run = ⟨{ b with stage := .failed }, w, b.refusal⟩) ∨
      ((∀ c, given = some c → c.check = .ok ()) ∧ ¬(b.active given).NamesBundle ∧
        e = .configuration (.missingOption .outputFilename) ∧
        run = ⟨b.during given .failed, w, b.refusal⟩) := by
  cases hcourse with
  | refused c fault hgiven hcheck => exact .inl ⟨c, fault, hgiven, hcheck, rfl, rfl⟩
  | unnamed fault haccepted hresolve =>
      obtain ⟨hunnamed, rfl⟩ := BuildPaths.resolve_eq_error_iff.1 hresolve
      exact .inr ⟨haccepted, hunnamed, rfl, rfl⟩
  -- The other failures are those of the files and of the bundler.
  | scriptUnwritten => cases he
  | unbundled => cases he
  | bundleUnwritten => cases he

/-- **A refused build is harmless.**  At any point of a session, a build that is given a
configuration and fails for it does nothing to the files and calls no bundler.  If the check refuses
the configuration, the builder is left as it was but for its stage.  Otherwise the configuration is
accepted and only names no bundle; then it is kept, as `configure` would have kept it. -/
theorem refused_build_is_harmless (cwd : Path) (done : List SessionStep) (c : Configuration)
    (met : Circumstances) (e : BuildError) :
    let before := Builder.initial.after cwd done
    let report := before.perform cwd (.build (some c) met)
    report.result = .finished (.failed e) → e.isConfiguration = true →
      report.effects = [] ∧
        ((∃ fault, c.check = .error fault ∧ e = .configuration fault ∧
            report.builder = { before with stage := .failed }) ∨
          (c.check = .ok () ∧ ¬c.NamesBundle ∧
            e = .configuration (.missingOption .outputFilename) ∧
            report.builder = { before with configuration := c, stage := .failed })) := by
  intro before report hresult he
  have hfailed : (before.build met.host cwd (some c) []).1 = .failed e := by
    simpa [report, perform] using hresult
  have hcourse := build_course met.host cwd before (some c) []
  rw [hfailed] at hcourse
  obtain ⟨c', fault, hgiven, hcheck, herror, hrun⟩ | ⟨haccepted, hunnamed, herror, hrun⟩ :=
    refusal_of_course hcourse he
  · cases hgiven
    have heffects : report.effects = [] := congrArg BuildRun.world hrun
    have hbuilder : report.builder = _ := congrArg BuildRun.builder hrun
    exact ⟨heffects, .inl ⟨fault, hcheck, herror, hbuilder⟩⟩
  · have heffects : report.effects = [] := congrArg BuildRun.world hrun
    have hbuilder : report.builder = _ := congrArg BuildRun.builder hrun
    exact ⟨heffects, .inr ⟨haccepted c rfl, hunnamed, herror, hbuilder⟩⟩

/-- With a name kept for the bundle, a build is given a configuration without a plugin name and one
without a name for the bundle.  Only the second one is kept. -/
theorem refused_builds_of_session :
    let named : Configuration := { Configuration.empty with outputFilename := some "odl.js" }
    let faulty : Configuration :=
      { named with plugins := .ofList [("", ⟨.object [], .flag true⟩)] }
    let met : Circumstances := ⟨fun _ => false, fun _ => false, .now (.ok "var a;".toUTF8)⟩
    let before := Builder.initial.after ⟨"/site"⟩ [.configure named]
    let first := before.perform ⟨"/site"⟩ (.build (some faulty) met)
    let second := before.perform ⟨"/site"⟩ (.build (some .empty) met)
    (first.effects = [] ∧ first.builder = { before with stage := .failed }) ∧
      second.effects = [] ∧
      second.builder = { before with configuration := .empty, stage := .failed } := by
  intro named faulty met before first second
  obtain ⟨hfirst, ⟨_, -, -, hbefore⟩ | ⟨haccepted, -⟩⟩ :=
    refused_build_is_harmless ⟨"/site"⟩ [.configure named] faulty met
      (.configuration .emptyPluginName) rfl rfl
  · obtain ⟨hsecond, ⟨_, hfault, -⟩ | ⟨-, -, -, hkept⟩⟩ :=
      refused_build_is_harmless ⟨"/site"⟩ [.configure named] .empty met
        (.configuration (.missingOption .outputFilename)) rfl rfl
    · cases hfault
    · exact ⟨⟨hfirst, hbefore⟩, hsecond, hkept⟩
  · cases haccepted

/-- A build fails for its configuration, and yet the configuration is kept in place of the one from
before. -/
theorem refused_configuration_is_kept :
    let named : Configuration := { Configuration.empty with outputFilename := some "odl.js" }
    let met : Circumstances := ⟨fun _ => false, fun _ => false, .now (.ok "var a;".toUTF8)⟩
    let before := Builder.initial.after ⟨"/site"⟩ [.configure named]
    let report := before.perform ⟨"/site"⟩ (.build (some .empty) met)
    let e : BuildError := .configuration (.missingOption .outputFilename)
    report.result = .finished (.failed e) ∧ e.isConfiguration = true ∧
      before.configuration.outputFilename = some "odl.js" ∧
      report.builder.configuration.outputFilename = none ∧
      report.builder.configuration ≠ before.configuration := by
  intro named met before report e
  refine ⟨rfl, rfl, rfl, rfl, fun hsame => ?_⟩
  have hnames : (none : Option String) = some "odl.js" := congrArg Configuration.outputFilename hsame
  cases hnames

end Builder
end PluginBundle
