import PluginBundle.Proofs.Build.Effects
import PluginBundle.Proofs.Build.Sessions

/-!
# Builds and the history before them

What a build comes to and what it does depend on the configuration it works with, the import style,
the time limit and the circumstances, and on nothing else that happened to its builder.
`Circumstances.settle` is that function of these five, said without reference to a builder.

* `settle_of_course` – every course of a build in given circumstances ends as `settle` says.
* `perform_build` – the step lemma: what one call of `build` returns, does and leaves.
* `replicate_build` – the run lemma: builds that are repeated in the same circumstances all end in
  the same way, since each leaves what the next one depends on.
* `builds_forget_history` – two builders with different pasts, and the two ways of passing a
  configuration.

The reports of two such builds are not equal in full: the first record tells the stage that the
builder was in before.
-/

namespace PluginBundle

/-- The fault for which a configuration is refused, if it has one. -/
def Configuration.fault? (c : Configuration) : Option ConfigurationError :=
  match c.check with
  | .error e => some e
  | .ok () => none

theorem Configuration.fault?_eq_none_iff {c : Configuration} :
    c.fault? = none ↔ c.check = .ok () := by
  unfold fault?
  split <;> simp_all

namespace Circumstances

/-- What a build comes to, and what it does. -/
def settle (met : Circumstances) (cwd : Path) (style : ImportStyle) (limit : Option Duration)
    (given : Option Configuration) (active : Configuration) : BuildOutcome × List Effect :=
  match given.bind Configuration.fault? with
  | some e => (.failed (.configuration e), [])
  | none =>
      match BuildPaths.resolve cwd active with
      | .error e => (.failed (.configuration e), [])
      | .ok paths =>
          (met.ending limit paths active.debug,
            met.trace limit paths (active.script style).toUTF8 active.debug)

/-- A configuration that is accepted may be given or be there already. -/
theorem settle_some_of_accepted (met : Circumstances) (cwd : Path) (style : ImportStyle)
    (limit : Option Duration) {c : Configuration} (h : c.check = .ok ()) :
    met.settle cwd style limit (some c) c = met.settle cwd style limit none c := by
  have hfault : c.fault? = none := Configuration.fault?_eq_none_iff.2 h
  simp only [settle, Option.bind_some, Option.bind_none, hfault]

end Circumstances

namespace Builder

variable {cwd : Path} {b : Builder} {given : Option Configuration} {met : Circumstances}
  {outcome : BuildOutcome} {run : BuildRun (List Effect)}

theorem bind_fault?_eq_none (haccepted : ∀ c, given = some c → c.check = .ok ()) :
    given.bind Configuration.fault? = none := by
  cases given with
  | none => rfl
  | some c => exact Configuration.fault?_eq_none_iff.2 (haccepted c rfl)

theorem settle_of_prepared {paths : BuildPaths} (hprepared : Prepared cwd b given paths)
    (hcourse : Course met.host cwd b given [] outcome run) :
    (outcome, run.world) = met.settle cwd b.style b.timeout given (b.active given) := by
  obtain ⟨hworld, houtcome⟩ := effects_of_prepared hprepared hcourse
  unfold Circumstances.settle
  rw [bind_fault?_eq_none hprepared.accepted, hprepared.resolved, hworld, houtcome]
  rfl

/-- Whatever course a build takes, it ends as it is settled. -/
theorem settle_of_course (hcourse : Course met.host cwd b given [] outcome run) :
    (outcome, run.world) = met.settle cwd b.style b.timeout given (b.active given) := by
  have hwhole := hcourse
  cases hcourse with
  | refused c e hgiven hcheck =>
      have hfault : given.bind Configuration.fault? = some e := by
        simp [hgiven, Configuration.fault?, hcheck]
      simp only [Circumstances.settle, hfault]
  | unnamed e haccepted hresolve =>
      simp only [Circumstances.settle, bind_fault?_eq_none haccepted, hresolve]
  | scriptUnwritten _ _ _ hprepared _ => exact settle_of_prepared hprepared hwhole
  | unanswered _ _ _ hprepared _ => exact settle_of_prepared hprepared hwhole
  | unbundled _ _ _ _ hprepared _ => exact settle_of_prepared hprepared hwhole
  | bundleUnwritten _ _ _ _ _ _ hprepared _ _ => exact settle_of_prepared hprepared hwhole
  | finished _ _ _ _ _ _ _ hprepared _ _ _ => exact settle_of_prepared hprepared hwhole

/-- No build changes the import style or the time limit. -/
theorem options_of_course {σ : Type} {host : BuildHost σ} {w : σ} {run : BuildRun σ}
    (hcourse : Course host cwd b given w outcome run) :
    run.builder.style = b.style ∧ run.builder.timeout = b.timeout := by
  cases hcourse <;> exact ⟨rfl, rfl⟩

/-- One call of `build`: what it returns, what it does, and what it leaves. -/
theorem perform_build (cwd : Path) (b : Builder) (given : Option Configuration)
    (met : Circumstances) :
    let report := b.perform cwd (.build given met)
    let settled := met.settle cwd b.style b.timeout given (b.active given)
    report.result = .finished settled.1 ∧ report.effects = settled.2 ∧
      report.builder.stage = settled.1.stage ∧ report.builder.style = b.style ∧
      report.builder.timeout = b.timeout := by
  intro report settled
  have hcourse := build_course met.host cwd b given []
  have hsettled : ((b.build met.host cwd given []).1, report.effects) = settled :=
    settle_of_course hcourse
  obtain ⟨hstyle, htimeout⟩ := options_of_course hcourse
  rw [← hsettled]
  exact ⟨rfl, rfl, stage_of_course hcourse, hstyle, htimeout⟩

end Builder

/-- Two builds that a caller cannot tell apart: they return the same, do the same and leave their
builders in the same stage. -/
structure StepReport.SameBuild (r r' : StepReport) : Prop where
  result : r'.result = r.result
  effects : r'.effects = r.effects
  stage : r'.builder.stage = r.builder.stage

theorem StepReport.SameBuild.trans {r r' r'' : StepReport} (h : r.SameBuild r')
    (h' : r'.SameBuild r'') : r.SameBuild r'' :=
  ⟨h'.result.trans h.result, h'.effects.trans h.effects, h'.stage.trans h.stage⟩

namespace Builder

/-- Builds that are settled in the same way cannot be told apart. -/
theorem sameBuild_of_settle (cwd : Path) {b b' : Builder} {given given' : Option Configuration}
    {met : Circumstances}
    (h : met.settle cwd b'.style b'.timeout given' (b'.active given') =
      met.settle cwd b.style b.timeout given (b.active given)) :
    (b.perform cwd (.build given met)).SameBuild (b'.perform cwd (.build given' met)) := by
  obtain ⟨hresult, heffects, hstage, -, -⟩ := perform_build cwd b given met
  obtain ⟨hresult', heffects', hstage', -, -⟩ := perform_build cwd b' given' met
  rw [h] at hresult' heffects' hstage'
  exact ⟨hresult'.trans hresult.symm, heffects'.trans heffects.symm, hstage'.trans hstage.symm⟩

/-- Repeated builds all end as the first one does, and all keep the configuration. -/
theorem replicate_build (cwd : Path) (b b' : Builder) (met : Circumstances)
    (hconfiguration : b'.configuration = b.configuration) (hstyle : b'.style = b.style)
    (htimeout : b'.timeout = b.timeout) (n : Nat) :
    ∀ report ∈ b'.performAll cwd (List.replicate n (.build none met)),
      (b.perform cwd (.build none met)).SameBuild report ∧
        report.builder.configuration = b.configuration := by
  induction n generalizing b' with
  | zero => simp [performAll]
  | succ n ih =>
      have hkept : (b'.perform cwd (.build none met)).builder.configuration =
          b.configuration := by
        rw [perform_configuration, lastAccepted_singleton]
        exact hconfiguration
      have hsame : (b.perform cwd (.build none met)).SameBuild
          (b'.perform cwd (.build none met)) := by
        apply sameBuild_of_settle
        rw [hstyle, htimeout, show b'.active none = b.active none from hconfiguration]
      -- The builder that is left depends on its past in no more than the one before.
      obtain ⟨-, -, -, hstyle', htimeout'⟩ := perform_build cwd b' none met
      have hrest := ih _ hkept (hstyle'.trans hstyle) (htimeout'.trans htimeout)
      rw [List.replicate_succ, performAll]
      exact List.forall_mem_cons.2 ⟨⟨hsame, hkept⟩, hrest⟩

/-- **Builds forget the history.**  After any two sessions that leave the same import style and time
limit, a build that is given a configuration returns the same, does the same and ends in the same
stage.  If the configuration is accepted, it may as well be passed by `configure`: each of any
number of builds without an argument then does so too, and each keeps that configuration. -/
theorem builds_forget_history (cwd cwd₁ cwd₂ : Path) (done₁ done₂ : List SessionStep)
    (hstyle : (Builder.initial.after cwd₂ done₂).style = (Builder.initial.after cwd₁ done₁).style)
    (htimeout :
      (Builder.initial.after cwd₂ done₂).timeout = (Builder.initial.after cwd₁ done₁).timeout)
    (c : Configuration) (met : Circumstances) :
    let b₁ := Builder.initial.after cwd₁ done₁
    let b₂ := Builder.initial.after cwd₂ done₂
    let report := b₁.perform cwd (.build (some c) met)
    report.SameBuild (b₂.perform cwd (.build (some c) met)) ∧
      (c.check = .ok () → ∀ n,
        ∀ again ∈ (b₂.after cwd [.configure c]).performAll cwd
            (List.replicate n (.build none met)),
          report.SameBuild again ∧
            again.builder.configuration = report.builder.configuration) := by
  intro b₁ b₂ report
  have hsame : report.SameBuild (b₂.perform cwd (.build (some c) met)) := by
    apply sameBuild_of_settle
    rw [hstyle, htimeout]
    rfl
  refine ⟨hsame, fun haccepted n again hagain => ?_⟩
  have hconfigured : b₂.after cwd [.configure c] = { b₂ with configuration := c } := by
    rw [after_cons, perform_configure_of_ok cwd b₂ haccepted]
    rfl
  have hkept : report.builder.configuration = c := by
    rw [perform_configuration, lastAccepted_singleton]
    simp [SessionStep.given?, Option.filter, (isOk_check_iff c).2 haccepted]
  rw [hconfigured] at hagain
  let holding : Builder := { b₁ with configuration := c }
  obtain ⟨hagain, hagainKept⟩ :=
    replicate_build cwd holding { b₂ with configuration := c } met rfl hstyle htimeout n again hagain
  have hfirst : report.SameBuild (holding.perform cwd (.build none met)) := by
    apply sameBuild_of_settle
    exact (met.settle_some_of_accepted cwd b₁.style b₁.timeout haccepted).symm
  exact ⟨hfirst.trans hagain, hagainKept.trans hkept.symm⟩

/-- A new builder, and one that waited in vain for a bundler and was refused a build.  With the same
time limit both build the same, and so does the second one when it is configured first and asked
twice. -/
theorem build_after_failed_builds :
    let limit : SessionStep := .timeout (.ofSeconds 2)
    let named : Configuration := { Configuration.empty with outputFilename := some "odl.js" }
    let met (reply : Reply (Except BundlerError ByteArray)) : Circumstances :=
      ⟨fun _ => false, fun _ => true, reply⟩
    let late := met (.later (.ofSeconds 2) (.ok "var a;".toUTF8))
    let new := Builder.initial.after ⟨"/site"⟩ [limit]
    let used := Builder.initial.after ⟨"/site"⟩
      [limit, .build (some { named with debug := true }) (met .never), .build (some .empty) late]
    let report := new.perform ⟨"/site"⟩ (.build (some named) late)
    report.builder.stage = .done ∧
      report.SameBuild (used.perform ⟨"/site"⟩ (.build (some named) late)) ∧
      ∀ again ∈ (used.after ⟨"/site"⟩ [.configure named]).performAll ⟨"/site"⟩
          (List.replicate 2 (.build none late)),
        report.SameBuild again ∧
          again.builder.configuration = report.builder.configuration := by
  intro limit named met late new used report
  obtain ⟨hsame, hagain⟩ :=
    builds_forget_history ⟨"/site"⟩ ⟨"/site"⟩ ⟨"/site"⟩ [limit]
      [limit, .build (some { named with debug := true }) (met .never), .build (some .empty) late]
      rfl rfl named late
  exact ⟨rfl, hsame, hagain rfl 2⟩

end Builder
end PluginBundle
