import PluginBundle.Build.Session
import PluginBundle.Proofs.Build.Course

/-!
# What a session leaves in a builder

A session is followed from its start: `Builder.after` is the builder that a list of calls leaves,
and the report of a call is that of the builder which the calls before it left.

The configuration that a builder keeps depends on nothing but what it was given.
`perform_configuration` says so of one call, whatever the files and the bundler do in it, and
`after_configuration` of a whole session, by induction over the calls.  What the calls return and
which stages they go through is not looked at here.
-/

namespace PluginBundle

/-! ## Sessions call by call -/

namespace Builder

/-- The builder that a session leaves. -/
def after (cwd : Path) (b : Builder) (steps : List SessionStep) : Builder :=
  steps.foldl (fun b step => (b.perform cwd step).builder) b

@[simp] theorem after_nil (cwd : Path) (b : Builder) : b.after cwd [] = b := rfl

@[simp] theorem after_cons (cwd : Path) (b : Builder) (step : SessionStep)
    (rest : List SessionStep) :
    b.after cwd (step :: rest) = (b.perform cwd step).builder.after cwd rest := rfl

/-- A session goes on from the builder that its first part left. -/
theorem performAll_append (cwd : Path) (b : Builder) (first rest : List SessionStep) :
    b.performAll cwd (first ++ rest) =
      b.performAll cwd first ++ (b.after cwd first).performAll cwd rest := by
  induction first generalizing b with
  | nil => rfl
  | cons step more ih => simp [performAll, ih]

@[simp] theorem performAll_length (cwd : Path) (b : Builder) (steps : List SessionStep) :
    (b.performAll cwd steps).length = steps.length := by
  induction steps generalizing b with
  | nil => rfl
  | cons step rest ih => simp [performAll, ih]

/-- The report of a call is that of the builder which the calls before it left. -/
theorem performAll_getElem? (cwd : Path) (b : Builder) (done rest : List SessionStep)
    (step : SessionStep) :
    (b.performAll cwd (done ++ step :: rest))[done.length]? =
      some ((b.after cwd done).perform cwd step) := by
  rw [performAll_append, List.getElem?_append_right (by simp)]
  simp [performAll]

end Builder

/-! ## The configuration that is kept -/

/-- The configuration that a call is given, if it is given one. -/
def SessionStep.given? : SessionStep → Option Configuration
  | .configure c => some c
  | .build given _ => given
  | .style _ => none
  | .timeout _ => none

/-- The last configuration of a session that was given and accepted, or else the one before it. -/
def lastAccepted (before : Configuration) (steps : List SessionStep) : Configuration :=
  ((steps.filterMap SessionStep.given?).filter (·.check.isOk)).getLast?.getD before

theorem isOk_check_iff (c : Configuration) : c.check.isOk = true ↔ c.check = .ok () := by
  cases c.check <;> simp [Except.isOk, Except.toBool]

/-- What comes later counts more. -/
theorem lastAccepted_cons (before : Configuration) (step : SessionStep)
    (rest : List SessionStep) :
    lastAccepted before (step :: rest) = lastAccepted (lastAccepted before [step]) rest := by
  have hsplit : step :: rest = [step] ++ rest := rfl
  rw [hsplit]
  simp only [lastAccepted, List.filterMap_append, List.filter_append, List.getLast?_append]
  cases ((rest.filterMap SessionStep.given?).filter (·.check.isOk)).getLast? <;> rfl

/-- The configuration that is given last is either accepted or without effect. -/
theorem lastAccepted_singleton (before : Configuration) (step : SessionStep) :
    lastAccepted before [step] = (step.given?.filter (·.check.isOk)).getD before := by
  cases hgiven : step.given? with
  | none => simp [lastAccepted, hgiven]
  | some c =>
      cases hcheck : c.check.isOk <;> simp [lastAccepted, hgiven, hcheck, Option.filter]

/-- What is kept is accepted, if it was so before. -/
theorem check_lastAccepted {before : Configuration} (h : before.check = .ok ())
    (steps : List SessionStep) : (lastAccepted before steps).check = .ok () := by
  unfold lastAccepted
  cases hlast : ((steps.filterMap SessionStep.given?).filter (·.check.isOk)).getLast? with
  | none => exact h
  | some c =>
      have hmem := List.mem_of_getLast? hlast
      exact (isOk_check_iff c).1 (List.mem_filter.1 hmem).2

namespace Builder

/-- Whatever course a build takes, it keeps the configuration that it was given, if that was
accepted, and else the one from before. -/
theorem configuration_of_course {σ : Type} {host : BuildHost σ} {cwd : Path} {b : Builder}
    {given : Option Configuration} {w : σ} {outcome : BuildOutcome} {run : BuildRun σ}
    (hcourse : Course host cwd b given w outcome run) :
    run.builder.configuration = (given.filter (·.check.isOk)).getD b.configuration := by
  have haccepted (h : ∀ c, given = some c → c.check = .ok ()) :
      b.active given = (given.filter (·.check.isOk)).getD b.configuration := by
    cases given with
    | none => rfl
    | some c => simp [active, Option.filter, (isOk_check_iff c).2 (h c rfl)]
  cases hcourse with
  | refused c e hgiven hcheck =>
      simp [hgiven, hcheck, Option.filter, Except.isOk, Except.toBool]
  | unnamed _ h _ => exact haccepted h
  | scriptUnwritten _ _ _ hprepared _ => exact haccepted hprepared.accepted
  | unanswered _ _ _ hprepared _ => exact haccepted hprepared.accepted
  | unbundled _ _ _ _ hprepared _ => exact haccepted hprepared.accepted
  | bundleUnwritten _ _ _ _ _ _ hprepared _ _ => exact haccepted hprepared.accepted
  | finished _ _ _ _ _ _ _ hprepared _ _ _ => exact haccepted hprepared.accepted

theorem perform_configure_of_error (cwd : Path) (b : Builder) {c : Configuration}
    {e : ConfigurationError} (h : c.check = .error e) :
    b.perform cwd (.configure c) = ⟨b, .refused e, [], []⟩ := by
  simp [perform, configure, h]

theorem perform_configure_of_ok (cwd : Path) (b : Builder) {c : Configuration}
    (h : c.check = .ok ()) :
    b.perform cwd (.configure c) = ⟨{ b with configuration := c }, .accepted, [], []⟩ := by
  simp [perform, configure, h]

/-- One call keeps the last configuration that was accepted. -/
theorem perform_configuration (cwd : Path) (b : Builder) (step : SessionStep) :
    (b.perform cwd step).builder.configuration = lastAccepted b.configuration [step] := by
  rw [lastAccepted_singleton]
  cases step with
  | configure c =>
      cases hcheck : c.check with
      | error e =>
          simp [perform_configure_of_error cwd b hcheck, SessionStep.given?, hcheck, Option.filter,
            Except.isOk, Except.toBool]
      | ok _ =>
          simp [perform_configure_of_ok cwd b hcheck, SessionStep.given?, hcheck, Option.filter,
            Except.isOk, Except.toBool]
  | style _ => rfl
  | timeout _ => rfl
  | build given met => exact configuration_of_course (build_course met.host cwd b given [])

/-- A session keeps the last configuration that was accepted. -/
theorem after_configuration (cwd : Path) (b : Builder) (steps : List SessionStep) :
    (b.after cwd steps).configuration = lastAccepted b.configuration steps := by
  induction steps generalizing b with
  | nil => rfl
  | cons step rest ih => rw [after_cons, ih, perform_configuration, ← lastAccepted_cons]

/-- **What a builder keeps.**  After every call of every session the builder keeps the last
configuration that was given and accepted, or the empty one, and what it keeps is accepted.  A call
of `configure` that is refused changes nothing and does nothing.  What a build leaves there does not
depend on the files, the bundler or the time limit, and a build that is given no configuration
leaves what was there. -/
theorem session_keeps_last_accepted (cwd : Path) (done rest : List SessionStep)
    (step : SessionStep) :
    let before := Builder.initial.after cwd done
    let report := before.perform cwd step
    (Builder.initial.performAll cwd (done ++ step :: rest))[done.length]? = some report ∧
      report.builder.configuration.check = .ok () ∧
      report.builder.configuration = lastAccepted .empty (done ++ [step]) ∧
      (∀ c e, step = .configure c → c.check = .error e → report = ⟨before, .refused e, [], []⟩) ∧
      (∀ given met, step = .build given met → ∀ limit met',
        ({ before with timeout := limit }.perform cwd (.build given met')).builder.configuration =
          report.builder.configuration) ∧
      ∀ met, step = .build none met →
        report.builder.configuration = before.configuration := by
  intro before report
  have hkept : report.builder.configuration = lastAccepted .empty (done ++ [step]) := by
    have hafter := after_configuration cwd Builder.initial (done ++ [step])
    rwa [after, List.foldl_append] at hafter
  refine ⟨performAll_getElem? cwd _ done rest step, ?_, hkept, ?_, ?_, ?_⟩
  · rw [hkept]
    exact check_lastAccepted rfl _
  · rintro c e rfl hcheck
    exact perform_configure_of_error cwd before hcheck
  · rintro given met rfl limit met'
    rw [perform_configuration, perform_configuration, lastAccepted_singleton,
      lastAccepted_singleton]
    rfl
  · rintro met rfl
    exact perform_configuration cwd before (.build none met)

/-- A configuration that is refused changes nothing, and neither does a bundler that never answers,
whether it is waited for or not: the configuration from the start of the session is still there. -/
theorem accepted_configuration_survives :
    let good : Configuration := { Configuration.empty with outputFilename := some "odl.js" }
    let bad : Configuration :=
      { Configuration.empty with plugins := .ofList [("", ⟨.object [], .flag true⟩)] }
    let hanging : Circumstances := ⟨fun _ => false, fun _ => false, .never⟩
    let before := Builder.initial.after ⟨"/site"⟩ [.timeout (.ofSeconds 2), .configure good]
    let built := before.perform ⟨"/site"⟩ (.build none hanging)
    before.configuration = good ∧
      before.perform ⟨"/site"⟩ (.configure bad) = ⟨before, .refused .emptyPluginName, [], []⟩ ∧
      built.builder.configuration = good ∧
      ({ before with timeout := none }.perform ⟨"/site"⟩
        (.build none hanging)).builder.configuration = good := by
  intro good bad hanging before built
  let done : List SessionStep := [.timeout (.ofSeconds 2), .configure good]
  obtain ⟨-, -, hkept, hrefused, -⟩ :=
    session_keeps_last_accepted ⟨"/site"⟩ done [] (.configure bad)
  have hreport := hrefused bad .emptyPluginName rfl rfl
  rw [hreport] at hkept
  have hbefore : before.configuration = good := hkept
  obtain ⟨-, -, -, -, hindependent, hunchanged⟩ :=
    session_keeps_last_accepted ⟨"/site"⟩ done [] (.build none hanging)
  have hbuilt : built.builder.configuration = good := (hunchanged hanging rfl).trans hbefore
  have hwaiting := hindependent none hanging rfl none hanging
  exact ⟨hbefore, hreport, hbuilt, hwaiting.trans hbuilt⟩

end Builder
end PluginBundle
