import PluginBundle.Proofs.Build.Effects
import PluginBundle.Proofs.Build.Sessions

/-!
# The stages that a session goes through

Every change of stage is reported, so the log of a session tells where its builder has been.
`BuildStage.next` lists the stages that may follow a stage, and `StageWalk` joins changes of stage
to a way from one stage to another.

* `walk_of_course` – the way of a single build: it starts where the builder stood, leads first to
  validation, and from there on takes listed steps only.
* `perform_walk` / `performAll_walk` – the step and the run lemma: a call that meets a resting
  builder takes listed steps only, and it leaves a resting builder if it returns.
* `session_stages_walk` – the law of a whole session.

A call that never returns leaves its builder in the middle of a build.  Such a call is allowed as
the last one of a session, since nothing can be called after it.
-/

namespace PluginBundle

/-! ## Ways through the stages -/

/-- The stages that may follow a stage; with debugging on nothing is cleaned up. -/
def BuildStage.next (debug : Bool) : BuildStage → List BuildStage
  | .idle => [.validating]
  | .validating => [.generating, .failed]
  | .generating => [.writingTemp]
  | .writingTemp => [.bundling, .failed]
  | .bundling => [.writingFinal, .failed]
  | .writingFinal => [if debug then .done else .cleaningUp, .failed]
  | .cleaningUp => [.done]
  | .done => [.validating]
  | .failed => [.validating]

/-- No build is under way. -/
def BuildStage.Resting (stage : BuildStage) : Prop :=
  stage = .idle ∨ stage = .done ∨ stage = .failed

theorem BuildStage.Resting.next {stage : BuildStage} (h : stage.Resting) (debug : Bool) :
    stage.next debug = [.validating] := by
  obtain rfl | rfl | rfl := h <;> rfl

/-- A change of stage: the stage that was left, and the one that was entered. -/
abbrev StageChange := BuildStage × BuildStage

/-- Changes of stage that lead from one stage to another in steps of a kind, each from where the one
before led. -/
inductive StageWalk (step : BuildStage → BuildStage → Prop) :
    BuildStage → List StageChange → BuildStage → Prop
  | stay (a : BuildStage) : StageWalk step a [] a
  | move {a b c : BuildStage} {rest : List StageChange} (hstep : step a b)
      (hrest : StageWalk step b rest c) : StageWalk step a ((a, b) :: rest) c

namespace StageWalk

variable {step : BuildStage → BuildStage → Prop} {a b c : BuildStage}
  {changes rest : List StageChange}

theorem append (h : StageWalk step a changes b) (h' : StageWalk step b rest c) :
    StageWalk step a (changes ++ rest) c := by
  induction h with
  | stay _ => exact h'
  | move hstep _ ih => exact .move hstep (ih h')

theorem mono {step' : BuildStage → BuildStage → Prop} (h : StageWalk step a changes b)
    (hsteps : ∀ a b, step a b → step' a b) : StageWalk step' a changes b := by
  induction h with
  | stay a => exact .stay a
  | move hstep _ ih => exact .move (hsteps _ _ hstep) ih

theorem step_of_mem (h : StageWalk step a changes b) :
    ∀ t ∈ changes, step t.1 t.2 := by
  induction h with
  | stay _ => simp
  | move hstep _ ih => exact List.forall_mem_cons.2 ⟨hstep, ih⟩

end StageWalk

/-- The change of stage that a record reports. -/
@[simp] def LogRecord.stageChange? : LogRecord → Option StageChange
  | .stageEntered left entered => some (left, entered)
  | _ => none

/-- The changes of stage that are reported, in order. -/
def stageChanges (log : List LogRecord) : List StageChange := log.filterMap LogRecord.stageChange?

@[simp] theorem stageChanges_nil : stageChanges [] = [] := rfl

@[simp] theorem stageChanges_cons (record : LogRecord) (log : List LogRecord) :
    stageChanges (record :: log) = record.stageChange?.toList ++ stageChanges log := by
  unfold stageChanges
  rw [List.filterMap_cons]
  cases record.stageChange? <;> rfl

@[simp] theorem stageChanges_append (log more : List LogRecord) :
    stageChanges (log ++ more) = stageChanges log ++ stageChanges more := by
  simp [stageChanges]

/-! ## One build -/

namespace Builder

variable {cwd : Path} {b : Builder} {given : Option Configuration} {c : Circumstances}

@[simp] theorem stageChanges_preparation (b : Builder) (given : Option Configuration)
    (paths : BuildPaths) :
    stageChanges (b.preparation given paths) =
      [(b.stage, .validating), (.validating, .generating), (.generating, .writingTemp)] := by
  unfold preparation announcement
  split <;> rfl

/-- A bundler that reports nothing adds nothing to the way. -/
@[simp] theorem stageChanges_waiting (b : Builder) (given : Option Configuration)
    (paths : BuildPaths) :
    stageChanges (b.waiting given paths []) =
      stageChanges (b.preparation given paths) ++ [(.writingTemp, .bundling)] := by
  simp [waiting]

/-- Cleaning up is a stage of its own unless debugging is on; a removal that fails does not show. -/
theorem walk_farewell (c : Configuration) (paths : BuildPaths) (left : Option IoError) :
    StageWalk (fun a b => b ∈ a.next c.debug) .writingFinal (stageChanges (farewell c paths left))
      .done := by
  unfold farewell
  cases c.debug with
  | true => exact .move (.head _) (.stay _)
  | false =>
      have hway : StageWalk (fun a b => b ∈ a.next false) .writingFinal
          [(.writingFinal, .cleaningUp), (.cleaningUp, .done)] .done :=
        .move (.head _) (.move (.head _) (.stay _))
      cases left <;> exact hway

/-- The way of one build, whose first step leads to validation; all others are listed steps for the
configuration that the build works with. -/
theorem walk_of_course {outcome : BuildOutcome} {run : BuildRun (List Effect)}
    (hcourse : Course c.host cwd b given [] outcome run) :
    ∃ rest, stageChanges run.log = (b.stage, .validating) :: rest ∧
      StageWalk (fun a b => b ∈ a.next run.builder.configuration.debug) .validating rest
        run.builder.stage := by
  -- The recorded bundler reports nothing, so all that is reported comes from the build.
  have hsilent {paths : BuildPaths} {result : Option (Except BundlerError ByteArray)}
      {told : List LogRecord} {w : List Effect}
      (hcalled : Called c.host b given paths [] result told w) : told = [] :=
    (Circumstances.called_host hcalled).2.2.1
  have hbundling {debug : Bool} {rest : List StageChange} {stage : BuildStage}
      (h : StageWalk (fun a b => b ∈ a.next debug) .bundling rest stage) :
      StageWalk (fun a b => b ∈ a.next debug) .validating
        ([(.validating, .generating), (.generating, .writingTemp), (.writingTemp, .bundling)]
          ++ rest) stage :=
    .move (.head _) (.move (.head _) (.move (.head _) h))
  cases hcourse with
  | refused _ _ _ _ => exact ⟨_, rfl, .move (.tail _ (.head _)) (.stay _)⟩
  | unnamed _ _ _ => exact ⟨_, rfl, .move (.tail _ (.head _)) (.stay _)⟩
  | scriptUnwritten _ _ _ _ _ =>
      refine ⟨[(.validating, .generating), (.generating, .writingTemp), (.writingTemp, .failed)],
        by simp, ?_⟩
      exact .move (.head _) (.move (.head _) (.move (.tail _ (.head _)) (.stay _)))
  | unanswered _ _ _ _ hcalled =>
      obtain rfl := hsilent hcalled
      exact ⟨_, by simp, hbundling (.stay _)⟩
  | unbundled _ _ _ _ _ hcalled =>
      obtain rfl := hsilent hcalled
      exact ⟨_, by simp, hbundling (.move (.tail _ (.head _)) (.stay _))⟩
  | bundleUnwritten _ _ _ _ _ _ _ hcalled _ =>
      obtain rfl := hsilent hcalled
      exact ⟨_, by simp, hbundling (.move (.head _) (.move (.tail _ (.head _)) (.stay _)))⟩
  | finished paths _ _ left _ _ _ _ hcalled _ _ =>
      obtain rfl := hsilent hcalled
      have hclosing := walk_farewell (b.active given) paths left
      exact ⟨_, by simp, hbundling (.move (.head _) hclosing)⟩

end Builder

/-! ## Whole sessions -/

/-- A build that came to an end is no longer under way. -/
theorem BuildOutcome.stage_resting {outcome : BuildOutcome} (h : outcome ≠ .unending) :
    outcome.stage.Resting := by
  cases outcome with
  | built _ => exact .inr (.inl rfl)
  | failed _ => exact .inr (.inr rfl)
  | unending => exact absurd rfl h

/-- The outcome of a build that was called. -/
def StepReport.outcome? (r : StepReport) : Option BuildOutcome :=
  match r.result with
  | .finished outcome => some outcome
  | _ => none

/-- The call came to an end.  Only a build can wait for ever. -/
def StepReport.Returned (r : StepReport) : Prop := r.outcome? ≠ some .unending

/-- The stage after the last build of a session, if there was one. -/
def stageAfter (before : BuildStage) (reports : List StepReport) : BuildStage :=
  ((reports.filterMap StepReport.outcome?).getLast?.map BuildOutcome.stage).getD before

theorem stageAfter_cons (before : BuildStage) (report : StepReport) (rest : List StepReport) :
    stageAfter before (report :: rest) = stageAfter (stageAfter before [report]) rest := by
  have hsplit : report :: rest = [report] ++ rest := rfl
  rw [hsplit]
  simp only [stageAfter, List.filterMap_append, List.getLast?_append]
  cases (rest.filterMap StepReport.outcome?).getLast? <;> rfl

namespace Builder

/-- A call that meets a resting builder takes listed steps only. -/
theorem perform_walk (cwd : Path) {b : Builder} (hresting : b.stage.Resting)
    (step : SessionStep) :
    let report := b.perform cwd step
    StageWalk (fun a b => b ∈ a.next report.builder.configuration.debug) b.stage
      (stageChanges report.log) report.builder.stage := by
  intro report
  cases step with
  | configure c =>
      cases hcheck : c.check with
      | error e =>
          simp only [report, perform_configure_of_error cwd b hcheck]
          exact .stay _
      | ok _ =>
          simp only [report, perform_configure_of_ok cwd b hcheck]
          exact .stay _
  | style _ => exact .stay _
  | timeout _ => exact .stay _
  | build given met =>
      obtain ⟨rest, hchanges, hwalk⟩ := walk_of_course (build_course met.host cwd b given [])
      have hfirst : .validating ∈ b.stage.next report.builder.configuration.debug := by
        rw [hresting.next]
        exact .head _
      rw [show stageChanges report.log = _ from hchanges]
      exact .move hfirst hwalk

/-- The stage that a call leaves is told by the outcome of the build, if it is one. -/
theorem perform_stage (cwd : Path) (b : Builder) (step : SessionStep) :
    (b.perform cwd step).builder.stage = stageAfter b.stage [b.perform cwd step] := by
  cases step with
  | configure c =>
      cases hcheck : c.check with
      | error e => simp [perform_configure_of_error cwd b hcheck, stageAfter, StepReport.outcome?]
      | ok _ => simp [perform_configure_of_ok cwd b hcheck, stageAfter, StepReport.outcome?]
  | style _ => rfl
  | timeout _ => rfl
  | build given met => exact stage_of_course (build_course met.host cwd b given [])

theorem after_stage (cwd : Path) (b : Builder) (steps : List SessionStep) :
    (b.after cwd steps).stage = stageAfter b.stage (b.performAll cwd steps) := by
  induction steps generalizing b with
  | nil => rfl
  | cons step rest ih => rw [after_cons, ih, perform_stage, performAll, ← stageAfter_cons]

/-- A call that returned leaves no build under way. -/
theorem perform_resting (cwd : Path) {b : Builder} (hresting : b.stage.Resting)
    (step : SessionStep) (hreturned : (b.perform cwd step).Returned) :
    (b.perform cwd step).builder.stage.Resting := by
  rw [perform_stage]
  unfold StepReport.Returned at hreturned
  cases houtcome : (b.perform cwd step).outcome? with
  | none => simpa [stageAfter, houtcome] using hresting
  | some outcome =>
      have hended : outcome ≠ .unending := fun h => hreturned (houtcome.trans (congrArg some h))
      simpa [stageAfter, houtcome] using BuildOutcome.stage_resting hended

/-- A session that starts with a resting builder takes listed steps only, if each call but the last
returned. -/
theorem performAll_walk (cwd : Path) {b : Builder} (hresting : b.stage.Resting)
    (steps : List SessionStep)
    (hreturned : ∀ report ∈ (b.performAll cwd steps).dropLast, report.Returned) :
    StageWalk (fun a b => ∃ debug, b ∈ a.next debug) b.stage
        (stageChanges ((b.performAll cwd steps).flatMap (·.log))) (b.after cwd steps).stage ∧
      ∀ report ∈ b.performAll cwd steps, ∀ t ∈ stageChanges report.log,
        t.2 ∈ t.1.next report.builder.configuration.debug := by
  induction steps generalizing b with
  | nil => exact ⟨.stay _, by simp [performAll]⟩
  | cons step rest ih =>
      have hcall := perform_walk cwd hresting step
      have hfirst : StageWalk (fun a b => ∃ debug, b ∈ a.next debug) _ _ _ :=
        hcall.mono fun _ _ hlisted => ⟨_, hlisted⟩
      cases rest with
      | nil =>
          refine ⟨?_, ?_⟩
          · simpa [performAll] using hfirst
          · simpa [performAll] using hcall.step_of_mem
      | cons next more =>
          rw [performAll, performAll, List.dropLast_cons_cons, List.forall_mem_cons] at hreturned
          have hrested := perform_resting cwd hresting step hreturned.1
          obtain ⟨hwalk, hlisted⟩ := ih hrested hreturned.2
          refine ⟨?_, List.forall_mem_cons.2 ⟨hcall.step_of_mem, hlisted⟩⟩
          rw [performAll, List.flatMap_cons, stageChanges_append]
          exact hfirst.append hwalk

/-- **The stages of a session.**  The changes of stage that a session reports are one way from the
initial stage to the stage that is left, in listed steps only; where the list depends on debugging,
it is that of the configuration of the build.  Between calls the stage tells how the last build
ended, and `configure` does not touch it.  The condition says that a call is only made after the one
before it returned. -/
theorem session_stages_walk (cwd : Path) (steps : List SessionStep)
    (hreturned : ∀ report ∈ (Builder.initial.performAll cwd steps).dropLast, report.Returned) :
    let reports := Builder.initial.performAll cwd steps
    let left := Builder.initial.after cwd steps
    StageWalk (fun a b => ∃ debug, b ∈ a.next debug) .idle
        (stageChanges (reports.flatMap (·.log))) left.stage ∧
      (∀ report ∈ reports, ∀ t ∈ stageChanges report.log,
        t.2 ∈ t.1.next report.builder.configuration.debug) ∧
      left.stage = stageAfter .idle reports ∧
      ∀ c, (left.perform cwd (.configure c)).builder.stage = left.stage := by
  intro reports left
  obtain ⟨hwalk, hlisted⟩ := performAll_walk cwd (b := Builder.initial) (.inl rfl) steps hreturned
  refine ⟨hwalk, hlisted, after_stage cwd Builder.initial steps, fun c => ?_⟩
  cases hcheck : c.check with
  | error e => rw [perform_configure_of_error cwd left hcheck]
  | ok _ => rw [perform_configure_of_ok cwd left hcheck]

/-- A build that is refused, one that keeps its script, and one whose bundler hangs: the way of the
session ends where the builder still waits. -/
theorem stages_of_waiting_session :
    let named : Configuration := { Configuration.empty with outputFilename := some "odl.js" }
    let debugging : Configuration := { named with debug := true }
    let met (reply : Reply (Except BundlerError ByteArray)) : Circumstances :=
      ⟨fun _ => false, fun _ => true, reply⟩
    let steps : List SessionStep :=
      [.build none (met .never), .build (some debugging) (met (.now (.ok "var a;".toUTF8))),
        .configure named, .build none (met .never)]
    let left := Builder.initial.after ⟨"/site"⟩ steps
    (∀ report ∈ (Builder.initial.performAll ⟨"/site"⟩ steps).dropLast, report.Returned) ∧
      left.stage = .bundling ∧
      StageWalk (fun a b => ∃ debug, b ∈ a.next debug) .idle
        [(.idle, .validating), (.validating, .failed),
          (.failed, .validating), (.validating, .generating), (.generating, .writingTemp),
          (.writingTemp, .bundling), (.bundling, .writingFinal), (.writingFinal, .done),
          (.done, .validating), (.validating, .generating), (.generating, .writingTemp),
          (.writingTemp, .bundling)] left.stage := by
  intro named debugging met steps left
  have hreturned : ∀ report ∈ (Builder.initial.performAll ⟨"/site"⟩ steps).dropLast,
      report.Returned := by
    rintro report (_ | ⟨_, _ | ⟨_, _ | ⟨_, ⟨⟩⟩⟩⟩)
    · exact fun h => nomatch h
    · exact fun h => nomatch h
    · exact fun h => nomatch h
  obtain ⟨hwalk, -, hstage, -⟩ := session_stages_walk ⟨"/site"⟩ steps hreturned
  exact ⟨hreturned, hstage, hwalk⟩

end Builder
end PluginBundle
