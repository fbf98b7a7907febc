import PluginBundle.Build.Builder

/-!
# The courses that a build can take

A build stops at the first thing that goes wrong, or comes to its end.  `Course` lists the places
where it can stop, for any host whatever: each constructor says what the host answered until then,
and fixes the result, the builder, the world and the report that are left.  `build_course` proves
that every build takes one of these courses, so later facts are read off them by cases and never
off the functions that run a build.

Nothing is assumed of the host.  A removal that fails is no place to stop at, since the bundle has
been written by then.
-/

namespace PluginBundle
namespace Builder

variable {σ : Type}

/-- The configuration that a build works with, once it is accepted. -/
def active (b : Builder) (given : Option Configuration) : Configuration :=
  given.getD b.configuration

/-- The builder at a stage of a build whose configuration was accepted. -/
def during (b : Builder) (given : Option Configuration) (stage : BuildStage) : Builder :=
  { b with configuration := b.active given, stage := stage }

/-- The entry script of a build, as it is written. -/
def entryScript (b : Builder) (given : Option Configuration) : ByteArray :=
  ((b.active given).script b.style).toUTF8

/-! ## What is reported on the way -/

/-- The records of a build that is refused for its configuration. -/
def refusal (b : Builder) : List LogRecord :=
  [.stageEntered b.stage .validating, .stageEntered .validating .failed]

/-- With debugging on, the paths of a build are reported. -/
def announcement (c : Configuration) (paths : BuildPaths) : List LogRecord :=
  if c.debug then [.baseDirectory paths.baseDir, .tempPath paths.temp, .targetPath paths.target]
  else []

/-- The records until the entry script is written. -/
def preparation (b : Builder) (given : Option Configuration) (paths : BuildPaths) :
    List LogRecord :=
  [.stageEntered b.stage .validating] ++ announcement (b.active given) paths
    ++ [.stageEntered .validating .generating, .stageEntered .generating .writingTemp]

/-- The records until the bundler has answered; `told` are its own. -/
def waiting (b : Builder) (given : Option Configuration) (paths : BuildPaths)
    (told : List LogRecord) : List LogRecord :=
  b.preparation given paths ++ [.stageEntered .writingTemp .bundling] ++ told

/-- The records after the bundle is written; `left` is the cause for which the temporary file could
not be removed. -/
def farewell (c : Configuration) (paths : BuildPaths) (left : Option IoError) : List LogRecord :=
  if c.debug then [.tempKept paths.temp, .stageEntered .writingFinal .done]
  else
    [.stageEntered .writingFinal .cleaningUp]
      ++ left.toList.map (fun e => .tempNotRemoved paths.temp e)
      ++ [.stageEntered .cleaningUp .done]

/-! ## What the host answers -/

/-- What waiting for a bundler comes to: a bundle or an error, or nothing if there is no end to it,
and what the bundler reported in its answer. -/
def verdict : Await BundlerAnswer → Option (Except BundlerError ByteArray) × List LogRecord
  | .unending => (none, [])
  | .timedOut limit => (some (.error (.timeout limit)), [])
  | .answered answer => (some answer.outcome, answer.log)

/-- The configuration of a build is accepted, and it names a bundle. -/
structure Prepared (cwd : Path) (b : Builder) (given : Option Configuration)
    (paths : BuildPaths) : Prop where
  accepted : ∀ c, given = some c → c.check = .ok ()
  resolved : BuildPaths.resolve cwd (b.active given) = .ok paths

/-- The host wrote the entry script and called the bundler, which came to `result`. -/
def Called (host : BuildHost σ) (b : Builder) (given : Option Configuration) (paths : BuildPaths)
    (w : σ) (result : Option (Except BundlerError ByteArray)) (told : List LogRecord) (w₁ : σ) :
    Prop :=
  ∃ v call, host.write paths.temp (b.entryScript given) w = (.ok (), v) ∧
    host.bundle paths.temp (some standaloneName) v = (call, w₁) ∧
    result = (verdict (call.reply.within b.timeout)).1 ∧
    told = call.log ++ (verdict (call.reply.within b.timeout)).2

/-- The host removed the temporary file, or could not for the cause `left`, or was not asked to. -/
def Cleaned (host : BuildHost σ) (c : Configuration) (paths : BuildPaths) (w : σ)
    (left : Option IoError) (w₁ : σ) : Prop :=
  if c.debug then left = none ∧ w₁ = w
  else
    match left with
    | none => host.remove paths.temp w = (.ok (), w₁)
    | some e => host.remove paths.temp w = (.error e, w₁)

/-- A removal is asked for unless debugging is on, and the world is then left as it leaves it. -/
theorem Cleaned.world_eq {host : BuildHost σ} {c : Configuration} {paths : BuildPaths} {w w₁ : σ}
    {left : Option IoError} (h : Cleaned host c paths w left w₁) :
    w₁ = if c.debug then w else (host.remove paths.temp w).2 := by
  unfold Cleaned at h
  split at h
  · rename_i hdebug
    rw [if_pos hdebug, h.2]
  · rename_i hdebug
    rw [if_neg hdebug]
    cases left <;> exact (congrArg Prod.snd h).symm

/-- Where a build can stop, with what the host answered until then and what is left. -/
inductive Course (host : BuildHost σ) (cwd : Path) (b : Builder) (given : Option Configuration)
    (w : σ) : BuildOutcome → BuildRun σ → Prop
  /-- The configuration that was given is refused. -/
  | refused (c : Configuration) (e : ConfigurationError) (hgiven : given = some c)
      (hcheck : c.check = .error e) :
      Course host cwd b given w (.failed (.configuration e))
        ⟨{ b with stage := .failed }, w, b.refusal⟩
  /-- The configuration names no bundle. -/
  | unnamed (e : ConfigurationError) (haccepted : ∀ c, given = some c → c.check = .ok ())
      (hresolve : BuildPaths.resolve cwd (b.active given) = .error e) :
      Course host cwd b given w (.failed (.configuration e))
        ⟨b.during given .failed, w, b.refusal⟩
  /-- The entry script cannot be written. -/
  | scriptUnwritten (paths : BuildPaths) (e : IoError) (w₁ : σ)
      (hprepared : Prepared cwd b given paths)
      (hwrite : host.write paths.temp (b.entryScript given) w = (.error e, w₁)) :
      Course host cwd b given w (.failed (.filesystem .writingTemp paths.temp e))
        ⟨b.during given .failed, w₁,
          b.preparation given paths ++ [.stageEntered .writingTemp .failed]⟩
  /-- The bundler never answers and nothing stops the wait. -/
  | unanswered (paths : BuildPaths) (told : List LogRecord) (w₁ : σ)
      (hprepared : Prepared cwd b given paths)
      (hcalled : Called host b given paths w none told w₁) :
      Course host cwd b given w .unending
        ⟨b.during given .bundling, w₁, b.waiting given paths told⟩
  /-- The bundler fails, or does not answer in time. -/
  | unbundled (paths : BuildPaths) (e : BundlerError) (told : List LogRecord) (w₁ : σ)
      (hprepared : Prepared cwd b given paths)
      (hcalled : Called host b given paths w (some (.error e)) told w₁) :
      Course host cwd b given w (.failed (.bundler e))
        ⟨b.during given .failed, w₁,
          b.waiting given paths told
            ++ [.tempNotBundled paths.temp, .stageEntered .bundling .failed]⟩
  /-- The bundle cannot be written. -/
  | bundleUnwritten (paths : BuildPaths) (contents : ByteArray) (told : List LogRecord)
      (e : IoError) (w₁ w₂ : σ)
      (hprepared : Prepared cwd b given paths)
      (hcalled : Called host b given paths w (some (.ok contents)) told w₁)
      (hwrite : host.write paths.target contents w₁ = (.error e, w₂)) :
      Course host cwd b given w (.failed (.filesystem .writingFinal paths.target e))
        ⟨b.during given .failed, w₂,
          b.waiting given paths told
            ++ [.stageEntered .bundling .writingFinal, .stageEntered .writingFinal .failed]⟩
  /-- The bundle is written, and the temporary file is dealt with. -/
  | finished (paths : BuildPaths) (contents : ByteArray) (told : List LogRecord)
      (left : Option IoError) (w₁ w₂ w₃ : σ)
      (hprepared : Prepared cwd b given paths)
      (hcalled : Called host b given paths w (some (.ok contents)) told w₁)
      (hwrite : host.write paths.target contents w₁ = (.ok (), w₂))
      (hcleaned : Cleaned host (b.active given) paths w₂ left w₃) :
      Course host cwd b given w
        (.built ⟨paths.target, paths.temp, (b.active given).debug || left.isSome, contents,
          Sha256.hex contents⟩)
        ⟨b.during given .done, w₃,
          b.waiting given paths told ++ [.stageEntered .bundling .writingFinal]
            ++ farewell (b.active given) paths left
            ++ [.bundleCreated paths.target contents.size]⟩

/-! ## Every build takes one of them -/

section Steps

variable (b : Builder) (given : Option Configuration) (w : σ) (log : List LogRecord)

@[simp] theorem enter_during (stage next : BuildStage) :
    BuildRun.enter ⟨b.during given stage, w, log⟩ next =
      ⟨b.during given next, w, log ++ [.stageEntered stage next]⟩ := rfl

@[simp] theorem fail_during (stage : BuildStage) (e : BuildError) :
    BuildRun.fail ⟨b.during given stage, w, log⟩ e =
      (.failed e, ⟨b.during given .failed, w, log ++ [.stageEntered stage .failed]⟩) := rfl

@[simp] theorem report_mk (records : List LogRecord) :
    BuildRun.report ⟨b, w, log⟩ records = ⟨b, w, log ++ records⟩ := rfl

@[simp] theorem note_mk (record : LogRecord) :
    BuildRun.note ⟨b, w, log⟩ record = ⟨b, w, log ++ [record]⟩ := rfl

@[simp] theorem withWorld_mk (v : σ) :
    BuildRun.withWorld ⟨b, w, log⟩ v = ⟨b, v, log⟩ := rfl

@[simp] theorem during_configuration (stage : BuildStage) :
    (b.during given stage).configuration = b.active given := rfl

@[simp] theorem during_timeout (stage : BuildStage) :
    (b.during given stage).timeout = b.timeout := rfl

@[simp] theorem during_style (stage : BuildStage) :
    (b.during given stage).style = b.style := rfl

@[simp] theorem toByteArray_script :
    ((b.active given).script b.style).toByteArray = b.entryScript given := rfl

end Steps

variable {host : BuildHost σ} {cwd : Path} {b : Builder} {given : Option Configuration}
  {paths : BuildPaths} {w : σ}

/-- Cleaning up leaves the world as the host says, and nothing else depends on the answer. -/
theorem cleanUp_cleaned (host : BuildHost σ) (b : Builder) (given : Option Configuration)
    (paths : BuildPaths) (w : σ) (log : List LogRecord) :
    let stop := cleanUp host paths ⟨b.during given .writingFinal, w, log⟩
    ∃ left w₁, Cleaned host (b.active given) paths w left w₁ ∧
      stop.1 = ((b.active given).debug || left.isSome) ∧
      stop.2.enter .done =
        ⟨b.during given .done, w₁, log ++ farewell (b.active given) paths left⟩ := by
  intro stop
  unfold Cleaned farewell
  cases hdebug : (b.active given).debug with
  | true =>
      have hstop : stop =
          (true, ⟨b.during given .writingFinal, w, log ++ [.tempKept paths.temp]⟩) := by
        simp [stop, cleanUp, hdebug]
      exact ⟨none, w, by simp, by simp [hstop], by simp [hstop]⟩
  | false =>
      cases hremove : host.remove paths.temp w with
      | mk answer w₁ =>
          cases answer with
          | ok _ =>
              refine ⟨none, w₁, by simp, ?_, ?_⟩
              · simp [stop, cleanUp, hdebug, hremove]
              · simp [stop, cleanUp, hdebug, hremove]
          | error e =>
              refine ⟨some e, w₁, by simp, ?_, ?_⟩
              · simp [stop, cleanUp, hdebug, hremove]
              · simp [stop, cleanUp, hdebug, hremove]

/-- From the bundler's answer on. -/
theorem deliver_course {contents : ByteArray} {told : List LogRecord} {w₁ : σ}
    (hprepared : Prepared cwd b given paths)
    (hcalled : Called host b given paths w (some (.ok contents)) told w₁) :
    let stop := deliver host paths contents
      ⟨b.during given .bundling, w₁, b.waiting given paths told⟩
    Course host cwd b given w stop.1 stop.2 := by
  intro stop
  cases hwrite : host.write paths.target contents w₁ with
  | mk answer w₂ =>
      cases answer with
      | error e =>
          have hstop := Course.bundleUnwritten paths contents told e w₁ w₂ hprepared hcalled hwrite
          simpa [stop, deliver, hwrite] using hstop
      | ok _ =>
          obtain ⟨left, w₃, hcleaned, hretained, hrest⟩ :=
            cleanUp_cleaned host b given paths w₂
              (b.waiting given paths told ++ [.stageEntered .bundling .writingFinal])
          have hstop := Course.finished paths contents told left w₁ w₂ w₃ hprepared hcalled
            hwrite hcleaned
          simpa [stop, deliver, hwrite, hretained, hrest] using hstop

/-- From the written entry script on. -/
theorem bundle_course {v : σ} (hprepared : Prepared cwd b given paths)
    (hwrite : host.write paths.temp (b.entryScript given) w = (.ok (), v)) :
    let stop := bundle host paths ⟨b.during given .writingTemp, v, b.preparation given paths⟩
    Course host cwd b given w stop.1 stop.2 := by
  intro stop
  cases hbundle : host.bundle paths.temp (some standaloneName) v with
  | mk call w₁ =>
      have hcalled : Called host b given paths w (verdict (call.reply.within b.timeout)).1
          (call.log ++ (verdict (call.reply.within b.timeout)).2) w₁ :=
        ⟨v, call, hwrite, hbundle, rfl, rfl⟩
      cases hawait : call.reply.within b.timeout with
      | unending =>
          rw [hawait] at hcalled
          have hstop := Course.unanswered paths _ w₁ hprepared hcalled
          simpa [stop, bundle, hbundle, hawait, verdict, waiting] using hstop
      | timedOut limit =>
          rw [hawait] at hcalled
          have hstop := Course.unbundled paths _ _ w₁ hprepared hcalled
          simpa [stop, bundle, hbundle, hawait, keepTemp, verdict, waiting] using hstop
      | answered answer =>
          rw [hawait] at hcalled
          cases houtcome : answer.outcome with
          | error e =>
              rw [verdict, houtcome] at hcalled
              have hstop := Course.unbundled paths _ _ w₁ hprepared hcalled
              simpa [stop, bundle, hbundle, hawait, houtcome, keepTemp, waiting] using hstop
          | ok contents =>
              rw [verdict, houtcome] at hcalled
              have hstop := deliver_course hprepared hcalled
              simpa [stop, bundle, hbundle, hawait, houtcome, waiting] using hstop

/-- From the paths on. -/
theorem produce_course (host : BuildHost σ) (w : σ) (hprepared : Prepared cwd b given paths) :
    let stop := produce host paths
      ⟨b.during given .validating, w, [.stageEntered b.stage .validating]⟩
    Course host cwd b given w stop.1 stop.2 := by
  intro stop
  have hannounce : announce paths
      ⟨b.during given .validating, w, [.stageEntered b.stage .validating]⟩ =
      ⟨b.during given .validating, w,
        [.stageEntered b.stage .validating] ++ announcement (b.active given) paths⟩ := by
    unfold announce announcement
    split <;> simp_all
  cases hwrite : host.write paths.temp (b.entryScript given) w with
  | mk answer v =>
      cases answer with
      | error e =>
          have hstop := Course.scriptUnwritten paths e v hprepared hwrite
          simpa [stop, produce, hannounce, hwrite, preparation] using hstop
      | ok _ =>
          have hstop := bundle_course hprepared hwrite
          simpa [stop, produce, hannounce, hwrite, preparation] using hstop

/-- An accepted configuration replaces the one that is kept. -/
theorem adopt_validating (b : Builder) (haccepted : ∀ c, given = some c → c.check = .ok ()) :
    ({ b with stage := .validating } : Builder).adopt given =
      .ok (b.during given .validating) := by
  cases given with
  | none => rfl
  | some c => simp [adopt, configure, haccepted c rfl, during, active]

/-- **The courses of a build.** -/
theorem build_course (host : BuildHost σ) (cwd : Path) (b : Builder)
    (given : Option Configuration) (w : σ) :
    Course host cwd b given w (b.build host cwd given w).1 (b.build host cwd given w).2 := by
  by_cases haccepted : ∀ c, given = some c → c.check = .ok ()
  · have hadopt := adopt_validating b haccepted
    cases hresolve : BuildPaths.resolve cwd (b.active given) with
    | error e =>
        have hstop : Course host cwd b given w _ _ := .unnamed e haccepted hresolve
        simpa [build, BuildRun.enter, BuildRun.note, BuildRun.report, hadopt, hresolve,
          refusal] using hstop
    | ok paths =>
        have hstop := produce_course host w ⟨haccepted, hresolve⟩
        simpa [build, BuildRun.enter, BuildRun.note, BuildRun.report, hadopt, hresolve] using hstop
  · obtain ⟨c, rfl, hc⟩ : ∃ c, given = some c ∧ c.check ≠ .ok () := by
      simpa only [Classical.not_forall, exists_prop] using haccepted
    cases hcheck : c.check with
    | error e =>
        have hstop : Course host cwd b (some c) w _ _ := .refused c e rfl hcheck
        simpa [build, adopt, configure, BuildRun.enter, BuildRun.fail, hcheck, refusal] using hstop
    | ok _ => exact absurd hcheck hc

end Builder
end PluginBundle
