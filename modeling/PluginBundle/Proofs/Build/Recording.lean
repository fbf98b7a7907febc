import PluginBundle.Proofs.Build.Effects
import PluginBundle.Proofs.Build.Placement

/-!
# Builds whose calls are recorded

A host of real files shows what became of them, but not which calls a build made.  `recording` puts a
record of the calls around any host.  Two facts make such a record useful:

* `build_view` – a build cannot tell that it is recorded.  This holds of any world that is looked at
  through a function, as long as the hosts on both sides agree through it.
* `record_of_course` – what the record of a build holds, read off the course that the build took: no
  call, or first the entry script, written to a path to which nothing else is written.

The record says of a write whether it succeeded.  Where it failed, part of the file may be there.
-/

namespace PluginBundle

variable {σ τ : Type}

/-! ## Worlds looked at through a function -/

/-- The build under way, with its world looked at through `f`. -/
def BuildRun.view (f : τ → σ) (r : BuildRun τ) : BuildRun σ := ⟨r.builder, f r.world, r.log⟩

namespace BuildHost

/-- Looked at through `f`, the world of `outer` is that of `inner`, and both answer the same. -/
structure Views (f : τ → σ) (outer : BuildHost τ) (inner : BuildHost σ) : Prop where
  write (p : Path) (contents : ByteArray) (w : τ) :
    inner.write p contents (f w) = (outer.write p contents w).map id f
  remove (p : Path) (w : τ) : inner.remove p (f w) = (outer.remove p w).map id f
  bundle (entry : Path) (standalone : Option String) (w : τ) :
    inner.bundle entry standalone (f w) = (outer.bundle entry standalone w).map id f

/-- The host that passes every call on and keeps a record of it. -/
def recording (host : BuildHost σ) : BuildHost (σ × List Effect) where
  write p contents w :=
    let (answer, world) := host.write p contents w.1
    (answer, world, w.2 ++ [.write p contents answer.isOk])
  remove p w :=
    let (answer, world) := host.remove p w.1
    (answer, world, w.2 ++ [.remove p answer.isOk])
  bundle entry standalone w :=
    let (call, world) := host.bundle entry standalone w.1
    (call, world, w.2 ++ [.bundle entry standalone])

/-- Without its record, the host is the one that it records. -/
theorem recording_views (host : BuildHost σ) : Views Prod.fst host.recording host :=
  ⟨fun _ _ _ => rfl, fun _ _ => rfl, fun _ _ _ => rfl⟩

/-! ### The answers of the recording host -/

variable {host : BuildHost σ} {p : Path} {w w' : σ × List Effect} {answer : Except IoError Unit}

theorem recording_write {contents : ByteArray}
    (h : host.recording.write p contents w = (answer, w')) :
    (host.write p contents w.1).1 = answer ∧ w'.2 = w.2 ++ [.write p contents answer.isOk] := by
  obtain ⟨rfl, rfl⟩ := Prod.mk.inj h
  exact ⟨rfl, rfl⟩

theorem recording_remove (h : host.recording.remove p w = (answer, w')) :
    w'.2 = w.2 ++ [.remove p answer.isOk] := by
  obtain ⟨rfl, rfl⟩ := Prod.mk.inj h
  rfl

theorem recording_bundle {entry : Path} {standalone : Option String} {call : BundlerCall}
    (h : host.recording.bundle entry standalone w = (call, w')) :
    w'.2 = w.2 ++ [.bundle entry standalone] := by
  obtain ⟨-, rfl⟩ := Prod.mk.inj h
  rfl

end BuildHost

namespace BuildRun

variable (f : τ → σ) (r : BuildRun τ)

@[simp] theorem view_builder : (r.view f).builder = r.builder := rfl

@[simp] theorem view_world : (r.view f).world = f r.world := rfl

@[simp] theorem report_view (records : List LogRecord) :
    (r.view f).report records = (r.report records).view f := rfl

@[simp] theorem note_view (record : LogRecord) :
    (r.view f).note record = (r.note record).view f := rfl

@[simp] theorem enter_view (stage : BuildStage) :
    (r.view f).enter stage = (r.enter stage).view f := rfl

@[simp] theorem withWorld_view (world : τ) :
    (r.view f).withWorld (f world) = (r.withWorld world).view f := rfl

@[simp] theorem fail_view (error : BuildError) :
    (r.view f).fail error = (r.fail error).map id (view f) := rfl

end BuildRun

namespace Builder

/-- What a build does before it writes depends on its configuration and not on its host. -/
theorem build_eq (host : BuildHost σ) (cwd : Path) (b : Builder) (given : Option Configuration)
    (w : σ) :
    b.build host cwd given w =
      match ({ b with stage := .validating } : Builder).adopt given with
      | .error e => (opened b w).fail (.configuration e)
      | .ok kept =>
          match BuildPaths.resolve cwd kept.configuration with
          | .error e => BuildRun.fail { opened b w with builder := kept } (.configuration e)
          | .ok paths => produce host paths { opened b w with builder := kept } := rfl

section View

variable {f : τ → σ} {outer : BuildHost τ} {inner : BuildHost σ}
  (h : BuildHost.Views f outer inner) (paths : BuildPaths) (r : BuildRun τ)

include h

theorem cleanUp_view :
    cleanUp inner paths (r.view f) = (cleanUp outer paths r).map id (BuildRun.view f) := by
  cases hdebug : r.builder.configuration.debug with
  | true => simp [cleanUp, hdebug]
  | false =>
      cases hremove : outer.remove paths.temp r.world with
      | mk answer world => cases answer <;> simp [cleanUp, hdebug, h.remove, hremove]

theorem deliver_view (contents : ByteArray) :
    deliver inner paths contents (r.view f) =
      (deliver outer paths contents r).map id (BuildRun.view f) := by
  cases hwrite : outer.write paths.target contents r.world with
  | mk answer world =>
      cases answer with
      | error e => simp [deliver, h.write, hwrite]
      | ok _ => simp [deliver, h.write, hwrite, cleanUp_view h]

theorem bundle_view :
    bundle inner paths (r.view f) = (bundle outer paths r).map id (BuildRun.view f) := by
  cases hbundle : outer.bundle paths.temp (some standaloneName) r.world with
  | mk told world =>
      have htimeout : (((r.enter .bundling).withWorld world).report told.log).builder.timeout =
          r.builder.timeout := rfl
      cases hreply : told.reply.within r.builder.timeout with
      | unending => simp [bundle, h.bundle, hbundle, htimeout, hreply]
      | timedOut limit => simp [bundle, h.bundle, hbundle, htimeout, hreply, keepTemp]
      | answered answer =>
          cases houtcome : answer.outcome with
          | error e => simp [bundle, h.bundle, hbundle, htimeout, hreply, houtcome, keepTemp]
          | ok contents =>
              simp [bundle, h.bundle, hbundle, htimeout, hreply, houtcome, deliver_view h]

theorem produce_view :
    produce inner paths (r.view f) = (produce outer paths r).map id (BuildRun.view f) := by
  have hreadied : readied paths (r.view f) = (readied paths r).view f := by
    unfold readied announce
    split <;> simp_all
  rw [produce_eq, produce_eq, hreadied, BuildRun.view_builder, BuildRun.view_world, h.write]
  cases hwrite : outer.write paths.temp r.builder.scriptBytes r.world with
  | mk answer world =>
      cases answer with
      | error e => simp
      | ok _ => exact bundle_view h paths ((readied paths r).withWorld world)

/-- A build in a world that is looked at through a function comes to the same end, and leaves what is
seen through it of the world that the other one leaves. -/
theorem build_view (cwd : Path) (b : Builder) (given : Option Configuration) (w : τ) :
    b.build inner cwd given (f w) = (b.build outer cwd given w).map id (BuildRun.view f) := by
  have hstart : opened b (f w) = (opened b w).view f := rfl
  rw [build_eq, build_eq, hstart]
  cases ({ b with stage := .validating } : Builder).adopt given with
  | error e => rfl
  | ok kept =>
      dsimp only
      cases BuildPaths.resolve cwd kept.configuration with
      | error e => rfl
      | ok paths => exact produce_view h paths { opened b w with builder := kept }

end View

/-! ## What a record holds -/

section Record

variable {host : BuildHost σ} {cwd : Path} {b : Builder} {given : Option Configuration}
  {paths : BuildPaths} {w : σ}

/-- The calls begin with a write to a path, and hold no other write to it. -/
def WritesOnce (p : Path) (contents : ByteArray) (done : Bool) (calls : List Effect) : Prop :=
  ∃ rest, calls = .write p contents done :: rest ∧ ∀ other again, .write p other again ∉ rest

/-- The path and the success of the write that calls begin with. -/
def firstWrite? : List Effect → Option (Path × Bool)
  | .write p _ done :: _ => some (p, done)
  | _ => none

theorem WritesOnce.firstWrite?_eq {p : Path} {contents : ByteArray} {done : Bool}
    {calls : List Effect} (h : WritesOnce p contents done calls) :
    firstWrite? calls = some (p, done) := by
  obtain ⟨rest, rfl, -⟩ := h
  rfl

/-- Once the bundler is called, the record holds the entry script and that call. -/
theorem record_of_called {result : Option (Except BundlerError ByteArray)}
    {told : List LogRecord} {w₁ : σ × List Effect}
    (h : Called host.recording b given paths (w, []) result told w₁) :
    (host.write paths.temp (b.entryScript given) w).1 = .ok () ∧
      w₁.2 = [.write paths.temp (b.entryScript given) true,
        .bundle paths.temp (some standaloneName)] := by
  obtain ⟨v, call, hwrite, hbundle, -⟩ := h
  obtain ⟨hanswer, hv⟩ := BuildHost.recording_write hwrite
  exact ⟨hanswer, by simp [BuildHost.recording_bundle hbundle, hv, Except.isOk, Except.toBool]⟩

/-- Cleaning up adds at most the removal. -/
theorem record_of_cleaned {c : Configuration} {left : Option IoError} {v v₁ : σ × List Effect}
    (h : Cleaned host.recording c paths v left v₁) :
    ∃ removals, v₁.2 = v.2 ++ removals ∧
      ∀ p contents done, Effect.write p contents done ∉ removals := by
  unfold Cleaned at h
  split at h
  · exact ⟨[], by simp [h.2], by simp⟩
  · split at h
    · exact ⟨[.remove paths.temp true], BuildHost.recording_remove h, by simp⟩
    · exact ⟨[.remove paths.temp false], BuildHost.recording_remove h, by simp⟩

/-- **The record of a build.**  A build that comes to no call leaves its world as it was, and fails
for its configuration.  Any other build has its paths, writes the entry script first and writes
nothing else to the temporary file. -/
theorem record_of_course {outcome : BuildOutcome} {run : BuildRun (σ × List Effect)}
    (h : Course host.recording cwd b given (w, []) outcome run) :
    (run.world = (w, []) ∧ ∃ e, outcome = .failed (.configuration e)) ∨
      ∃ paths, Prepared cwd b given paths ∧
        WritesOnce paths.temp (b.entryScript given)
          (host.write paths.temp (b.entryScript given) w).1.isOk run.world.2 := by
  cases h with
  | refused _ e _ _ => exact .inl ⟨rfl, e, rfl⟩
  | unnamed e _ _ => exact .inl ⟨rfl, e, rfl⟩
  | scriptUnwritten paths e w₁ hprepared hwrite =>
      obtain ⟨hanswer, hrecord⟩ := BuildHost.recording_write hwrite
      exact .inr ⟨paths, hprepared, [], by simp [hanswer, hrecord], by simp⟩
  | unanswered paths _ w₁ hprepared hcalled =>
      obtain ⟨hanswer, hrecord⟩ := record_of_called hcalled
      exact .inr ⟨paths, hprepared, _, by rw [hanswer]; exact hrecord, by simp⟩
  | unbundled paths _ _ w₁ hprepared hcalled =>
      obtain ⟨hanswer, hrecord⟩ := record_of_called hcalled
      exact .inr ⟨paths, hprepared, _, by rw [hanswer]; exact hrecord, by simp⟩
  | bundleUnwritten paths contents _ e w₁ w₂ hprepared hcalled hwrite =>
      obtain ⟨hanswer, hrecord⟩ := record_of_called hcalled
      obtain ⟨-, hbundle⟩ := BuildHost.recording_write hwrite
      have hother := temp_ne_target hprepared.resolved
      refine .inr ⟨paths, hprepared, [.bundle paths.temp (some standaloneName),
        .write paths.target contents false], ?_, by simp [hother]⟩
      simp [hbundle, hrecord, hanswer, Except.isOk, Except.toBool]
  | finished paths contents _ left w₁ w₂ w₃ hprepared hcalled hwrite hcleaned =>
      obtain ⟨hanswer, hrecord⟩ := record_of_called hcalled
      obtain ⟨-, hbundle⟩ := BuildHost.recording_write hwrite
      obtain ⟨removals, hremoved, hnowrite⟩ := record_of_cleaned hcleaned
      have hother := temp_ne_target hprepared.resolved
      refine .inr ⟨paths, hprepared, .bundle paths.temp (some standaloneName) ::
        .write paths.target contents true :: removals, ?_, by simp [hother, hnowrite]⟩
      simp [hremoved, hbundle, hrecord, hanswer, Except.isOk, Except.toBool]

end Record

end Builder
end PluginBundle
