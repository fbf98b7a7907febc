import PluginBundle.Build.Builder
import PluginBundle.Proofs.Files.Joining

/-!
# Builds that differ in their base directory

A build reads the base directory only to find its paths.  So two builds whose configurations differ
in the base directory alone, but lead to the same paths, take the same course: `build_withBase` says
that they come to the same end, leave the same world and report the same.

The two may also call different bundlers, as long as both give the same answer to the one call that
a build makes.  No law relates the builders that are left, since each keeps its own configuration.
-/

namespace PluginBundle

/-- The configuration with another base directory. -/
def Configuration.withBase (c : Configuration) (dir : Option Path) : Configuration :=
  { c with baseDir := dir }

@[simp] theorem Configuration.check_withBase (c : Configuration) (dir : Option Path) :
    (c.withBase dir).check = c.check := rfl

@[simp] theorem Configuration.script_withBase (c : Configuration) (dir : Option Path)
    (style : ImportStyle) : (c.withBase dir).script style = c.script style := rfl

/-- An absolute base directory is the same from everywhere. -/
theorem BuildPaths.baseOf_withBase {dir : Path} (hdir : dir.isAbsolute = true) (cwd : Path)
    (c : Configuration) : baseOf cwd (c.withBase (some dir)) = dir := by
  simp [baseOf, Configuration.baseDir?, Configuration.withBase, Path.isEmpty_of_isAbsolute hdir,
    hdir]

/-- The working directory written out is the base directory that an unset one stands for. -/
theorem BuildPaths.resolve_withBase_cwd {cwd : Path} (hcwd : cwd.isAbsolute = true)
    {c : Configuration} (hunset : c.baseDir? = none) :
    BuildPaths.resolve cwd (c.withBase (some cwd)) = BuildPaths.resolve cwd c := by
  have hsame : baseOf cwd c = cwd := by simp [baseOf, hunset]
  unfold resolve
  rw [baseOf_withBase hcwd, hsame]
  rfl

/-- The builder with another base directory in its configuration. -/
def Builder.withBase (b : Builder) (dir : Option Path) : Builder :=
  { b with configuration := b.configuration.withBase dir }

/-- The build under way with another base directory. -/
def BuildRun.withBase {σ : Type} (r : BuildRun σ) (dir : Option Path) : BuildRun σ :=
  { r with builder := r.builder.withBase dir }

/-- The host with another bundler. -/
def BuildHost.calling {σ : Type} (host : BuildHost σ)
    (call : Path → Option String → σ → BundlerCall × σ) : BuildHost σ :=
  { host with bundle := call }

/-! ## The steps of a build -/

namespace BuildRun

variable {σ : Type} (r : BuildRun σ) (dir : Option Path)

@[simp] theorem world_enter (stage : BuildStage) : (r.enter stage).world = r.world := rfl

@[simp] theorem withBase_debug :
    (r.withBase dir).builder.configuration.debug = r.builder.configuration.debug := rfl

@[simp] theorem withBase_timeout : (r.withBase dir).builder.timeout = r.builder.timeout := rfl

@[simp] theorem withBase_world : (r.withBase dir).world = r.world := rfl

@[simp] theorem report_withBase (records : List LogRecord) :
    (r.withBase dir).report records = (r.report records).withBase dir := rfl

@[simp] theorem note_withBase (record : LogRecord) :
    (r.withBase dir).note record = (r.note record).withBase dir := rfl

@[simp] theorem enter_withBase (stage : BuildStage) :
    (r.withBase dir).enter stage = (r.enter stage).withBase dir := rfl

@[simp] theorem withWorld_withBase (world : σ) :
    (r.withBase dir).withWorld world = (r.withWorld world).withBase dir := rfl

@[simp] theorem fail_withBase (error : BuildError) :
    (r.withBase dir).fail error = ((r.fail error).1, (r.fail error).2.withBase dir) := rfl

end BuildRun

namespace Builder

variable {σ : Type} (host : BuildHost σ) (call : Path → Option String → σ → BundlerCall × σ)
  (paths : BuildPaths) (dir : Option Path) (r : BuildRun σ)

theorem announce_withBase :
    announce paths (r.withBase dir) = (announce paths r).withBase dir := by
  unfold announce
  cases hdebug : r.builder.configuration.debug <;> simp [hdebug]

theorem cleanUp_withBase :
    cleanUp (host.calling call) paths (r.withBase dir) =
      ((cleanUp host paths r).1, (cleanUp host paths r).2.withBase dir) := by
  cases hdebug : r.builder.configuration.debug with
  | true => simp [cleanUp, hdebug]
  | false =>
      have hsame : (host.calling call).remove = host.remove := rfl
      cases hremove : host.remove paths.temp r.world with
      | mk answer world => cases answer <;> simp [cleanUp, hdebug, hsame, hremove]

theorem deliver_withBase (contents : ByteArray) :
    deliver (host.calling call) paths contents (r.withBase dir) =
      ((deliver host paths contents r).1, (deliver host paths contents r).2.withBase dir) := by
  have hsame : (host.calling call).write = host.write := rfl
  cases hwrite : host.write paths.target contents r.world with
  | mk answer world =>
      cases answer with
      | error e => simp [deliver, hsame, hwrite]
      | ok _ => simp [deliver, hsame, hwrite, cleanUp_withBase]

theorem bundle_withBase
    (hcall : call paths.temp (some standaloneName) r.world =
      host.bundle paths.temp (some standaloneName) r.world) :
    bundle (host.calling call) paths (r.withBase dir) =
      ((bundle host paths r).1, (bundle host paths r).2.withBase dir) := by
  cases hbundle : host.bundle paths.temp (some standaloneName) r.world with
  | mk told world =>
      have hcalled : (host.calling call).bundle paths.temp (some standaloneName) r.world =
          (told, world) := hcall.trans hbundle
      have htimeout : (((r.enter .bundling).withWorld world).report told.log).builder.timeout =
          r.builder.timeout := rfl
      -- Both wait for the same reply with the same limit, and go on from the same answer.
      cases hreply : told.reply.within r.builder.timeout with
      | unending => simp [bundle, hcalled, hbundle, htimeout, hreply]
      | timedOut limit => simp [bundle, hcalled, hbundle, htimeout, hreply, keepTemp]
      | answered answer =>
          cases houtcome : answer.outcome with
          | error e => simp [bundle, hcalled, hbundle, htimeout, hreply, houtcome, keepTemp]
          | ok contents =>
              simp [bundle, hcalled, hbundle, htimeout, hreply, houtcome, deliver_withBase]

/-- The entry script of the configuration that a build works with. -/
def scriptBytes (b : Builder) : ByteArray := (b.configuration.script b.style).toUTF8

/-- A build that is about to write the entry script. -/
def readied (paths : BuildPaths) (r : BuildRun σ) : BuildRun σ :=
  ((announce paths r).enter .generating).enter .writingTemp

/-- What is told beforehand changes neither the script nor the world. -/
theorem produce_eq :
    produce host paths r =
      match host.write paths.temp r.builder.scriptBytes r.world with
      | (.error e, world) =>
          ((readied paths r).withWorld world).fail (.filesystem .writingTemp paths.temp e)
      | (.ok (), world) => bundle host paths ((readied paths r).withWorld world) := by
  unfold produce readied scriptBytes announce
  split <;> rfl

theorem produce_withBase
    (hcall : ∀ v, host.write paths.temp r.builder.scriptBytes r.world = (.ok (), v) →
      call paths.temp (some standaloneName) v = host.bundle paths.temp (some standaloneName) v) :
    produce (host.calling call) paths (r.withBase dir) =
      ((produce host paths r).1, (produce host paths r).2.withBase dir) := by
  have hreadied : readied paths (r.withBase dir) = (readied paths r).withBase dir := by
    simp [readied, announce_withBase]
  have hwritten : (host.calling call).write paths.temp (r.withBase dir).builder.scriptBytes =
      host.write paths.temp r.builder.scriptBytes := rfl
  rw [produce_eq, produce_eq, hreadied, hwritten, BuildRun.withBase_world]
  cases hwrite : host.write paths.temp r.builder.scriptBytes r.world with
  | mk answer world =>
      cases answer with
      | error e => simp
      | ok _ =>
          exact bundle_withBase host call paths dir ((readied paths r).withWorld world)
            (hcall world hwrite)

/-- A build at its start. -/
def opened (b : Builder) (w : σ) : BuildRun σ := BuildRun.enter ⟨b, w, []⟩ .validating

/-- A configuration that is refused is not kept. -/
theorem build_of_refused (cwd : Path) (b : Builder) {c : Configuration} {e : ConfigurationError}
    (h : c.check = .error e) (w : σ) :
    build host cwd b (some c) w = (opened b w).fail (.configuration e) := by
  simp [build, adopt, configure, h, opened]

/-- A configuration that is accepted is kept, and the paths decide whether the build goes on. -/
theorem build_of_accepted (cwd : Path) (b : Builder) {c : Configuration} (h : c.check = .ok ())
    (w : σ) :
    build host cwd b (some c) w =
      match BuildPaths.resolve cwd c with
      | .error e => (opened { b with configuration := c } w).fail (.configuration e)
      | .ok paths => produce host paths (opened { b with configuration := c } w) := by
  simp only [build, adopt, configure, BuildRun.enter, BuildRun.note, BuildRun.report, h]
  rfl

/-- **The base directory is read for the paths only.**  Two builds whose configurations lead to the
same paths, and whose bundlers give the same answer for the entry script once it is written, come
to the same end, leave the same world and report the same. -/
theorem build_withBase {cwd : Path} (b : Builder) {c : Configuration} {w : σ}
    (hresolve : BuildPaths.resolve cwd (c.withBase dir) = BuildPaths.resolve cwd c)
    (hcall : ∀ (paths : BuildPaths) v,
      host.write paths.temp (c.script b.style).toUTF8 w = (.ok (), v) →
        call paths.temp (some standaloneName) v =
          host.bundle paths.temp (some standaloneName) v) :
    let stop := build host cwd b (some c) w
    let stop' := build (host.calling call) cwd b (some (c.withBase dir)) w
    stop'.1 = stop.1 ∧ stop'.2.world = stop.2.world ∧ stop'.2.log = stop.2.log := by
  intro stop stop'
  have hkept := c.check_withBase dir
  cases hcheck : c.check with
  | error e =>
      have hstop : stop = (opened b w).fail (.configuration e) :=
        build_of_refused host cwd b hcheck w
      have hstop' : stop' = (opened b w).fail (.configuration e) :=
        build_of_refused (host.calling call) cwd b (hkept.trans hcheck) w
      rw [hstop, hstop']
      exact ⟨rfl, rfl, rfl⟩
  | ok _ =>
      have hstop : stop = _ := build_of_accepted host cwd b hcheck w
      have hstop' : stop' = _ :=
        build_of_accepted (host.calling call) cwd b (hkept.trans hcheck) w
      rw [hresolve] at hstop'
      cases hpaths : BuildPaths.resolve cwd c with
      | error e =>
          rw [hpaths] at hstop hstop'
          rw [hstop, hstop']
          exact ⟨rfl, rfl, rfl⟩
      | ok paths =>
          have hproduce := produce_withBase host call paths dir
            (opened { b with configuration := c } w) (hcall paths)
          rw [hpaths] at hstop hstop'
          rw [hstop, hstop'.trans hproduce]
          exact ⟨rfl, rfl, rfl⟩

end Builder
end PluginBundle
