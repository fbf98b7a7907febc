import PluginBundle.Build.Error
import PluginBundle.Build.Paths
import PluginBundle.Configuration.Validation
import PluginBundle.Script.Generate
import PluginBundle.Sha256

/-!
# Building a bundle

A builder keeps a configuration between builds. A build checks the configuration, writes the entry
script to a temporary file, has it bundled, writes the bundle and removes the temporary file. Files
and bundlers are reached through a host, of which nothing is assumed here; what a build does to
particular hosts is said by the modules that define them.
-/

namespace PluginBundle

/-- What a build reaches outside itself: files to write and remove, and a bundler to call. -/
structure BuildHost (σ : Type) where
  write : Path → ByteArray → σ → Except IoError Unit × σ
  remove : Path → σ → Except IoError Unit × σ
  bundle : Path → Option String → σ → BundlerCall × σ

/-- What is kept between builds. -/
structure Builder where
  configuration : Configuration
  style : ImportStyle
  timeout : Option Duration
  stage : BuildStage

/-- A builder that has done nothing yet. -/
def Builder.initial : Builder := ⟨.empty, .commonJs, none, .idle⟩

/-- A finished bundle. -/
structure Artifact where
  target : Path
  temp : Path
  /-- The temporary file was left where it is. -/
  tempRetained : Bool
  contents : ByteArray
  checksum : String

/-- How a build ends. Without a time limit it may wait for ever. -/
inductive BuildOutcome where
  | built (artifact : Artifact)
  | failed (error : BuildError)
  | unending

/-- A build under way: the builder, the world of its host, and what was reported so far. -/
structure BuildRun (σ : Type) where
  builder : Builder
  world : σ
  log : List LogRecord

namespace BuildRun

variable {σ : Type}

def report (r : BuildRun σ) (records : List LogRecord) : BuildRun σ :=
  { r with log := r.log ++ records }

def note (r : BuildRun σ) (record : LogRecord) : BuildRun σ := r.report [record]

/-- Goes on to a stage. -/
def enter (r : BuildRun σ) (stage : BuildStage) : BuildRun σ :=
  let told := r.note (.stageEntered r.builder.stage stage)
  { told with builder := { told.builder with stage := stage } }

def withWorld (r : BuildRun σ) (world : σ) : BuildRun σ := { r with world := world }

def fail (r : BuildRun σ) (error : BuildError) : BuildOutcome × BuildRun σ :=
  (.failed error, r.enter .failed)

end BuildRun

namespace Builder

variable {σ : Type}

/-- Keeps a configuration for later builds, if it is accepted. -/
def configure (b : Builder) (c : Configuration) : Except ConfigurationError Builder :=
  match c.check with
  | .error e => .error e
  | .ok () => .ok { b with configuration := c }

/-- Keeps the configuration that was given for a build, if one was. -/
def adopt (b : Builder) : Option Configuration → Except ConfigurationError Builder
  | none => .ok b
  | some c => b.configure c

/-- With debugging on, tells the paths of a build. -/
def announce (paths : BuildPaths) (r : BuildRun σ) : BuildRun σ :=
  if r.builder.configuration.debug then
    r.report [.baseDirectory paths.baseDir, .tempPath paths.temp, .targetPath paths.target]
  else r

/-- Removes the temporary file unless debugging is on. The result says whether it was left there; a
removal that fails is reported and does no more harm. -/
def cleanUp (host : BuildHost σ) (paths : BuildPaths) (r : BuildRun σ) : Bool × BuildRun σ :=
  if r.builder.configuration.debug then
    (true, r.note (.tempKept paths.temp))
  else
    let r := r.enter .cleaningUp
    -- The bundle is there by now, so the build succeeds in either case.
    match host.remove paths.temp r.world with
    | (.ok (), world) => (false, r.withWorld world)
    | (.error e, world) =>
        (true, (r.withWorld world).note (.tempNotRemoved paths.temp e))

/-- Writes the bundle and cleans up. -/
def deliver (host : BuildHost σ) (paths : BuildPaths) (contents : ByteArray) (r : BuildRun σ) :
    BuildOutcome × BuildRun σ :=
  let r := r.enter .writingFinal
  match host.write paths.target contents r.world with
  | (.error e, world) => (r.withWorld world).fail (.filesystem .writingFinal paths.target e)
  | (.ok (), world) =>
      let (retained, r) := cleanUp host paths (r.withWorld world)
      let r := (r.enter .done).note (.bundleCreated paths.target contents.size)
      (.built ⟨paths.target, paths.temp, retained, contents, Sha256.hex contents⟩, r)

/-- A bundler failed, so the temporary file is kept for a look at it. -/
def keepTemp (paths : BuildPaths) (error : BundlerError) (r : BuildRun σ) :
    BuildOutcome × BuildRun σ :=
  (r.note (.tempNotBundled paths.temp)).fail (.bundler error)

/-- Has the temporary file bundled, within the time limit of the builder. -/
def bundle (host : BuildHost σ) (paths : BuildPaths) (r : BuildRun σ) :
    BuildOutcome × BuildRun σ :=
  let r := r.enter .bundling
  let (call, world) := host.bundle paths.temp (some standaloneName) r.world
  let r := (r.withWorld world).report call.log
  match call.reply.within r.builder.timeout with
  | .unending => (.unending, r)
  | .timedOut limit => keepTemp paths (.timeout limit) r
  | .answered answer =>
      let r := r.report answer.log
      match answer.outcome with
      | .error e => keepTemp paths e r
      | .ok contents => deliver host paths contents r

/-- Writes the entry script and goes on from there. -/
def produce (host : BuildHost σ) (paths : BuildPaths) (r : BuildRun σ) :
    BuildOutcome × BuildRun σ :=
  let r := (announce paths r).enter .generating
  let source := r.builder.configuration.script r.builder.style
  let r := r.enter .writingTemp
  match host.write paths.temp source.toUTF8 r.world with
  | (.error e, world) => (r.withWorld world).fail (.filesystem .writingTemp paths.temp e)
  | (.ok (), world) => bundle host paths (r.withWorld world)

/-- Runs a build from a working directory, with the configuration that is given or else with the one
that is kept. -/
def build (host : BuildHost σ) (cwd : Path) (b : Builder) (given : Option Configuration)
    (world : σ) : BuildOutcome × BuildRun σ :=
  let r := BuildRun.enter ⟨b, world, []⟩ .validating
  match r.builder.adopt given with
  | .error e => r.fail (.configuration e)
  | .ok b =>
      -- From here on no failure takes the configuration back.
      let r := { r with builder := b }
      match BuildPaths.resolve cwd b.configuration with
      | .error e => r.fail (.configuration e)
      | .ok paths => produce host paths r

end Builder

end PluginBundle
