import PluginBundle.Build.Builder

/-!
# Sessions with a builder

A session is a sequence of calls of one builder. What a build does is only recorded, in order, and
what it meets is laid down beforehand: the files that cannot be written or removed, and the answer
of the bundler. So a session says by itself what every run of it does.
-/

namespace PluginBundle

/-- Something that a build did, or tried in vain. -/
inductive Effect where
  | write (path : Path) (contents : ByteArray) (done : Bool)
  | bundle (entry : Path) (standalone : Option String)
  | remove (path : Path) (done : Bool)

/-- What a build meets: the files that cannot be written or removed, and the bundler's answer. -/
structure Circumstances where
  refusesWrite : Path → Bool
  refusesRemove : Path → Bool
  reply : Reply (Except BundlerError ByteArray)

/-- The answer of a bundler that reports nothing. -/
def Reply.silent (reply : Reply (Except BundlerError ByteArray)) : Reply BundlerAnswer :=
  match reply with
  | .now outcome => .now ⟨outcome, []⟩
  | .later delay outcome => .later delay ⟨outcome, []⟩
  | .never => .never

/-- The host that keeps the effects so far, also those that it refuses. -/
def Circumstances.host (c : Circumstances) : BuildHost (List Effect) where
  write path contents effects :=
    if c.refusesWrite path then
      (.error (.denied "read-only"), effects ++ [.write path contents false])
    else (.ok (), effects ++ [.write path contents true])
  remove path effects :=
    if c.refusesRemove path then (.error (.denied "busy"), effects ++ [.remove path false])
    else (.ok (), effects ++ [.remove path true])
  bundle entry standalone effects := (⟨[], c.reply.silent⟩, effects ++ [.bundle entry standalone])

/-- One call of a builder. -/
inductive SessionStep where
  | configure (configuration : Configuration)
  | style (style : ImportStyle)
  | timeout (limit : Duration)
  | build (given : Option Configuration) (circumstances : Circumstances)

/-- What a call returns. -/
inductive StepResult where
  | accepted
  | refused (error : ConfigurationError)
  | finished (outcome : BuildOutcome)

/-- The builder after a call, what the call returned, did and reported. -/
structure StepReport where
  builder : Builder
  result : StepResult
  effects : List Effect
  log : List LogRecord

/-- Makes one call of a builder from a working directory. -/
def Builder.perform (cwd : Path) (b : Builder) : SessionStep → StepReport
  | .configure c =>
      match b.configure c with
      | .error e => ⟨b, .refused e, [], []⟩
      | .ok b => ⟨b, .accepted, [], []⟩
  | .style style => ⟨{ b with style := style }, .accepted, [], []⟩
  | .timeout limit => ⟨{ b with timeout := some limit }, .accepted, [], []⟩
  | .build given circumstances =>
      let (outcome, r) := b.build circumstances.host cwd given []
      ⟨r.builder, .finished outcome, r.world, r.log⟩

/-- The reports of the calls of a session, in order. -/
def Builder.performAll (cwd : Path) : Builder → List SessionStep → List StepReport
  | _, [] => []
  | b, step :: rest =>
      let report := b.perform cwd step
      report :: performAll cwd report.builder rest

end PluginBundle
