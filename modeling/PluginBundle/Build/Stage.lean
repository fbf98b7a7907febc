/-!
# The stages of a build
-/

namespace PluginBundle

/-- Where a build stands. -/
inductive BuildStage where
  | idle
  | validating
  | generating
  | writingTemp
  | bundling
  | writingFinal
  | cleaningUp
  | done
  | failed
  deriving DecidableEq, Repr

/-- The stage as messages name it. -/
def BuildStage.name : BuildStage → String
  | .idle => "idle"
  | .validating => "validating"
  | .generating => "generating"
  | .writingTemp => "writing temp file"
  | .bundling => "bundling"
  | .writingFinal => "writing target file"
  | .cleaningUp => "cleaning up"
  | .done => "done"
  | .failed => "failed"

end PluginBundle
