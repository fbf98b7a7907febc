import PluginBundle.Configuration.Error

/-!
# Where a build puts its files

The base directory is made absolute before anything is joined to it, so the paths mean the same to a
bundler that runs elsewhere.
-/

namespace PluginBundle

/-- What is put behind the target for the name of the entry script. -/
def tempSuffix : String := ".__tmp.js"

/-- The paths of one build. -/
structure BuildPaths where
  baseDir : Path
  target : Path
  temp : Path
  deriving DecidableEq, Repr

namespace BuildPaths

/-- The paths below a base directory. -/
def below (baseDir : Path) (outputPath : Option Path) (filename : String) : BuildPaths :=
  let dir :=
    match outputPath with
    | none => baseDir
    | some outputPath => baseDir.join outputPath
  let target := dir.join ⟨filename⟩
  ⟨baseDir, target, target.withSuffix tempSuffix⟩

/-- The base directory of a configuration, from a working directory. -/
def baseOf (cwd : Path) (c : Configuration) : Path :=
  match c.baseDir? with
  | none => cwd
  | some dir => if dir.isAbsolute then dir else cwd.join dir

/-- The paths of a configuration, which must name its bundle. -/
def resolve (cwd : Path) (c : Configuration) : Except ConfigurationError BuildPaths :=
  match c.outputFilename with
  | none => .error (.missingOption .outputFilename)
  | some filename =>
      if filename.isEmpty then .error (.missingOption .outputFilename)
      else .ok (below (baseOf cwd c) c.outputPath filename)

end BuildPaths

end PluginBundle
