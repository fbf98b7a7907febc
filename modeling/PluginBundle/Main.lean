import PluginBundle.CommandLine.Execute
import PluginBundle.Files.Changes
import PluginBundle.Shell.Programs

/-!
# The command line tool

The outer layer of the tool. It takes a picture of the files that a run may look at, runs the tool
on the picture, and carries out on the real disk what changed on the picture. No process is started:
the shell of the library stands in for the programs that are run, so a bundler must be a script of
that shell. It may call the system programs of `Tools.table`, whose files are put into the picture.
-/

namespace PluginBundle

/-- Directories of which no picture is taken. -/
def passedOver : List String := [".git", "node_modules"]

/-- A file counts as executable if it starts with an interpreter line, since the library's metadata of
files have no modes. A program in machine code is therefore never found. -/
def fileEntry (contents : ByteArray) : Entry :=
  .file contents (contents.toList.take 2 == "#!".toUTF8.toList)

/-- The directories on the way to a place. -/
def directoriesAbove (place : Place) : List (Place × Entry) :=
  ((List.range place.length).drop 1).map fun n => (place.take n, .directory)

def realPath (place : Place) : String := (Path.ofNames true place).text

/-- The file at a place with the directories above it, if there is one. -/
def pictureOfFile (place : Place) : IO (List (Place × Entry)) := do
  match ← (IO.FS.readBinFile ⟨realPath place⟩).toBaseIO with
  | .ok contents => return directoriesAbove place ++ [(place, fileEntry contents)]
  | .error _ => return []

/-- A directory and what stands below it, as far as it can be read. -/
partial def pictureBelow (place : Place) : IO (List (Place × Entry)) := do
  let here : IO.FS.DirEntry := ⟨⟨realPath place⟩, "."⟩
  let mut entries := [(place, Entry.directory)]
  for found in ← here.path.readDir do
    let inside := place ++ [found.fileName]
    if (← found.path.symlinkMetadata).type == .dir then
      if !passedOver.contains found.fileName then
        entries := (← pictureBelow inside) ++ entries
    else
      entries := (← pictureOfFile inside) ++ entries
  return entries

/-- The place that a path names, with dots taken by their text. -/
def placeOf (cwd : Place) (p : Path) : Place :=
  p.names.foldl (fun place name => if name = ".." then place.dropLast else place ++ [name])
    (Disk.origin cwd p)

/-- The paths outside the tree of the working directory that a run may look at: words of the command
line and their values, bundlers of the project, and bundlers along the search path. -/
def outlyingPaths (s : Surroundings) (words : List String) : List Path :=
  let values := words.map fun word => String.ofList ((word.toList.dropWhile (· != '=')).drop 1)
  let named := ((words ++ values).filter (!·.isEmpty)).map Path.mk
  let programs := BundlerKind.all.map (·.program)
  let dirs := ⟨"."⟩ :: named
  named
    ++ dirs.flatMap (fun dir => Configuration.fileNames.map fun name => dir.join ⟨name⟩)
    ++ dirs.flatMap (fun dir => programs.map (localProgram dir))
    ++ (splitSearchPath (s.searchPath?.getD Invocation.systemSearchPath)).flatMap fun dir =>
      programs.map fun name => dir.join ⟨name⟩

/-- The disk that a run works on. -/
def takePicture (s : Surroundings) (words : List String) : IO Disk := do
  let outlying ← (outlyingPaths s words).mapM fun p => pictureOfFile (placeOf s.cwd p)
  let below ← pictureBelow s.cwd
  let all := outlying.flatten ++ directoriesAbove s.cwd ++ below ++ Tools.entries
  return all.foldl (fun d e => d.set e.1 e.2) .empty

/-- Carries out a change on the real disk. -/
def DiskChange.carryOut (change : DiskChange) : IO Unit :=
  match change with
  | .makeDirectory place => IO.FS.createDirAll ⟨realPath place⟩
  | .write place contents => IO.FS.writeBinFile ⟨realPath place⟩ contents
  | .remove place => IO.FS.removeFile ⟨realPath place⟩

/-- The variables of the environment that a run asks for. -/
def askedVariables : List String :=
  ["RUST_LOG", "RUST_LOG_STYLE", "NO_COLOR", "CLICOLOR", "CLICOLOR_FORCE", "HOME", "PATH"]
    ++ Switch.all.filterMap Switch.environmentName?

/-- The variables of the environment that a run may look at. -/
def readEnvironment : IO Environment := do
  let found ← askedVariables.mapM fun name => return (name, ← IO.getEnv name)
  return found.filterMap fun p => p.2.map fun value => (p.1, value)

end PluginBundle

open PluginBundle in
/-- Runs the tool on the words of the command line. -/
def main (words : List String) : IO UInt32 := do
  let cwd : Path := ⟨(← IO.currentDir).toString⟩
  let s : Surroundings := ⟨cwd.names, ← readEnvironment⟩
  let before ← takePicture s words
  let result := runTool Shell.programs s words before
  for change in before.changes result.disk do
    change.carryOut
  IO.print result.stdout
  IO.eprint result.stderr
  return UInt32.ofNat (result.code.getD 1)
