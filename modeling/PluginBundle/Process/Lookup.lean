import PluginBundle.Process.Environment

/-!
# Looking up programs

A program is the first executable file of its name along the search path. A piece of the search path
that starts with a tilde starts at the home directory, and what is found is named by a path from the
root. Without a search path no program is found.
-/

namespace PluginBundle

/-- The path with a tilde in front replaced by the home directory. -/
def expandTilde (home : Option Path) (dir : Path) : Path :=
  match home, dir.isAbsolute, (Path.splitSlash dir.chars).head?, dir.names with
  | some home, false, some ['~'], _ :: names => names.foldl (fun p name => p.join ⟨name⟩) home
  | _, _, _, _ => dir

/-- The path from the root that leads where a path leads from a directory. -/
def Path.fromRoot (cwd p : Path) : Path :=
  if p.isAbsolute then p else p.names.foldl (fun q name => q.join ⟨name⟩) cwd

/-- The first executable file of a name along the search path. -/
def Disk.which (d : Disk) (s : Surroundings) (program : String) : Option Path :=
  match s.searchPath? with
  | none => none
  | some searchPath =>
      let dirs := (splitSearchPath searchPath).map (expandTilde s.home?)
      let candidates := dirs.map fun dir => Path.fromRoot s.cwdPath (dir.join ⟨program⟩)
      candidates.find? (d.isExecutableFile s.cwd)

end PluginBundle
