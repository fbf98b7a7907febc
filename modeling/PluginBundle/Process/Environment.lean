import PluginBundle.Files.Disk

/-!
# What a process inherits

The working directory, and variables with their values.
-/

namespace PluginBundle

/-- Variables with their values. Of two values for a variable the first one counts. -/
abbrev Environment := List (String × String)

structure Surroundings where
  cwd : Place
  environment : Environment
  deriving DecidableEq, Repr

namespace Surroundings

def value? (s : Surroundings) (name : String) : Option String := s.environment.lookup name

/-- Where programs are looked up, if the surroundings say so. -/
def searchPath? (s : Surroundings) : Option String := s.value? "PATH"

/-- The working directory as a path. -/
def cwdPath (s : Surroundings) : Path := .ofNames true s.cwd

/-- The home directory, if one is set. -/
def home? (s : Surroundings) : Option Path :=
  (s.value? "HOME").bind fun text => if text.isEmpty then none else some ⟨text⟩

end Surroundings

/-- The pieces of a search path. An empty piece stands for the working directory. -/
def splitSearchPath (searchPath : String) : List Path :=
  let rec go : List Char → List (List Char)
    | [] => [[]]
    | c :: cs =>
        if c = ':' then [] :: go cs
        else
          match go cs with
          | [] => [[c]]
          | piece :: pieces => (c :: piece) :: pieces
  (go searchPath.toList).map fun piece => ⟨String.ofList piece⟩

end PluginBundle
