import PluginBundle.Files.Disk
import PluginBundle.Shell.Pattern
import PluginBundle.Text.Bytes

/-!
# Patterns over file names

A pattern with signs stands for the paths that match it, name by name. A name that starts with a dot
is matched only by a dot.
-/

namespace PluginBundle

/-- The names in a directory. -/
def Disk.namesIn (d : Disk) (place : Place) : List String :=
  d.entries.filterMap fun e =>
    if e.1.length = place.length + 1 && place.isPrefixOf e.1 then e.1.getLast? else none

namespace Shell

/-- The pieces of a pattern between slashes. -/
def splitMarked : MarkedText → List MarkedText
  | [] => [[]]
  | (c, quoted) :: cs =>
      if c = '/' then [] :: splitMarked cs
      else
        match splitMarked cs with
        | [] => [[(c, quoted)]]
        | piece :: pieces => ((c, quoted) :: piece) :: pieces

def unmarked (cs : MarkedText) : List Char := cs.map (·.1)

/-- The text of a pattern without the signs that only quote. -/
def plainName : MarkedText → List Char
  | ('\\', false) :: (c, _) :: r => c :: plainName r
  | (c, _) :: r => c :: plainName r
  | [] => []

/-- The names in a directory that match a piece of a pattern. -/
def matchingNames (d : Disk) (cwd : Place) (dotted hidden : Bool) (before : List Char)
    (piece : MarkedText) : List (List Char) :=
  let dir : Path := ⟨if before.isEmpty then "." else textOf before⟩
  match d.resolve cwd dir with
  | .ok (place, .directory) =>
      let items := pattern piece
      let own := if dotted then [['.'], ['.', '.']] else []
      let names := own ++ (d.namesIn place).map ofText
      names.filter fun name =>
        matchesPattern items name
          && (name.head? != some '.' || hidden || (piece.head?.map (·.1)) == some '.')
  | _ => []

/-- The paths that match the pieces of a pattern behind a path. -/
def globFrom (d : Disk) (cwd : Place) (dotted hidden : Bool) :
    List Char → List MarkedText → List (List Char)
  | before, [] => if d.resolve cwd ⟨textOf before⟩ matches .ok _ then [before] else []
  | before, piece :: rest =>
      let ends := if rest.isEmpty then [] else ['/']
      if hasSigns piece then
        (matchingNames d cwd dotted hidden before piece).flatMap fun name =>
          globFrom d cwd dotted hidden (before ++ name ++ ends) rest
      else globFrom d cwd dotted hidden (before ++ plainName piece ++ ends) rest

def lessBytes : List Char → List Char → Bool
  | [], _ => true
  | _ :: _, [] => false
  | a :: as, b :: bs => a < b || (a == b && lessBytes as bs)

/-- The paths that a pattern stands for, in the order of their bytes. The entries for a directory
itself and the one above it may be among them, and names with a dot in front. -/
def glob (d : Disk) (cwd : Place) (dotted hidden : Bool) (cs : MarkedText) : List (List Char) :=
  (globFrom d cwd dotted hidden [] (splitMarked cs)).mergeSort lessBytes

end Shell

end PluginBundle
