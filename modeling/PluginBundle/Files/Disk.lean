import PluginBundle.Files.Path
import PluginBundle.Files.IoError

/-!
# A tree of files

A disk maps places to directories and files. A place is the list of names from the root, without
dots; the root is a directory on every disk. Paths are followed name by name from a working
directory, and each name on the way must be a directory. There are no links, so `..` leads back to
the place that the name before it left.
-/

namespace PluginBundle

/-- The names that lead from the root. -/
abbrev Place := List String

/-- What stands at a place. -/
inductive Entry where
  | directory
  | file (contents : ByteArray) (executable : Bool)

/-- Directories and files by their places. Of two entries for a place the first one counts. -/
structure Disk where
  entries : List (Place × Entry)

namespace Disk

def empty : Disk := ⟨[]⟩

/-- The entry of a place. -/
def find? (d : Disk) (place : Place) : Option Entry :=
  if place.isEmpty then some .directory else d.entries.lookup place

/-- The disk with an entry at a place. -/
def set (d : Disk) (place : Place) (entry : Entry) : Disk :=
  ⟨(place, entry) :: d.entries.filter (·.1 != place)⟩

/-- The disk without the entry of a place. -/
def erase (d : Disk) (place : Place) : Disk :=
  ⟨d.entries.filter (·.1 != place)⟩

/-- The longest name that a directory holds, in bytes. -/
def nameLimit : Nat := 255

/-- A path must be shorter than this, in bytes. -/
def pathLimit : Nat := 4096

/-! ## Following paths -/

/-- One step from a directory: to its parent or to the entry of a name. -/
def step (d : Disk) (place : Place) (name : String) : Except IoError Place :=
  match d.find? place with
  | some .directory =>
      if name = ".." then .ok place.dropLast
      else if name.utf8ByteSize > nameLimit then .error (.system .nameTooLong)
      else .ok (place ++ [name])
  | some (.file _ _) => .error (.system .notADirectory)
  | none => .error (.system .notFound)

/-- The place that names lead to. The last name need not exist. -/
def walk (d : Disk) : Place → List String → Except IoError Place
  | place, [] => .ok place
  | place, name :: rest =>
      match d.step place name with
      | .error e => .error e
      | .ok next => walk d next rest

/-- Where a path starts. -/
def origin (cwd : Place) (p : Path) : Place := if p.isAbsolute then [] else cwd

/-- Paths that are refused before the disk is asked. -/
def checkPath (p : Path) : Except IoError Unit :=
  if p.chars.contains '\x00' then .error .nulInPath
  else if p.isEmpty then .error (.system .notFound)
  else if p.text.utf8ByteSize ≥ pathLimit then .error (.system .nameTooLong)
  else .ok ()

/-- The place and the entry that a path names. -/
def resolve (d : Disk) (cwd : Place) (p : Path) : Except IoError (Place × Entry) := do
  checkPath p
  let place ← d.walk (origin cwd p) p.names
  match d.find? place with
  | none => throw (.system .notFound)
  | some .directory => return (place, .directory)
  | some (.file contents executable) =>
      if p.namesDirectory then throw (.system .notADirectory)
      else return (place, .file contents executable)

/-- The path leads to a regular file. -/
def isFile (d : Disk) (cwd : Place) (p : Path) : Bool :=
  match d.resolve cwd p with
  | .ok (_, .file _ _) => true
  | _ => false

/-- The path leads to a directory. -/
def isDirectory (d : Disk) (cwd : Place) (p : Path) : Bool :=
  match d.resolve cwd p with
  | .ok (_, .directory) => true
  | _ => false

/-- The path leads to a regular file that may be run. -/
def isExecutableFile (d : Disk) (cwd : Place) (p : Path) : Bool :=
  match d.resolve cwd p with
  | .ok (_, .file _ executable) => executable
  | _ => false

/-- The last step of a path that creates or removes an entry. -/
inductive LastName where
  /-- The root, or a path that ends in dots. -/
  | dots (place : Place)
  /-- A name in a directory, and whether a slash follows it. -/
  | named (place : Place) (slash : Bool)

/-- Follows all but the last name of a path. -/
def approach (d : Disk) (cwd : Place) (p : Path) : Except IoError LastName := do
  checkPath p
  let last := (Path.splitSlash p.chars).reverse.find? (!·.isEmpty)
  if last == none || last == some ['.'] then
    let place ← d.walk (origin cwd p) p.names
    match d.find? place with
    | some .directory => return .dots place
    | some (.file _ _) => throw (.system .notADirectory)
    | none => throw (.system .notFound)
  else
    let place ← d.walk (origin cwd p) p.names
    return if last == some ['.', '.'] then .dots place else .named place p.endsWithSlash

/-! ## Reading and writing -/

/-- The contents of the file that a path names. -/
def read (d : Disk) (cwd : Place) (p : Path) : Except IoError ByteArray :=
  match d.resolve cwd p with
  | .error e => .error e
  | .ok (_, .directory) => .error (.system .isADirectory)
  | .ok (_, .file contents _) => .ok contents

/-- The text of the file that a path names. -/
def readText (d : Disk) (cwd : Place) (p : Path) : Except IoError String :=
  match d.read cwd p with
  | .error e => .error e
  | .ok contents =>
      match String.fromUTF8? contents with
      | some text => .ok text
      | none => .error .notText

/-- Makes one directory in a directory that is there. -/
def makeDirectory (d : Disk) (cwd : Place) (p : Path) : Except IoError Disk := do
  match ← d.approach cwd p with
  | .dots _ => throw (.system .alreadyExists)
  | .named place _ =>
      match d.find? place with
      | some _ => throw (.system .alreadyExists)
      | none => return d.set place .directory

/-- Makes a directory and those above it that are missing. The result holds what was made also
where the last step fails. -/
def makeDirectories (d : Disk) (cwd : Place) (p : Path) : Nat → Except IoError Unit × Disk
  | 0 => (.ok (), d)
  | fuel + 1 =>
      if p.isEmpty then (.ok (), d)
      else
        match d.makeDirectory cwd p with
        | .ok d => (.ok (), d)
        -- Only a directory that is missing above this one is a reason to go up.
        | .error (.system .notFound) =>
            match p.parent? with
            | none => (.error (.system .notFound), d)
            | some above =>
                match d.makeDirectories cwd above fuel with
                | (.error e, d) => (.error e, d)
                | (.ok (), d) =>
                    match d.makeDirectory cwd p with
                    | .ok d => (.ok (), d)
                    | .error e => (if d.isDirectory cwd p then .ok () else .error e, d)
        | .error e => (if d.isDirectory cwd p then .ok () else .error e, d)

/-- Replaces the contents of a file, or makes it. -/
def writeFile (d : Disk) (cwd : Place) (p : Path) (contents : ByteArray) : Except IoError Disk := do
  match ← d.approach cwd p with
  | .dots _ => throw (.system .isADirectory)
  | .named _ true => throw (.system .isADirectory)
  | .named place false =>
      match d.find? place with
      | some .directory => throw (.system .isADirectory)
      | some (.file _ executable) => return d.set place (.file contents executable)
      | none => return d.set place (.file contents false)

/-- Writes a file after making the directories above it. -/
def write (d : Disk) (cwd : Place) (p : Path) (contents : ByteArray) :
    Except IoError Unit × Disk :=
  let above := p.parent?.getD ⟨""⟩
  match d.makeDirectories cwd above (above.chars.length + 1) with
  | (.error e, d) => (.error e, d)
  | (.ok (), d) =>
      match d.writeFile cwd p contents with
      | .error e => (.error e, d)
      | .ok d => (.ok (), d)

/-- Removes a file. -/
def remove (d : Disk) (cwd : Place) (p : Path) : Except IoError Disk := do
  match ← d.approach cwd p with
  | .dots _ => throw (.system .isADirectory)
  | .named place slash =>
      match d.find? place with
      | none => throw (.system .notFound)
      | some .directory => throw (.system .isADirectory)
      | some (.file _ _) =>
          if slash then throw (.system .notADirectory) else return d.erase place

end Disk

end PluginBundle
