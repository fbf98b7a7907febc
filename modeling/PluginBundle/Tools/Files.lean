import PluginBundle.Shell.Glob
import PluginBundle.Tools.Basic

/-!
# Programs on files

Programs that list, make, remove, copy and move files and directories, and take their names apart.
-/

namespace PluginBundle.Tools

open PluginBundle.Shell

/-! ## The disk -/

/-- A change of the disk, or a message about why it cannot be made. -/
def change (what : List Char) (f : Disk → Except IoError Disk) : Act Bool := do
  let s ← get
  match f s.world.disk with
  | .ok disk =>
      set { s with world := { s.world with disk := disk } }
      return true
  | .error e =>
      fail (what ++ [':', ' '] ++ causeText e)
      return false

/-- The place and entry that a path names. -/
def lookUp (path : List Char) : Act (Except IoError (Place × Entry)) := do
  let s ← get
  return s.world.disk.resolve s.cwd (State.path path)

/-- The entries at a place and below it. -/
def entriesAt (d : Disk) (place : Place) : List (Place × Entry) :=
  d.entries.filter fun e => place.isPrefixOf e.1

/-- The disk without what is at a place and below it. -/
def withoutTree (d : Disk) (place : Place) : Disk :=
  ⟨d.entries.filter fun e => !place.isPrefixOf e.1⟩

/-- The disk with what is at a place and below it also at another place. -/
def withCopy (d : Disk) (source target : Place) : Disk :=
  (entriesAt d source).foldl (fun d e => d.set (target ++ e.1.drop source.length) e.2) d

/-- The last name of a path, as text. -/
def lastName (path : List Char) : List Char :=
  let trimmed := (path.reverse.dropWhile (· == '/')).reverse
  if trimmed.isEmpty then if path.isEmpty then [] else ['/']
  else (trimmed.reverse.takeWhile (· != '/')).reverse

/-- The directory that a path goes through last, as text. -/
def directoryName (path : List Char) : List Char :=
  let backwards := path.reverse.dropWhile (· == '/')
  let front := backwards.dropWhile (· != '/')
  let trimmed := (front.dropWhile (· == '/')).reverse
  if backwards.isEmpty then if path.isEmpty then ['.'] else ['/']
  else if front.isEmpty then ['.']
  else if trimmed.isEmpty then ['/'] else trimmed

/-- A path with a name behind it. -/
def inside (directory name : List Char) : List Char :=
  if directory.getLast? == some '/' then directory ++ name else directory ++ '/' :: name

/-! ## Making -/

def makeDirectories : Tool := fun _ words => do
  let long := [("parents", 'p'), ("verbose", 'v'), ("mode", 'm')]
  let g ← Options.take ⟨"pv", "m", long, true, 1⟩ words
  if g.arguments.isEmpty then misuse 1 (ofText "missing operand")
  for name in g.arguments do
    let what := ofText "cannot create directory " ++ inMarks name
    let path := State.path name
    let s ← get
    let made ← change what fun d =>
      if g.has 'p' then
        match d.makeDirectories s.cwd path (name.length + 1) with
        | (.ok (), d) => if d.isDirectory s.cwd path then .ok d else .error (.system .alreadyExists)
        | (.error e, _) => .error e
      else d.makeDirectory s.cwd path
    if made && g.has 'v' then
      Act.print ((← get).name ++ ofText ": created directory " ++ inMarks name ++ ['\n'])

def touch : Tool := fun _ words => do
  let g ← Options.take ⟨"camfh", "drt", [("no-create", 'c'), ("date", 'd'), ("reference", 'r')],
    true, 1⟩ words
  if g.arguments.isEmpty then misuse 1 (ofText "missing file operand")
  for name in g.arguments do
    let s ← get
    let path := State.path name
    match s.world.disk.resolve s.cwd path with
    | .ok _ => pure ()
    | .error (.system .notFound) =>
        if !g.has 'c' then
          let what := ofText "cannot touch " ++ inMarks name
          let _ ← change what fun d =>
            match d.writeFile s.cwd path ByteArray.empty with
            | .error (.system .isADirectory) => .error (.system .notFound)
            | result => result
    | .error e => fail (ofText "cannot touch " ++ inMarks name ++ [':', ' '] ++ causeText e)

/-- Makes a new file or directory with a name of its own. -/
def makeTemporary : Tool := fun _ words => do
  let g ← Options.take ⟨"dqtu", "p", [("directory", 'd')], true, 1⟩ words
  let s ← get
  let tag := Nat.toDigits 10 (1000000000 + s.process)
  let pattern := (g.arguments.head?).getD "/tmp/tmp.XXXXXXXXXX".toList
  let marks := (pattern.reverse.takeWhile (· == 'X')).length
  if marks < 3 then stop 1 (ofText "too few X's in template " ++ inMarks pattern)
  let name := pattern.take (pattern.length - marks) ++ tag.take marks
  let what := ofText "failed to create file via template " ++ inMarks pattern
  let made ← change what fun d =>
    if g.has 'd' then d.makeDirectory s.cwd (State.path name)
    else d.writeFile s.cwd (State.path name) ByteArray.empty
  if made then Act.print (name ++ ['\n'])

/-! ## Removing -/

def removeDirectories : Tool := fun _ words => do
  let g ← Options.take ⟨"pv", "", [("parents", 'p'), ("verbose", 'v'),
    ("ignore-fail-on-non-empty", 'i')], true, 1⟩ words
  if g.arguments.isEmpty then misuse 1 (ofText "missing operand")
  for name in g.arguments do
    let what := ofText "failed to remove " ++ inMarks name
    let s ← get
    let _ ← change what fun d => do
      match ← d.resolve s.cwd (State.path name) with
      | (place, .directory) =>
          if (entriesAt d place).length > 1 then
            if g.has 'i' then return d else throw (.system .directoryNotEmpty)
          else return d.erase place
      | _ => throw (.system .notADirectory)

def removeFiles : Tool := fun _ words => do
  let g ← Options.take ⟨"rRfvidI", "", [("recursive", 'r'), ("force", 'f'), ("verbose", 'v'),
    ("dir", 'd')], true, 1⟩ words
  if g.arguments.isEmpty && !g.has 'f' then misuse 1 (ofText "missing operand")
  for name in g.arguments do
    let s ← get
    let what := ofText "cannot remove " ++ inMarks name
    let last := lastName name
    if (last = ['.'] || last = ['.', '.']) && (g.has 'r' || g.has 'R') then
      fail (ofText "refusing to remove '.' or '..' directory: skipping " ++ inMarks name)
    else
      match s.world.disk.resolve s.cwd (State.path name) with
      | .error e =>
          let isMissing := e = .system .notFound || e = .system .notADirectory
          if !(g.has 'f' && isMissing) then fail (what ++ [':', ' '] ++ causeText e)
      | .ok (place, .directory) =>
          let isEmpty := (entriesAt s.world.disk place).length ≤ 1
          if g.has 'r' || g.has 'R' || (g.has 'd' && isEmpty) then
            let _ ← change what fun d => .ok (withoutTree d place)
            if g.has 'v' then Act.print (ofText "removed directory " ++ inMarks name ++ ['\n'])
          else
            fail (what ++ ofText
              (if g.has 'd' then ": Directory not empty" else ": Is a directory"))
      | .ok (place, .file _ _) =>
          let _ ← change what fun d => .ok (d.erase place)
          if g.has 'v' then Act.print (ofText "removed " ++ inMarks name ++ ['\n'])

/-! ## Copying and moving -/

/-- Where something is copied or moved to: into a directory under its own name, unless the target is
meant exactly, or to a new name. -/
def targetOf (exact : Bool) (target source : List Char) : Act (List Char) := do
  match exact, ← lookUp target with
  | false, .ok (_, .directory) => return inside target (lastName source)
  | _, _ => return target

/-- The sources and the target of a call. -/
def sourcesAndTarget (g : Given) : Act (List (List Char) × List Char) := do
  match g.value? 't' with
  | some target =>
      if g.arguments.isEmpty then misuse 1 (ofText "missing file operand")
      return (g.arguments, target)
  | none =>
      match g.arguments with
      | [] => misuse 1 (ofText "missing file operand")
      | [one] => misuse 1 (ofText "missing destination file operand after " ++ inMarks one)
      | arguments =>
          let target := arguments.getLast?.getD []
          if arguments.length > 2 then
            match ← lookUp target with
            | .ok (_, .directory) => pure ()
            | .ok _ => stop 1 (ofText "target " ++ inMarks target ++ ofText ": Not a directory")
            | .error e => stop 1 (ofText "target " ++ inMarks target ++ [':', ' '] ++ causeText e)
          return (arguments.dropLast, target)

/-- Writes a file with the contents and the mark of another one. -/
def writeCopy (cwd : Place) (target : List Char) (contents : ByteArray) (executable : Bool)
    (d : Disk) : Except IoError Disk := do
  let path := State.path target
  if path.endsWithSlash then throw (.system .notADirectory)
  let existed := d.isFile cwd path
  let d ← d.writeFile cwd path contents
  let (place, _) ← d.resolve cwd path
  return if existed then d else d.set place (.file contents executable)

/-- Copies one thing. -/
def copyOne (g : Given) (source target : List Char) : Act Unit := do
  let s ← get
  match ← lookUp source with
  | .error e => fail (ofText "cannot stat " ++ inMarks source ++ [':', ' '] ++ causeText e)
  | .ok (place, entry) =>
      let there := (← lookUp target).toOption
      let tell : Act Unit := do
        if g.has 'v' then
          Act.print (inMarks source ++ ofText " -> " ++ inMarks target ++ ['\n'])
      let recursive := g.has 'r' || g.has 'R' || g.has 'a'
      match entry with
      | .file contents executable =>
          if there.any (·.1 == place) then
            fail (inMarks source ++ ofText " and " ++ inMarks target ++ ofText " are the same file")
          else if !(g.has 'n' && there.isSome) then
            let what := ofText "cannot create regular file " ++ inMarks target
            if ← change what (writeCopy s.cwd target contents executable) then tell
      | .directory =>
          if !recursive then
            fail (ofText "-r not specified; omitting directory " ++ inMarks source)
          else
            let new ←
              match there with
              | some (there, .directory) => pure (some there)
              | some _ =>
                  fail (ofText "cannot overwrite non-directory " ++ inMarks target
                    ++ ofText " with directory " ++ inMarks source)
                  pure none
              | none =>
                  let what := ofText "cannot create directory " ++ inMarks target
                  let _ ← change what (·.makeDirectory s.cwd (State.path target))
                  pure ((← lookUp target).toOption.map (·.1))
            match new with
            | some there =>
                if place.isPrefixOf there then
                  fail (ofText "cannot copy a directory, " ++ inMarks source
                    ++ ofText ", into itself, " ++ inMarks target)
                let entries := entriesAt s.world.disk place
                let _ ← change [] fun d =>
                  .ok (entries.foldl (fun d e =>
                    d.set (there ++ e.1.drop place.length) e.2) d)
                tell
            | none => return ()

def copyOptions : Options :=
  { plain := "rRafpvniudLPHT", withArgument := "t", mixed := true, trouble := 1
    names := [("recursive", 'r'), ("archive", 'a'), ("force", 'f'), ("verbose", 'v'),
      ("no-clobber", 'n'), ("target-directory", 't'), ("preserve", 'p'), ("parents", 'x')] }

def copyFiles : Tool := fun _ words => do
  let g ← copyOptions.take words
  let (sources, target) ← sourcesAndTarget g
  for source in sources do
    copyOne g source (← targetOf (g.has 'T') target source)

/-- Moves one thing. -/
def moveOne (g : Given) (source target : List Char) : Act Unit := do
  let s ← get
  match ← lookUp source with
  | .error e => fail (ofText "cannot stat " ++ inMarks source ++ [':', ' '] ++ causeText e)
  | .ok (place, entry) =>
      let there := (← lookUp target).toOption
      let what := ofText "cannot move " ++ inMarks source ++ ofText " to " ++ inMarks target
      let isInside := ((← lookUp (directoryName target)).toOption).any (place.isPrefixOf ·.1)
      let isDirectory := entry matches .directory
      if there.any (·.1 == place) then
        fail (inMarks source ++ ofText " and " ++ inMarks target ++ ofText " are the same file")
      else if isDirectory && isInside then
        fail (ofText "cannot move " ++ inMarks source ++ ofText " to a subdirectory of itself, "
          ++ inMarks target)
      else if isDirectory && there.any (·.2 matches .file _ _) then
        fail (ofText "cannot overwrite non-directory " ++ inMarks target
          ++ ofText " with directory " ++ inMarks source)
      else if !(g.has 'n' && there.isSome) then
        let done ← change what fun d => do
          match entry with
          | .file contents executable =>
              if (State.path target).endsWithSlash then throw (.system .notADirectory)
              let d ← d.writeFile s.cwd (State.path target) contents
              let (new, _) ← d.resolve s.cwd (State.path target)
              return (d.set new (.file contents executable)).erase place
          | .directory =>
              let d ←
                match there with
                | some (_, .directory) => pure d
                | some _ => throw (.system .notADirectory)
                | none => d.makeDirectory s.cwd (State.path target)
              let (new, _) ← d.resolve s.cwd (State.path target)
              if (entriesAt d new).length > 1 then throw (.system .directoryNotEmpty)
              return withoutTree (withCopy d place new) place
        if done && g.has 'v' then
          Act.print (ofText "renamed " ++ inMarks source ++ ofText " -> " ++ inMarks target
            ++ ['\n'])

def moveFiles : Tool := fun _ words => do
  let g ← copyOptions.take words
  let (sources, target) ← sourcesAndTarget g
  for source in sources do
    moveOne g source (← targetOf (g.has 'T') target source)

/-! ## Modes -/

/-- Whether a mode lets a file be run that could or could not be run before. -/
def modeRuns? (mode : List Char) (before : Bool) : Option Bool :=
  if !mode.isEmpty && mode.all fun c => '0' ≤ c && c ≤ '7' then
    let owner := (mode.reverse.drop 2).headD '0'
    some ((owner.toNat - 48) % 2 == 1)
  else
    ((piecesOf ',' mode).1).foldl (fun found clause =>
      found.bind fun runs =>
        let rest := clause.dropWhile fun c => c == 'u' || c == 'g' || c == 'o' || c == 'a'
        let forOwner := rest.length = clause.length || clause.contains 'u' || clause.contains 'a'
        match rest with
        | sign :: letters =>
            if letters.all "rwxXst".toList.contains then
              let touches := forOwner && letters.contains 'x'
              match sign with
              | '+' => some (runs || touches)
              | '-' => some (runs && !touches)
              | '=' => some (if forOwner then touches else runs)
              | _ => none
            else none
        | [] => none) (some before)

def changeModes : Tool := fun _ words => do
  let words := words.map fun w =>
    match w with
    | '-' :: c :: _ => if "rwxXst".toList.contains c && c != 'R' then 'a' :: w else w
    | w => w
  let g ← Options.take ⟨"Rvfc", "", [("recursive", 'R')], true, 1⟩ words
  match g.arguments with
  | [] => misuse 1 (ofText "missing operand")
  | [mode] => misuse 1 (ofText "missing operand after " ++ inMarks mode)
  | mode :: names =>
      if (modeRuns? mode false).isNone then
        misuse 1 (ofText "invalid mode: " ++ inMarks mode)
      for name in names do
        match ← lookUp name with
        | .error e => fail (ofText "cannot access " ++ inMarks name ++ [':', ' '] ++ causeText e)
        | .ok (place, .file contents executable) =>
            let runs := (modeRuns? mode executable).getD executable
            let _ ← change [] fun d => .ok (d.set place (.file contents runs))
        | .ok (_, .directory) => pure ()

/-! ## Names -/

/-- A name without what it ends in, unless nothing would be left. -/
def withoutEnd (ending name : List Char) : List Char :=
  if ending.isSuffixOf name && ending.length < name.length then
    name.take (name.length - ending.length)
  else name

def baseName : Tool := fun _ words => do
  let long := [("multiple", 'a'), ("suffix", 's'), ("zero", 'z')]
  let g ← Options.take ⟨"az", "s", long, false, 1⟩ words
  let stop : List Char := if g.has 'z' then ['\x00'] else ['\n']
  let shown (ending name : List Char) : Act Unit :=
    Act.print (withoutEnd ending (lastName name) ++ stop)
  match g.arguments with
  | [] => misuse 1 (ofText "missing operand")
  | names =>
      if g.has 'a' || g.has 's' then
        for name in names do
          shown ((g.value? 's').getD []) name
      else
        match names with
        | [name] => shown [] name
        | [name, ending] => shown ending name
        | _ => misuse 1 (ofText "extra operand " ++ inMarks (names.getD 2 []))

def directoryNames : Tool := fun _ words => do
  let g ← Options.take ⟨"z", "", [("zero", 'z')], true, 1⟩ words
  if g.arguments.isEmpty then misuse 1 (ofText "missing operand")
  for name in g.arguments do
    Act.print (directoryName name ++ [if g.has 'z' then '\x00' else '\n'])

/-- Prints paths from the root. What the last name of a path leads to need not exist. -/
def realPath (mustExist quiet : Bool) : Tool := fun _ words => do
  let g ← Options.take ⟨"efmnqsz", "", [("canonicalize", 'f')], true, 1⟩ words
  if g.arguments.isEmpty then misuse 1 (ofText "missing operand")
  for name in g.arguments do
    let s ← get
    let path := State.path name
    let strict := mustExist || g.has 'e'
    let found : Except IoError Place := do
      Disk.checkPath path
      let place ← s.world.disk.walk (Disk.origin s.cwd path) path.names
      if strict && (s.world.disk.find? place).isNone then throw (.system .notFound)
      return place
    match found with
    | .ok place => Act.print (ofText (Path.ofNames true place).text ++ ['\n'])
    | .error e => if quiet then Act.setStatus 1 else fail (name ++ [':', ' '] ++ causeText e)

/-- There are no links, so nothing is read without a way of following. -/
def readLink : Tool := fun r words => do
  let follows := words.any fun w =>
    w.head? == some '-' && w.any fun c => c == 'f' || c == 'e' || c == 'm'
  if follows then realPath false true r words else Act.setStatus 1

/-! ## Listing -/

def listOptions : Options :=
  { plain := "1aAdFprRCltSUhinsgoxmkqQLHGXvc", withArgument := "wI", mixed := true, trouble := 2
    names := [("all", 'a'), ("almost-all", 'A'), ("directory", 'd'), ("classify", 'F'),
      ("recursive", 'R'), ("reverse", 'r'), ("color", '1')] }

/-- A name as a listing shows it. -/
def listedName (g : Given) (name : List Char) (e : Entry) : List Char :=
  let mark : List Char :=
    match e with
    | .directory => if g.has 'F' || g.has 'p' then ['/'] else []
    | .file _ executable => if g.has 'F' && executable then ['*'] else []
  name ++ mark

/-- The names in a directory that a listing shows, in order. -/
def listedEntries (g : Given) (d : Disk) (place : Place) : List (List Char × Entry) :=
  let own := if g.has 'a' then [(['.'], Entry.directory), (['.', '.'], Entry.directory)] else []
  let names := (d.namesIn place).map fun name =>
    (ofText name, (d.find? (place ++ [name])).getD .directory)
  let hidden := g.has 'a' || g.has 'A'
  let kept := names.filter fun n => hidden || n.1.head? != some '.'
  let sorted := (own ++ kept).mergeSort fun a b => lessBytes a.1 b.1
  if g.has 'r' then sorted.reverse else sorted

/-- Prints names, one on each line or with commas between them. -/
def printNames (g : Given) (entries : List (List Char × Entry)) : Act Unit := do
  let names := entries.map fun e => listedName g e.1 e.2
  if g.has 'm' && !names.isEmpty then
    Act.print ((", ".toList).intercalate names ++ ['\n'])
  else
    for name in names do
      Act.print (name ++ ['\n'])

/-- Prints the contents of a directory, and of those below it if they are asked for. -/
def printDirectory (g : Given) : Nat → Bool → Bool → List Char → Place → Act Unit
  | 0, _, _, _, _ => return ()
  | fuel + 1, titled, first, name, place => do
      if titled then Act.print ((if first then [] else ['\n']) ++ name ++ [':', '\n'])
      let d := (← get).world.disk
      let entries := listedEntries g d place
      printNames g entries
      if g.has 'R' then
        for (child, entry) in entries do
          match entry with
          | .directory =>
              if child != ['.'] && child != ['.', '.'] then
                printDirectory g fuel true false (inside name child) (place ++ [textOf child])
          | .file _ _ => pure ()

def list : Tool := fun _ words => do
  let g ← listOptions.take words
  let names := if g.arguments.isEmpty then [['.']] else g.arguments
  let mut files := []
  let mut directories := []
  for name in names do
    match ← lookUp name with
    | .error e =>
        complain (ofText "cannot access " ++ inMarks name ++ [':', ' '] ++ causeText e)
        Act.setStatus 2
    | .ok (place, .directory) =>
        if g.has 'd' then files := (name, Entry.directory) :: files
        else directories := (name, place) :: directories
    | .ok (_, entry) => files := (name, entry) :: files
  let inOrder {α : Type} (xs : List (List Char × α)) : List (List Char × α) :=
    let sorted := xs.reverse.mergeSort fun a b => lessBytes a.1 b.1
    if g.has 'r' then sorted.reverse else sorted
  printNames g (inOrder files)
  let titled := names.length > 1 || g.has 'R'
  let mut first := files.isEmpty
  for (name, place) in inOrder directories do
    printDirectory g 1000 titled first name place
    first := false

end PluginBundle.Tools
