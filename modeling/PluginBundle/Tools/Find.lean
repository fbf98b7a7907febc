import PluginBundle.Shell.Glob
import PluginBundle.Tools.Calls

/-!
# Finding files

The files and directories below some places are visited, each directory before what is in it, and
for each of them a condition with actions is looked at.
-/

namespace PluginBundle.Tools

open PluginBundle.Shell

/-- A condition on a file, or an action, which holds if it succeeds. -/
inductive FileTest where
  | named (pattern : List Char) (ignoreCase whole : Bool)
  | kind (directory : Bool)
  | executable
  | isEmpty
  | print (stop : Char)
  | delete
  | run (command : List (List Char))
  | runAll (command : List (List Char))
  | prune
  | always (b : Bool)
  | negated (t : FileTest)
  | both (a b : FileTest)
  | either (a b : FileTest)

/-- What was asked for. -/
structure Finding where
  least : Nat
  most : Option Nat
  /-- There is an action, so that paths are not printed by themselves. -/
  acts : Bool
  /-- What is in a directory is visited before it. -/
  depthFirst : Bool

abbrev FindReader := StateT (List (List Char) × Finding) Act

namespace FindReader

def peek? : FindReader (Option (List Char)) := return (← get).1.head?

def skip : FindReader Unit := modify fun s => (s.1.drop 1, s.2)

def setup (f : Finding → Finding) : FindReader Unit := modify fun s => (s.1, f s.2)

def argument (name : List Char) : FindReader (List Char) := do
  match (← get).1 with
  | w :: rest =>
      modify fun s => (rest, s.2)
      return w
  | [] => (stop 1 (ofText "missing argument to \x60" ++ name ++ ['\'']) : Act (List Char))

/-- The words of a program to run, and whether it is run once for all files. -/
def programWords : FindReader (List (List Char) × Bool) := do
  let words := (← get).1
  let front := words.takeWhile fun w => w != [';'] && w != ['+']
  match words.drop front.length with
  | closing :: rest =>
      modify fun s => (rest, s.2)
      return (front, closing == ['+'])
  | [] => (stop 1 (ofText "missing argument to \x60-exec'") : Act _)

/-- A condition that nothing joins to another one. -/
def primary (again : FindReader FileTest) : Nat → FindReader FileTest
  | 0 => return .always true
  | fuel + 1 => do
      let word := (← peek?).getD []
      skip
      let acting (t : FileTest) : FindReader FileTest := do
        setup fun f => { f with acts := true }
        return t
      match String.ofList word with
      | "!" => return .negated (← primary again fuel)
      | "-not" => return .negated (← primary again fuel)
      | "(" => do
          let t ← again
          skip
          return t
      | "-name" => return .named (← argument word) false false
      | "-iname" => return .named (← argument word) true false
      | "-path" => return .named (← argument word) false true
      | "-type" => return .kind ((← argument word) == ['d'])
      | "-maxdepth" => do
          let n := (natural? (← argument word)).getD 0
          setup fun f => { f with most := some n }
          return .always true
      | "-mindepth" => do
          let n := (natural? (← argument word)).getD 0
          setup fun f => { f with least := n }
          return .always true
      | "-depth" => do
          setup fun f => { f with depthFirst := true }
          return .always true
      | "-empty" => return .isEmpty
      | "-executable" => return .executable
      | "-prune" => return .prune
      | "-true" => return .always true
      | "-false" => return .always false
      | "-print" => acting (.print '\n')
      | "-print0" => acting (.print '\x00')
      | "-delete" => do
          setup fun f => { f with depthFirst := true }
          acting .delete
      | "-exec" => do
          let (words, once) ← programWords
          acting (if once then .runAll words else .run words)
      | _ => (stop 1 (ofText "unknown predicate \x60" ++ word ++ ['\'']) : Act FileTest)

/-- Conditions that must all hold. -/
def allOf (again : FindReader FileTest) : Nat → FileTest → FindReader FileTest
  | 0, t => return t
  | fuel + 1, t => do
      match (← peek?).map String.ofList with
      | none => return t
      | some "-o" => return t
      | some "-or" => return t
      | some ")" => return t
      | some "-a" => do
          skip
          allOf again fuel (.both t (← primary again 1000))
      | some "-and" => do
          skip
          allOf again fuel (.both t (← primary again 1000))
      | some _ => allOf again fuel (.both t (← primary again 1000))

/-- A whole condition, in brackets so deep. -/
def whole : Nat → FindReader FileTest
  | 0 => return .always true
  | depth + 1 => do
      let rounds := (← get).1.length + 1
      let first ← allOf (whole depth) rounds (← primary (whole depth) rounds)
      match (← peek?).map String.ofList with
      | some "-o" => do
          skip
          return .either first (← whole depth)
      | some "-or" => do
          skip
          return .either first (← whole depth)
      | _ => return first

end FindReader

/-- A file that is visited. -/
structure Visit where
  path : List Char
  place : Place
  entry : Entry

/-- What is collected on the way: whether what is below is left out, and the files for programs that
are run once for all. -/
abbrev Visiting := StateT (Bool × List (List (List Char) × List (List Char))) Act

/-- A condition holds for a file, or its action succeeds. -/
def FileTest.holds (again : Runner) (v : Visit) :
    FileTest → Visiting Bool
  | .always b => return b
  | .negated t => return !(← t.holds again v)
  | .both a b => do if ← a.holds again v then b.holds again v else return false
  | .either a b => do if ← a.holds again v then return true else b.holds again v
  | .kind directory =>
      match v.entry with
      | .directory => return directory
      | .file _ _ => return !directory
  | .executable =>
      match v.entry with
      | .directory => return true
      | .file _ runs => return runs
  | .isEmpty => do
      match v.entry with
      | .directory =>
          let s ← (get : Act State)
          return (s.world.disk.namesIn v.place).isEmpty
      | .file contents _ => return contents.isEmpty
  | .named text ignoreCase whole =>
      let subject :=
        if whole then v.path
        else
          let trimmed := (v.path.reverse.dropWhile (· == '/')).reverse
          if trimmed.isEmpty then v.path
          else (trimmed.reverse.takeWhile (· != '/')).reverse
      let change (cs : List Char) := if ignoreCase then cs.map Char.toLower else cs
      return matchesPattern (pattern (marked false (change text))) (change subject)
  | .print stop => do
      (Act.print (v.path ++ [stop]) : Act Unit)
      return true
  | .prune => do
      modify fun s => (true, s.2)
      return true
  | .delete => do
      let s ← (get : Act State)
      if (s.world.disk.namesIn v.place).isEmpty then
        (set { s with world := { s.world with disk := s.world.disk.erase v.place } } : Act Unit)
        return true
      else
        let what := ofText "cannot delete " ++ inMarks v.path
        (fail (what ++ ofText ": Directory not empty") : Act Unit)
        return false
  | .run command => do
      let words := command.map fun w => replaceAll ['\x7b', '\x7d'] v.path (w.length + 1) w
      let name := words.headD []
      match ← (runCommand again name (words.drop 1) : Act Ran) with
      | .ended e => return e.status == 0
      | .missing cause =>
          (complain (inMarks name ++ [':', ' '] ++ cause) : Act Unit)
          return false
      | .refused cause =>
          (complain (inMarks name ++ [':', ' '] ++ cause) : Act Unit)
          return false
  | .runAll command => do
      modify fun s =>
        let old := (s.2.lookup command).getD []
        (s.1, (command, old ++ [v.path]) :: s.2.filter (·.1 != command))
      return true

/-- Visits a file and what is below it. `fuel` bounds how deep that is. -/
def visit (again : Runner) (f : Finding) (t : FileTest) :
    Nat → Nat → Visit → Visiting Unit
  | 0, _, _ => return ()
  | fuel + 1, depth, v => do
      let look : Visiting Unit := do
        modify fun s => (false, s.2)
        if depth ≥ f.least then
          let _ ← t.holds again v
      let below : Visiting Unit := do
        match v.entry with
        | .directory =>
            if f.most.all (depth < ·) then
              let s ← (get : Act State)
              let names := ((s.world.disk.namesIn v.place).map fun n => (ofText n, n)).mergeSort
                fun a b => lessBytes a.1 b.1
              for (shown, name) in names do
                let place := v.place ++ [name]
                let path := if v.path.getLast? == some '/' then v.path ++ shown
                  else v.path ++ '/' :: shown
                match s.world.disk.find? place with
                | some entry => visit again f t fuel (depth + 1) ⟨path, place, entry⟩
                | none => pure ()
        | .file _ _ => pure ()
      if f.depthFirst then
        below
        look
      else
        look
        if !(← get).1 then below

def find : Tool := fun again words => do
  let words := words.dropWhile fun w => w == ['-', 'L'] || w == ['-', 'P'] || w == ['-', 'H']
  let isStart (w : List Char) : Bool :=
    w.head? != some '-' && w != ['!'] && w != ['('] && w != [')']
  let starts := words.takeWhile isStart
  let condition := words.drop starts.length
  let starts := if starts.isEmpty then [['.']] else starts
  let (t, rest, f) ←
    if condition.isEmpty then pure (.always true, [], ⟨0, none, false, false⟩)
    else (FindReader.whole (condition.length + 1)).run (condition, ⟨0, none, false, false⟩)
  match rest with
  | w :: _ =>
      if isStart w then stop 1 (ofText "paths must precede expression: \x60" ++ w ++ ['\''])
      else stop 1 (ofText "invalid expression; you have used a binary operator '" ++ w
        ++ ofText "' with nothing before it.")
  | [] => pure ()
  let t := if f.acts then t else .both t (.print '\n')
  let mut collected := []
  for name in starts do
    let s ← get
    match s.world.disk.resolve s.cwd (State.path name) with
    | .error e => fail (inMarks name ++ [':', ' '] ++ causeText e)
    | .ok (place, entry) =>
        let ((), _, more) ← (visit again f t 1000 0 ⟨name, place, entry⟩).run (false, collected)
        collected := more
  for (command, paths) in collected.reverse do
    let front := command.filter (· != ['\x7b', '\x7d'])
    let _ ← runCommand again (front.headD []) (front.drop 1 ++ paths)

end PluginBundle.Tools
