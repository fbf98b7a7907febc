import PluginBundle.Shell.Builtin.Basic
import PluginBundle.Shell.Builtin.Variables
import PluginBundle.Shell.Lookup
import PluginBundle.Shell.Reader.Commands
import PluginBundle.Shell.Signal

/-!
# Directories, signals and commands by name

Commands that change the working directory, send signals and set what is done about them, wait for
other processes, and say what a name stands for.
-/

namespace PluginBundle.Shell.Builtin

/-! ## Directories -/

def placeText (place : Place) : List Char := ofText (Path.ofNames true place).text

def printDirectory (words : List (List Char)) : Act Unit := do
  let _ ← options ['L', 'P'] [] (optionFuel words) words
  Act.print (placeText (← get).cwd ++ ['\n'])
  succeed

/-- The directories in which a relative path is looked for, with whether they were named. -/
def startingPoints (s : State) (target : List Char) : List (List Char × Bool) :=
  let names := (splitSearchPath (textOf (s.value "CDPATH"))).map fun p => ofText p.text
  let dotted := target.head? == some '.' &&
    ((target.drop 1).isEmpty || ['/'].isPrefixOf (target.drop 1)
      || ['.', '/'].isPrefixOf (target.drop 1) || target = ['.', '.'])
  if target.head? == some '/' || dotted then [([], false)]
  else (names.filter (!·.isEmpty)).map (·, true) ++ [([], false)]

/-- Goes to a directory, which variables then name. -/
def changeDirectory (words : List (List Char)) : Act Unit := do
  let (_, words) ← options ['L', 'P', 'e', '@'] [] (optionFuel words) words
  let s ← get
  let target :=
    match words with
    | [] => s.value "HOME"
    | ['-'] :: _ => s.value "OLDPWD"
    | word :: _ => word
  let under (front : List Char) : List Char :=
    if front.isEmpty then target
    else if front.getLast? == some '/' then front ++ target else front ++ '/' :: target
  let isDirectory (path : List Char) : Bool :=
    s.world.disk.isDirectory s.cwd (State.path path)
  let found := (startingPoints s target).find? fun p => isDirectory (under p.1)
  let (front, named) := found.getD ([], false)
  if !s.isPlain && words.length > 1 then fail 1 (ofText "too many arguments")
  else if target.isEmpty then succeed
  else
    match s.world.disk.resolve s.cwd (State.path (under front)) with
    | .ok (place, .directory) =>
        let old := placeText s.cwd
        let mark (name : String) (value : List Char) : Act Unit :=
          modify fun s => s.setVariable name.toList (.holding value true)
        mark "OLDPWD" old
        mark "PWD" (placeText place)
        modify fun s => { s with cwd := place }
        if named || words.head? == some ['-'] then Act.print (placeText place ++ ['\n'])
        succeed
    | .ok (_, .file _ _) =>
        if s.isPlain then Act.raise (ofText "can't cd to " ++ target)
        else fail 1 (target ++ ofText ": Not a directory")
    | .error _ =>
        if s.isPlain then Act.raise (ofText "can't cd to " ++ target)
        else fail 1 (target ++ ofText ": No such file or directory")

/-! ## Directories to go back to -/

/-- Prints the directories, the present one first. -/
def listDirectories (words : List (List Char)) : Act Unit := do
  let (letters, _) ← options "clpv".toList [] (optionFuel words) words
  let has (c : Char) := letters.any (·.1 == c)
  let s ← get
  if has 'c' then set { s with stacked := [] }
  else
    let home := s.value "HOME"
    let short (text : List Char) : List Char :=
      let isHome := home.length > 1 && (text == home || (home ++ ['/']).isPrefixOf text)
      if isHome && !has 'l' then '~' :: text.drop home.length else text
    let places := (s.cwd :: s.stacked).map fun p => short (placeText p)
    let numbered := (List.range places.length).zipWith (fun n text =>
      let digits := Nat.toDigits 10 n
      List.replicate (2 - digits.length) ' ' ++ digits ++ [' ', ' '] ++ text) places
    let lines := if has 'v' then numbered else places
    let joint := if has 'v' || has 'p' then ['\n'] else [' ']
    Act.print (joint.intercalate lines ++ ['\n'])
  succeed

/-- Goes to a directory that was left before. -/
def returnTo (place : Place) (stacked : List Place) : Act Unit := do
  modify fun s => { s with cwd := place, stacked := stacked }
  modify fun s =>
    (s.setVariable "OLDPWD".toList (.holding (s.value "PWD") true)).setVariable "PWD".toList
      (.holding (placeText place) true)
  listDirectories []

/-- Goes to a directory and keeps the present one. Without words the last two are exchanged. -/
def pushDirectory (words : List (List Char)) : Act Unit := do
  let (_, words) ← options ['n'] [] (optionFuel words) words
  let s ← get
  match words, s.stacked with
  | [], [] => fail 1 (ofText "no other directory")
  | [], place :: rest => returnTo place (s.cwd :: rest)
  | words, stacked => do
      changeDirectory words
      let t ← get
      if t.status = 0 then
        set { t with stacked := s.cwd :: stacked }
        listDirectories []

/-- Goes back to the directory that was kept last. -/
def popDirectory (words : List (List Char)) : Act Unit := do
  let _ ← options ['n'] [] (optionFuel words) words
  match (← get).stacked with
  | [] => fail 1 (ofText "directory stack empty")
  | place :: rest => returnTo place rest

/-! ## Signals -/

/-- What `kill` is asked for. -/
inductive KillRequest where
  | list (status : Option (List Char))
  | send (signal : Nat) (targets : List (List Char))
  | unknownSignal (name : List Char)
  | usage

def killRequest (words : List (List Char)) : KillRequest :=
  let send (name : List Char) (targets : List (List Char)) : KillRequest :=
    match signalNumber? name with
    | none => .unknownSignal name
    | some n => if targets.isEmpty then .usage else .send n targets
  match words with
  | [] => .usage
  | ['-', 'l'] :: rest => .list rest.head?
  | ['-', 's'] :: name :: rest => send name rest
  | ['-', 'n'] :: name :: rest => send name rest
  | ['-', '-'] :: rest => if rest.isEmpty then .usage else .send 15 rest
  | ('-' :: name) :: rest => send name rest
  | targets => .send 15 targets

/-- A job of the background, or a process by its number. -/
def targetProcess? (s : State) (target : List Char) : Option Nat :=
  match target with
  | '%' :: _ => s.background.filter fun n => s.jobs.any (·.1 == n)
  | digits => if !digits.isEmpty && digits.all Char.isDigit then some (Reader.numberIn 10 digits)
      else none

/-- Refuses what names no process. -/
def unknownTarget (target : List Char) : Act Unit := do
  let isJob := target.head? == some '%'
  if (← get).isPlain then
    Act.raise (ofText (if isJob then "No such job: " else "Illegal number: ") ++ target)
  else if isJob then fail 1 (target ++ ofText ": no such job")
  else fail 1 (target ++ ofText ": arguments must be process or job IDs")

/-- Sends a signal to a process. Only the shell itself still runs. -/
def sendSignal (signal : Nat) (target : List Char) : Act Unit := do
  let s ← get
  match targetProcess? s target with
  | none => unknownTarget target
  | some n =>
      if n = s.process then
        if signal != 0 then modify fun s => { s with doomed := some signal }
      else if s.jobs.any (·.1 == n) then
        if signal != 0 then
          let status := 128 + signal
          let jobs := s.jobs.map fun j => if j.1 = n then (n, status) else j
          modify fun s => { s with jobs := jobs }
      else if s.isPlain then
        fail 1 (ofText "No such process\n")
      else fail 1 ('(' :: target ++ ofText ") - No such process")

def killUsage : String :=
  "Usage: kill [-s sigspec | -signum | -sigspec] [pid | job]... or\nkill -l [exitstatus]"

def sendSignals (words : List (List Char)) : Act Unit := do
  succeed
  match killRequest words with
  | .usage =>
      if (← get).isPlain then Act.raise (ofText killUsage)
      else
        Act.printError (ofText ("kill: usage: kill [-s sigspec | -n signum | -sigspec] pid | " ++
          "jobspec ... or kill -l [sigspec]\n"))
        Act.setStatus 2
  | .unknownSignal name =>
      if (← get).isPlain then Act.raise (ofText "Illegal option -" ++ name.take 1)
      else fail 1 (name ++ ofText ": invalid signal specification")
  | .list (some word) =>
      let plain := (← get).isPlain
      match if plain || word.all Char.isDigit then none else signalNumber? word with
      | some n => Act.print (Nat.toDigits 10 n ++ ['\n'])
      | none =>
          let n ← count word
          Act.print (signalName (if n > 128 then n - 128 else n) ++ ['\n'])
  | .list none =>
      for n in List.range 65 do
        Act.print ((if n = 0 then ['0'] else signalName n) ++ ['\n'])
  | .send signal targets =>
      for target in targets do
        sendSignal signal target

/-- Prints what is done for signals. -/
def listTraps : Act Unit := do
  let s ← get
  for n in List.range 68 do
    match s.traps.lookup n with
    | some action =>
        let name :=
          match eventNames.lookup n with
          | some name => name.toList
          | none => if s.isPlain || n = 0 then signalName n else "SIG".toList ++ signalName n
        Act.print (ofText "trap -- " ++ inQuotes action ++ [' '] ++ name ++ ['\n'])
    | none => pure ()

/-- Sets what is done for signals. -/
def setTraps (action : Option (List Char)) (names : List (List Char)) : Act Unit := do
  for name in names do
    match eventNumber? (← get).isPlain name with
    | none =>
        if (← get).isPlain then
          Act.printError (ofText "trap: " ++ name ++ ofText ": bad trap\n")
          Act.setStatus 1
        else fail 1 (name ++ ofText ": invalid signal specification")
    | some n =>
        modify fun s =>
          let others := s.traps.filter (·.1 != n)
          match action with
          | some text => { s with traps := (n, text) :: others }
          | none => { s with traps := others }

def trap (words : List (List Char)) : Act Unit := do
  let (letters, words) ← options ['p', 'l'] [] (optionFuel words) words
  succeed
  match words with
  | [] => listTraps
  | [name] => if letters.isEmpty then setTraps none [name] else listTraps
  | action :: names =>
      if action = ['-'] then setTraps none names
      else if (signalNumber? action).isSome && action.all Char.isDigit then
        setTraps none (action :: names)
      else setTraps (some action) names

/-! ## Other processes -/

/-- The status of jobs, which have all ended. -/
def wait (words : List (List Char)) : Act Unit := do
  succeed
  for word in words do
    let s ← get
    match targetProcess? s word with
    | none =>
        unknownTarget word
        if !s.isPlain then Act.setStatus (if word.head? == some '%' then 127 else 1)
    | some n =>
        match s.jobs.lookup n with
        | some status => Act.setStatus status
        | none =>
            if s.isPlain then Act.setStatus 127
            else fail 127 (ofText "pid " ++ word ++ ofText " is not a child of this shell")

/-- The letters of what a digit of a mask leaves. -/
def leftLetters (digit : Nat) : List Char :=
  (if digit / 4 % 2 = 0 then ['r'] else []) ++ (if digit / 2 % 2 = 0 then ['w'] else [])
    ++ if digit % 2 = 0 then ['x'] else []

/-- Shows or sets what new files are not allowed. -/
def umask (words : List (List Char)) : Act Unit := do
  let (letters, words) ← options ['S'] [] (optionFuel words) words
  let mask := (← get).mask
  match words with
  | [] =>
      if letters.isEmpty then
        let digits := Nat.toDigits 8 mask
        Act.print (List.replicate (4 - digits.length) '0' ++ digits ++ ['\n'])
      else
        let part (who : String) (digit : Nat) : List Char := who.toList ++ '=' :: leftLetters digit
        Act.print (part "u" (mask / 64) ++ ',' :: part "g" (mask / 8 % 8)
          ++ ',' :: part "o" (mask % 8) ++ ['\n'])
      succeed
  | word :: _ =>
      if word.all fun c => '0' ≤ c && c ≤ '7' then
        modify fun s => { s with mask := Reader.numberIn 8 word % 512 }
        succeed
      else if word.head?.any Char.isDigit then
        if (← get).isPlain then Act.raise (ofText "Illegal number: " ++ word)
        else fail 1 (word ++ ofText ": octal number out of range")
      else succeed

def ulimit (_ : List (List Char)) : Act Unit := do
  Act.print (ofText "unlimited\n")
  succeed

/-- Looks for programs in the larger dialect. Where they are found is not kept. -/
def findPrograms (words : List (List Char)) : Act Unit := do
  let (letters, names) ← options ['r', 'd', 'l', 't', 'v'] ['p'] (optionFuel words) words
  succeed
  let s ← get
  if letters.isEmpty then
    for name in names do
      let known := name.contains '/' || s.program name matches .found _
      if !known then fail 1 (name ++ ofText ": not found")

def noJob (_ : List (List Char)) : Act Unit := do
  if (← get).isPlain then Act.raise (ofText "No current job") else fail 1 (ofText "no job control")

def aliasNames (words : List (List Char)) : Act Unit := do
  succeed
  let front := if (← get).isPlain then [] else ofText "alias "
  let shown (name text : List Char) : List Char := front ++ name ++ ['='] ++ inQuotes text ++ ['\n']
  if words.isEmpty then
    for (name, text) in byName (← get).aliases do
      Act.print (shown name text)
  for word in words do
    match splitEquals word with
    | (name, some text) =>
        modify fun s => { s with aliases := (name, text) :: s.aliases.filter (·.1 != name) }
    | (name, none) =>
        match (← get).aliases.lookup name with
        | some text => Act.print (shown name text)
        | none =>
            if (← get).isPlain then
              Act.printError (ofText "alias: " ++ name ++ ofText " not found\n")
              Act.setStatus 1
            else fail 1 (name ++ ofText ": not found")

def unaliasNames (words : List (List Char)) : Act Unit := do
  succeed
  if words.head? == some ['-', 'a'] then modify fun s => { s with aliases := [] }
  for word in words do
    if (← get).aliases.any (·.1 == word) then
      modify fun s => { s with aliases := s.aliases.filter (·.1 != word) }
    else if word != ['-', 'a'] then
      if (← get).isPlain then
        Act.printError (ofText "unalias: " ++ word ++ ofText " not found\n")
        Act.setStatus 1
      else fail 1 (word ++ ofText ": not found")

end PluginBundle.Shell.Builtin
