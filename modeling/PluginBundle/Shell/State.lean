import PluginBundle.Process.Environment
import PluginBundle.Shell.Channel
import PluginBundle.Shell.Syntax

/-!
# The state of a running shell

Variables, arguments, functions, options, streams and what the shell shares with other processes. An
action changes the state, and may stop what is being run.
-/

namespace PluginBundle.Shell

/-- What names an element of a variable: its number, or a text if the variable is a table. -/
inductive ElementKey where
  | number (n : Nat)
  | text (name : List Char)
  deriving DecidableEq, Repr

def ElementKey.shown : ElementKey → List Char
  | .number n => Nat.toDigits 10 n
  | .text name => name

/-- What a variable makes of the values that it gets. -/
inductive ValueKind where
  | anything
  | number
  | upper
  | lower
  /-- The value is the name of another variable that is meant. -/
  | reference
  deriving DecidableEq, Repr

/-- How the elements of a variable are named. -/
inductive ElementNames where
  /-- The variable has one value, until it gets another element. -/
  | single
  | numbers
  | texts
  deriving DecidableEq, Repr

/-- A variable with its elements, in the order of their numbers, or last one first for a table. The
value is the element of number zero. Without values a variable is not set. -/
structure Variable where
  items : List (ElementKey × List Char)
  exported : Bool
  readonly : Bool
  names : ElementNames
  kind : ValueKind
  deriving DecidableEq, Repr

namespace Variable

/-- A variable without values. -/
def missing : Variable := ⟨[], false, false, .single, .anything⟩

/-- A variable of one value. -/
def holding (value : List Char) (exported : Bool) : Variable :=
  ⟨[(.number 0, value)], exported, false, .single, .anything⟩

/-- A list of values. -/
def ofList (values : List (List Char)) : Variable :=
  { missing with
    items := ((List.range values.length).map .number).zip values, names := .numbers }

/-- The key of the value, if no element is named. -/
def mainKey (v : Variable) : ElementKey := if v.names = .texts then .text ['0'] else .number 0

def value? (v : Variable) : Option (List Char) := v.items.lookup v.mainKey

/-- The place of a name among those of a table. -/
def slot (name : List Char) : Nat :=
  (name.foldl (fun h c => (h * 16777619 % 4294967296) ^^^ c.toNat) 2166136261) % 1024

/-- The elements in the order in which they are shown. -/
def elements (v : Variable) : List (ElementKey × List Char) :=
  if v.names = .texts then
    v.items.mergeSort fun a b => slot a.1.shown ≤ slot b.1.shown
  else v.items

/-- The variable with a value for an element. -/
def withElement (v : Variable) (key : ElementKey) (value : List Char) : Variable :=
  match key with
  | .number n =>
      let isBefore (x : ElementKey × List Char) : Bool :=
        match x.1 with
        | .number m => m < n
        | .text _ => false
      let before := v.items.filter isBefore
      let behind := v.items.filter fun x => !isBefore x && x.1 != key
      { v with items := before ++ (key, value) :: behind }
  | .text _ =>
      if v.items.any (·.1 == key) then
        { v with items := v.items.map fun x => if x.1 = key then (key, value) else x }
      else { v with items := (key, value) :: v.items }

def withoutElement (v : Variable) (key : ElementKey) : Variable :=
  { v with items := v.items.filter (·.1 != key) }

/-- One more than the largest number of an element. -/
def nextNumber (v : Variable) : Nat :=
  v.items.foldl (fun n x =>
    match x.1 with
    | .number m => max n (m + 1)
    | .text _ => n) 0

/-- The number of an element; negative ones count from behind. -/
def place (v : Variable) (n : Int) : Nat :=
  if n ≥ 0 then n.toNat else ((v.nextNumber : Int) + n).toNat

end Variable

/-- A running shell. -/
structure State where
  dialect : Dialect
  /-- The name of the script, and its arguments. -/
  name : List Char
  arguments : List (List Char)
  bindings : List (List Char × Variable)
  functions : List (List Char × Command)
  aliases : List (List Char × List Char)
  /-- The status of the last command. -/
  status : Nat
  /-- The status of the last script that was nested in a word of the present command. -/
  nested : Nat
  /-- The status with which the script ends, while it carries out what it is to do at its end. -/
  ending : Option Nat
  /-- The channels of the streams that are open. -/
  streams : List (Nat × Nat)
  world : World
  cwd : Place
  /-- The options that are on, by their letters. -/
  options : List Char
  /-- A pipe fails with the last of its commands that fails. -/
  pipeFails : Bool
  /-- What is run for a signal; number zero stands for the end of the script. -/
  traps : List (Nat × List Char)
  /-- How many loops and functions are being run. -/
  loops : Nat
  calls : Nat
  /-- The variables that a function has to give back, as they were. -/
  saved : List (List Char × Option Variable)
  /-- The status of what is run is looked at, so that a failure is not the end. -/
  tested : Bool
  line : Nat
  /-- The command of the shell itself that is being run, for messages. -/
  command : Option (List Char)
  process : Nat
  /-- The shell is a part of the process that only shares its number. -/
  inner : Bool
  /-- The process that was last put into the background, and the status of all of those. -/
  background : Option Nat
  jobs : List (Nat × Nat)
  /-- What new files are not allowed, as bits. -/
  mask : Nat
  /-- Letters of the present word that were taken as options. -/
  optionsTaken : Nat
  /-- Something could not be printed. -/
  muted : Bool
  /-- A signal for the process that this one is part of. -/
  doomed : Option Nat
  /-- The functions that are being run, the last one first. -/
  frames : List (List Char)
  /-- The status of each command of the last pipe. -/
  pipeStatuses : List Nat
  /-- How many shells this one is nested in. -/
  depth : Nat
  /-- The options of the larger dialect that are on, by their names. -/
  switches : List String
  /-- Directories to go back to. -/
  stacked : List Place
  /-- What is still to be done with text that was printed: its channel, the command, and where the
  streams of that lead. -/
  drains : List (Nat × Command × List (Nat × Nat))
  /-- How deep what is run is nested, for traces. -/
  levels : Nat

/-- Why what is being run stops. -/
inductive Stop where
  | exit
  /-- An error that ends a script. -/
  | error
  /-- An error that ends the line that is being run, in the larger dialect. -/
  | discarded
  /-- A text that is not well formed, in the larger dialect. -/
  | malformed
  | returned
  /-- So many loops are left. -/
  | leave (loops : Nat)
  /-- The last one of so many loops goes on with its next round. -/
  | resume (loops : Nat)
  | killed (signal : Nat)
  | exhausted
  deriving DecidableEq, Repr

abbrev Act := ExceptT Stop (StateM State)

/-- What a shell with a state becomes when it acts, and how the action ends. -/
def Act.from {α : Type} (a : Act α) (s : State) : Except Stop α × State := a.run.run s

namespace State

def isPlain (s : State) : Bool := s.dialect == .plain

def option (s : State) (letter : Char) : Bool := s.options.contains letter

/-- An option of the larger dialect is on. -/
def switch (s : State) (name : String) : Bool := s.switches.contains name

def withStatus (s : State) (status : Nat) : State := { s with status := status }

/-! ## Variables -/

/-- The name that a name leads to, if variables refer to others. -/
def meant (s : State) : Nat → List Char → List Char
  | 0, name => name
  | fuel + 1, name =>
      match s.bindings.lookup name with
      | some v =>
          if v.kind = .reference then
            match v.value? with
            | some other => s.meant fuel other
            | none => name
          else name
      | none => name

def binding? (s : State) (name : List Char) : Option Variable :=
  s.bindings.lookup (s.meant 8 name)

/-- A variable, without regard to what it refers to. -/
def setOwn (s : State) (name : List Char) (v : Variable) : State :=
  { s with bindings := (name, v) :: s.bindings.filter (·.1 != name) }

def setVariable (s : State) (name : List Char) (v : Variable) : State :=
  s.setOwn (s.meant 8 name) v

/-- The value of a variable. -/
def value? (s : State) (name : List Char) : Option (List Char) :=
  (s.binding? name).bind (·.value?)

def value (s : State) (name : String) : List Char := (s.value? name.toList).getD []

/-- The variable with a value as its only one. -/
def setValue (s : State) (name value : List Char) : State :=
  let old := (s.binding? name).getD .missing
  let v := { old with exported := old.exported || s.option 'a' }
  if v.names = .single then s.setVariable name { v with items := [(.number 0, value)] }
  else s.setVariable name (v.withElement v.mainKey value)

/-- An element with a value. -/
def setElement (s : State) (name : List Char) (key : ElementKey) (value : List Char) : State :=
  let old := (s.binding? name).getD .missing
  let names := if old.names = .single then .numbers else old.names
  let v := { old with exported := old.exported || s.option 'a', names := names }
  s.setVariable name (v.withElement key value)

def unset (s : State) (name : List Char) : State :=
  { s with bindings := s.bindings.filter (·.1 != name) }

/-- The separators of fields. -/
def separators (s : State) : List Char := (s.value? "IFS".toList).getD [' ', '\t', '\n']

/-- The path that a text names. -/
def path (cs : List Char) : Path := ⟨textOf cs⟩

/-! ## Streams -/

/-- The channel that a stream leads to. -/
def channel? (s : State) (stream : Nat) : Option Nat := s.streams.lookup stream

def setStream (s : State) (stream id : Nat) : State :=
  { s with streams := (stream, id) :: s.streams.filter (·.1 != stream) }

def closeStream (s : State) (stream : Nat) : State :=
  { s with streams := s.streams.filter (·.1 != stream) }

/-- Writes to a stream; nothing if that cannot be. -/
def write? (s : State) (stream : Nat) (text : List Char) : Option State :=
  (s.channel? stream).bind fun id => (s.world.write? id text).map fun w => { s with world := w }

/-- The name in front of a message, with the line and the command that it is about. -/
def complaint (s : State) (text : List Char) : List Char :=
  let line := if s.isPlain then ": " else ": line "
  let about :=
    match s.command with
    | some command => command ++ [':', ' ']
    | none => []
  s.name ++ ofText line ++ Nat.toDigits 10 s.line ++ [':', ' '] ++ about ++ text ++ ['\n']

end State

namespace Act

def print (text : List Char) : Act Unit := do
  match (← get).write? 1 text with
  | some s => set s
  | none => modify fun s => { s with muted := true }

def printError (text : List Char) : Act Unit := do
  match (← get).write? 2 text with
  | some s => set s
  | none => return ()

/-- A message. -/
def complain (text : List Char) : Act Unit := do printError ((← get).complaint text)

def setStatus (status : Nat) : Act Unit := modify (·.withStatus status)

/-- An error with its message. Unless something in between takes it, it ends a script, or a line of
it in the larger dialect. -/
def raise {α : Type} (text : List Char) : Act α := do
  complain text
  let plain := (← get).isPlain
  setStatus (if plain then 2 else 1)
  throw (if plain then .error else .discarded)

/-- An error with its message that ends a script. -/
def abandon {α : Type} (text : List Char) : Act α := do
  complain text
  setStatus (if (← get).isPlain then 2 else 1)
  throw .error

/-- Gives a variable its value, unless the variable must stay as it is. -/
def assign (name value : List Char) : Act Unit := do
  let s ← get
  if (s.binding? name).any (·.readonly) then
    if s.isPlain then raise (name ++ ofText ": is read only")
    else
      printError ({ s with command := none }.complaint (name ++ ofText ": readonly variable"))
      setStatus 1
      throw .discarded
  set (s.setValue name value)

/-- Takes a line from a stream. -/
def takeLineFrom (stream : Nat) : Act (List Char) := do
  let s ← get
  match s.channel? stream with
  | none => return []
  | some id =>
      let (line, w) := s.world.takeLine id
      set { s with world := w }
      return line

/-- Takes a line of the input. -/
def takeLine : Act (List Char) := takeLineFrom 0

/-- Takes all of a stream. -/
def takeAllFrom (stream : Nat) : Act (List Char) := do
  let s ← get
  match s.channel? stream with
  | none => return []
  | some id =>
      let (text, w) := s.world.takeAll id
      set { s with world := w }
      return text

/-- The text of the input. -/
def takeInput : Act (List Char) := takeAllFrom 0

end Act

end PluginBundle.Shell
