import PluginBundle.Shell.Assign
import PluginBundle.Shell.Describe
import PluginBundle.Shell.Redirect
import PluginBundle.Shell.Script

/-!
# Calling commands by words

The words of a simple command are expanded, its streams are connected, its variables get their
values, and then the first word says what is called: a function, a command of the shell, or a
program.
-/

namespace PluginBundle.Shell

namespace Act

/-- Does something that is only ended by a stop of one kind. -/
def upTo (stop : Stop) (act : Act Unit) : Act Unit := do
  try act
  catch e => if e = stop then return () else throw e

/-! ## Functions -/

/-- The deepest nesting of calls. Behind it the stack of the larger dialect counts as used up. -/
def deepestCall : Nat := 1000

/-- Calls a function. Its arguments and the variables that it keeps to itself are put back. -/
def callFunction (again : Runner) (name : List Char) (body : Command)
    (arguments : List (List Char)) : Act Unit := do
  let s ← get
  if s.frames.length ≥ deepestCall then
    if s.isPlain then
      raise (ofText ("Maximum function recursion depth (" ++ Nat.repr deepestCall ++ ") reached"))
    else throw (.killed 11)
  set { s with
    arguments := arguments, calls := s.calls + 1, loops := 0, saved := []
    frames := name :: s.frames }
  try
    upTo .returned (again.run body)
  finally
    modify fun t =>
      let t := t.saved.foldl (fun t v =>
        match v.2 with
        | some old => t.setOwn v.1 old
        | none => t.unset v.1) t
      { t with
        arguments := s.arguments, calls := s.calls, loops := s.loops, saved := s.saved
        frames := s.frames }

/-! ## Commands of the shell that run other ones -/

/-- Does something one level deeper, for traces. -/
def deeper (act : Act Unit) : Act Unit := do
  modify fun s => { s with levels := s.levels + 1 }
  try act finally modify fun s => { s with levels := s.levels - 1 }

/-- Runs a text in the shell itself. -/
def evaluate (again : Runner) (words : List (List Char)) : Act Unit := do
  let text := [' '].intercalate (words.filter (!·.isEmpty))
  let s ← get
  if s.isPlain then runText again "" 1 text
  else
    set { s with command := none }
    deeper (upTo .malformed (runText again ": eval" s.line text))

/-- Runs the script of a file in the shell itself. A name without a slash is looked up along the
search path. -/
def runFile (again : Runner) (words : List (List Char)) : Act Unit := do
  match words.dropWhile (· == ['-', '-']) with
  | [] =>
      if (← get).isPlain then return ()
      else
        complain (ofText "filename argument required")
        printError (ofText ".: usage: . filename [arguments]\n")
        setStatus 2
  | name :: arguments => do
      let s ← get
      let dirs := if name.contains '/' then [] else splitSearchPath (textOf (s.value "PATH"))
      let files := dirs.map fun dir => dir.join (State.path name)
      let here := name.contains '/' || !s.isPlain
      let files := if here then files ++ [State.path name] else files
      let readable (p : Path) : Bool := s.world.disk.isFile s.cwd p
      match (files.find? readable).map (s.world.disk.read s.cwd) with
      | some (.ok contents) =>
          let given := if s.isPlain || arguments.isEmpty then s.arguments else arguments
          set { s with
            tested := false, arguments := given, calls := s.calls + 1
            name := if s.isPlain then s.name else name
            command := if s.isPlain then some name else none }
          try
            deeper (upTo .returned (upTo .malformed (runText again "" 1 (ofBytes contents))))
          finally
            modify fun t => { t with
              tested := s.tested, calls := s.calls, name := s.name
              arguments := if s.isPlain || arguments.isEmpty then t.arguments else s.arguments }
      | _ =>
          if s.isPlain then
            if here then raise (ofText "cannot open " ++ name ++ ofText ": No such file")
            else raise (name ++ ofText ": not found")
          else
            modify fun s => { s with command := none }
            complain (name ++ ofText ": No such file or directory")
            setStatus 1

/-- The status that a command is told to end with. -/
def toldStatus (otherwise : Nat) (words : List (List Char)) : Act Nat :=
  match words with
  | [] => return otherwise
  | word :: _ => do
      if (← get).isPlain then Builtin.count word
      else
        match number? word with
        | some n => return (n.emod 256).toNat
        | none => do
            complain (word ++ ofText ": numeric argument required")
            return 2

/-- Ends the script. -/
def exit (words : List (List Char)) : Act Unit := do
  let s ← get
  let status ← toldStatus (s.ending.getD s.status) words
  setStatus status
  throw .exit

/-- Goes back from a function or a file. -/
def leaveFunction (words : List (List Char)) : Act Unit := do
  let s ← get
  if !s.isPlain && s.calls = 0 then
    complain (ofText "can only \x60return' from a function or sourced script")
    setStatus 2
  else
    let status ← toldStatus s.status words
    setStatus status
    throw .returned

/-- Leaves loops, or goes on with their next round. -/
def leaveLoop (goesOn : Bool) (words : List (List Char)) : Act Unit := do
  let s ← get
  let n ←
    match words with
    | [] => pure 1
    | word :: _ => Builtin.count word
  if n = 0 then raise (ofText "Illegal number: 0")
  let loops := min n s.loops
  setStatus 0
  if loops = 0 then
    if !s.isPlain then
      complain (ofText "only meaningful in a \x60for', \x60while', or \x60until' loop")
  else if goesOn then throw (.resume loops)
  else throw (.leave loops)

/-- Replaces the shell by a program, if one is named. -/
def execute (again : Runner) (words : List (List Char)) : Act Unit := do
  match words.dropWhile (· == ['-', '-']) with
  | [] => setStatus 0
  | name :: arguments => replaceBy again name arguments

/-- The action of a command that runs other ones, or decides how the script goes on. -/
def running (again : Runner) (name : List Char) (words : List (List Char)) : Act Unit :=
  match String.ofList name with
  | "eval" => evaluate again words
  | "exec" => execute again words
  | "exit" => exit words
  | "return" => leaveFunction words
  | "break" => leaveLoop false words
  | "continue" => leaveLoop true words
  | "type" => Builtin.typeNames words
  | "command" => Builtin.commandNames words
  | "builtin" => setStatus 0
  | _ => runFile again words

/-! ## What is called -/

/-- The words that a command calls, without the names in front that only say how they are looked
up, and whether functions count. -/
def calledWords (plain : Bool) : Nat → List (List Char) → Bool × List (List Char)
  | 0, words => (true, words)
  | fuel + 1, words =>
      match words with
      | name :: rest =>
          let isFront := name == "command".toList || (!plain && name == "builtin".toList)
          let behind := rest.dropWhile fun w => w == ['-', '-'] || w == ['-', 'p']
          match behind with
          | (c :: _) :: _ =>
              if isFront && c != '-' then (false, (calledWords plain fuel behind).2)
              else (true, words)
          | _ => (true, words)
      | [] => (true, words)

/-- Runs a command of the shell. If it is guarded, an error in it only fails it. -/
def runBuiltin (guarded : Bool) (name : List Char) (act : Act Unit) : Act Unit := do
  let outer := (← get).command
  modify fun s => { s with command := some name, muted := false }
  try
    if guarded then upTo .discarded (upTo .error act) else act
    let s ← get
    if s.muted then
      complain (if s.isPlain then name ++ ofText ": I/O error"
        else ofText "write error: Bad file descriptor")
      setStatus 1
  finally
    modify fun s => { s with command := outer }

/-- Calls what words stand for. -/
def call (again : Runner) (special functionsToo : Bool) (name : List Char)
    (arguments : List (List Char)) : Act Unit := do
  let s ← get
  match if functionsToo then s.functions.lookup name else none with
  | some body => callFunction again name body arguments
  | none =>
      match builtin? s name with
      | some b => runBuiltin (!special) name (b.run arguments)
      | none =>
          if isBuiltin s name then
            runBuiltin (s.isPlain && !special) name (running again name arguments)
          else runProgram again name arguments

/-! ## Words -/

/-- Commands of the shell to which assignments are handed over as they are. -/
def takesAssignments (plain : Bool) (words : List (List Char)) : Bool :=
  let names := ["export", "readonly", "local"]
  let names := if plain then names else names ++ ["declare", "typeset"]
  match (calledWords plain words.length words).2 with
  | name :: _ => names.contains (String.ofList name)
  | [] => false

/-- The list that a word gives to a variable. -/
def listOf? (w : Word) : Option Assignment :=
  match w, w.getLast? with
  | .literal text false :: _, some (.elements items) =>
      some (.assign (text.takeWhile isNamePart) none (text.contains '+') (.list items))
  | _, _ => none

/-- The fields of the words of a command. -/
def commandFields (again : Runner) : List (List Char) → List Word → Act (List (List Char))
  | before, [] => return before
  | before, w :: rest => do
      let engine := again.toEngine
      if looksAssigned w && takesAssignments (← get).isPlain before then
        let text ← Expand.assignedText engine w
        -- A list is handed over behind the call; the name alone stands for it.
        let text := if (listOf? w).isSome then text.takeWhile isNamePart else text
        commandFields again (before ++ [text]) rest
      else
        let fields ← Expand.allFields engine [w]
        commandFields again (before ++ fields) rest

/-- A word as it is shown in a trace. -/
def tracedWord (plain : Bool) (word : List Char) : List Char :=
  let isSafe (c : Char) : Bool := c.isAlphanum || "_-+=:,./@%^#~".toList.contains c
  if plain || (word.all isSafe && !word.isEmpty && word.head? != some '~' && word.head? != some '#')
  then word
  else ['\''] ++ word.flatMap (fun c => if c = '\'' then "'\\''".toList else [c]) ++ ['\'']

/-- An assignment as it is shown in a trace. -/
def tracedAssignment (plain : Bool) (shown : List Char) : List Char :=
  match Builtin.splitEquals shown with
  | (name, some value) =>
      name ++ '=' :: if value.head? == some '(' || value.isEmpty then value
        else tracedWord plain value
  | (name, none) => name

/-- What stands in front of the lines of a trace. In the larger dialect its first character is
repeated by the levels. -/
def traceFront (s : State) : List Char :=
  let front := s.value "PS4"
  if s.isPlain then front else List.replicate s.levels (front.headD '+') ++ front

/-- Shows a text before what it stands for is run, if that is wanted. -/
def traceText (text : List Char) : Act Unit := do
  let s ← get
  if s.option 'x' && !s.isPlain then printError (traceFront s ++ text ++ ['\n'])

/-- Shows a command before it is run, if that is wanted. -/
def trace (stream : Option Nat) (assignments words : List (List Char)) : Act Unit := do
  let s ← get
  if s.option 'x' then
    let front := traceFront s
    let assignments := assignments.map (tracedAssignment s.isPlain)
    let words := words.map (tracedWord s.isPlain)
    let line (parts : List (List Char)) : List Char := front ++ [' '].intercalate parts ++ ['\n']
    let text :=
      if s.isPlain then line (assignments ++ words)
      else
        assignments.flatMap (fun a => line [a]) ++ if words.isEmpty then [] else line words
    match stream.bind fun id => s.world.write? id text with
    | some w => set { s with world := w }
    | none => return ()

/-! ## Streams -/

/-- The streams that a redirection connects. -/
def connectedStreams : Redirection → List Nat
  | .file stream _ _ => [stream]
  | .duplicate stream _ => [stream]
  | .inline stream _ => [stream]
  | .outputs _ _ => [1, 2]

/-- Streams lead again to where they led before. -/
def restoreStreams (before : State) (redirections : List Redirection) : Act Unit :=
  modify fun s =>
    (redirections.flatMap connectedStreams).foldl (fun s stream =>
      match before.channel? stream with
      | some id => s.setStream stream id
      | none => s.closeStream stream) s

/-- Does something with other streams. It is left out if they cannot be connected. -/
def redirected (again : Runner) (redirections : List Redirection) (failed act : Act Unit) :
    Act Unit := do
  if redirections.isEmpty then act
  else
    let before ← get
    try
      if ← Redirect.connectAll again.toEngine redirections then act else failed
    finally restoreStreams before redirections

/-! ## Simple commands -/

/-- Calls words with variables that only they see. -/
def callWith (again : Runner) (special functionsToo : Bool) (errors : Option Nat)
    (assignments lists : List Assignment) (shown : List (List Char)) (name : List Char)
    (arguments : List (List Char)) : Act Unit := do
  let before ← get
  let kept := special && before.isPlain
  try
    let given ←
      if kept then Assign.all again.toEngine assignments
      else Assign.exported again.toEngine assignments
    trace errors given shown
    call again special functionsToo name arguments
    for a in lists do
      Assign.giveList again.toEngine a
  finally
    if !kept then modify (Assign.restore before (assignments.map Assignment.name))

/-- Runs a simple command. Without words its variables keep their values, and the status is that of
the last nested script. -/
def simple (again : Runner) (line : Nat) (assignments : List Assignment) (words : List Word)
    (redirections : List Redirection) : Act Unit := do
  modify fun s => { s with line := line, nested := 0 }
  let before ← get
  let fields ← commandFields again [] words
  let s ← get
  let errors := s.channel? 2
  match fields with
  | [] =>
      redirected again redirections (return ()) do
        let given ← Assign.all again.toEngine assignments
        trace errors given []
        setStatus (← get).nested
  | first :: _ =>
      let special := isSpecial s first && !s.functions.any (·.1 == first)
      let (functionsToo, called) := calledWords s.isPlain fields.length fields
      let name := called.headD []
      let arguments := called.drop 1
      let lists := words.filterMap listOf?
      let act := callWith again special functionsToo errors assignments lists fields name arguments
      if name = "exec".toList && arguments.isEmpty then
        if ← Redirect.connectAll again.toEngine redirections then act
        else if s.isPlain then throw .error
      else redirected again redirections (if special then throw .error else return ()) act
      let t ← get
      let changed := t.streams.length != before.streams.length || !t.drains.isEmpty
      if changed && name != "exec".toList then drain again before.streams

end Act

end PluginBundle.Shell
