import PluginBundle.Shell.Call
import PluginBundle.Shell.Condition

/-!
# Running commands

A step runs one command, given how the commands in it are run. Every nested run takes some of the
depth, and every step takes one from the steps that a whole run may take, so a script that does not
end leaves the shell exhausted instead of running for ever.
-/

namespace PluginBundle.Shell

namespace Act

/-- Runs a command whose status is looked at. -/
def testing (again : Runner) (c : Command) : Act Unit := do
  let before := (← get).tested
  modify fun s => { s with tested := true }
  try again.run c
  finally modify fun s => { s with tested := before }

/-- What is to be done for a command that fails. Functions and subshells leave it out. -/
def failureAction? (s : State) : Option (List Char) :=
  if s.isPlain || s.frames.length > 0 then none else s.traps.lookup 66

/-- Runs a command after which the script ends if it fails and that is wanted. -/
def checked (again : Runner) (act : Act Unit) : Act Unit := do
  act
  let s ← get
  if s.status != 0 && !s.tested then
    match failureAction? s with
    | some text =>
        modify fun s => { s with traps := s.traps.filter (·.1 != 66) }
        try runAction again text
        finally modify fun t => { t with traps := s.traps }
    | none => pure ()
    if s.option 'e' then throw .exit

/-- Runs a command whose status counts as that of a pipe. -/
def piped (again : Runner) (act : Act Unit) : Act Unit :=
  checked again do
    act
    modify fun s => { s with pipeStatuses := [s.status] }

/-! ## Loops -/

/-- Runs something in a loop. The result says whether the loop goes on. -/
def inLoop (act : Act Unit) : Act Bool := do
  try
    act
    return true
  catch e =>
    match e with
    | .leave (n + 2) => throw (.leave (n + 1))
    | .leave _ => return false
    | .resume (n + 2) => throw (.resume (n + 1))
    | .resume _ => return true
    | e => throw e

/-- The rounds of a loop with a condition. The status is that of the last round. Each round takes a
step, so `fuel` as large as the steps that are left is never used up. -/
def loopRounds (again : Runner) (whileTrue : Bool) (condition body : Command) :
    Nat → Nat → Act Unit
  | 0, _ => throw .exhausted
  | fuel + 1, last => do
      if !(← inLoop (testing again condition)) then setStatus last
      else if ((← get).status == 0) != whileTrue then setStatus last
      else if ← inLoop (again.run body) then
        loopRounds again whileTrue condition body fuel (← get).status
      else return ()

/-- The rounds of a loop over words. -/
def forRounds (again : Runner) (shown name : List Char) (body : Command) :
    List (List Char) → Act Unit
  | [] => return ()
  | word :: rest => do
      traceText shown
      assign name word
      if ← inLoop (again.run body) then forRounds again shown name body rest

/-- The value of a calculation in a counting loop; an empty one holds. -/
def counted (again : Runner) (w : Word) : Act Int := do
  let text ← Expand.wholeText again.toEngine w
  if (skipSpace text).isEmpty then return 1
  else
    traceText (ofText "(( " ++ skipSpace text ++ ofText " ))")
    calculation text

/-- The rounds of a counting loop. Each round takes a step, so `fuel` as large as the steps that are
left is never used up. -/
def countRounds (again : Runner) (test step : Word) (body : Command) : Nat → Act Unit
  | 0 => throw .exhausted
  | fuel + 1 => do
      if (← counted again test) != 0 then
        if ← inLoop (again.run body) then
          let _ ← counted again step
          countRounds again test step body fuel

/-- Runs a loop. -/
def loop (rounds : Nat → Act Unit) : Act Unit := do
  let s ← get
  set { s with loops := s.loops + 1 }
  try rounds (s.world.steps + 1)
  finally modify fun t => { t with loops := s.loops }

/-! ## Processes -/

/-- Runs a command as a process of its own. -/
def nested (again : Runner) (act : Act Unit) : Act Ending :=
  asChild State.copied (toEnd again act)

/-- Runs a command in the background. All of it is done before the script goes on. -/
def background (again : Runner) (c : Command) : Act Unit := do
  let s ← get
  let (id, w) := s.world.connect .nowhere
  set { s with world := { w with nextProcess := w.nextProcess + 1 } }
  let act : Act Unit := do
    modify fun s => { s.setStream 0 id with tested := false }
    again.run c
  let ending ← nested again act
  let number := s.world.nextProcess
  modify fun s => { s with
    background := some number, jobs := (number, ending.status) :: s.jobs, status := 0 }

/-- Runs commands, each of which reads what the one before it printed. -/
def pipeEndings (again : Runner) (input : Option Nat) : List Command → Act (List Ending)
  | [] => return []
  | c :: rest => do
      let s ← get
      let (output, w) := s.world.connect (.collected [])
      set { s with world := w }
      let connected : Act Unit := do
        modify fun s =>
          let s := match input with
            | some id => s.setStream 0 id
            | none => s
          if rest.isEmpty then s else s.setStream 1 output
        again.run c
      let ending ← nested again connected
      tell ending
      modify fun s =>
        { s with world := s.world.setChannel output (.waiting (s.world.collection output)) }
      let endings ← pipeEndings again (some output) rest
      return ending :: endings

/-- Runs a pipe. Its status is that of the last command, or of the last one that failed. -/
def pipe (again : Runner) (commands : List Command) : Act Unit := do
  let endings ← pipeEndings again none commands
  let statuses := endings.map Ending.status
  let last := statuses.getLast?.getD 0
  let status :=
    if (← get).pipeFails then ((statuses.filter (· != 0)).getLast?).getD 0 else last
  modify fun s => { s with status := status, pipeStatuses := statuses }

/-! ## Choices -/

/-- The bodies of the branches that are taken: from the first one that has a matching pattern on,
and more if that branch says so. `through` says that the branch before leads into the next one. -/
def chosen (again : Runner) (subject : List Char) :
    Bool → List (List Word × Command × AfterBranch) → Act (List Command)
  | _, [] => return []
  | through, (patterns, body, after) :: rest => do
      let found ← patterns.foldlM (fun found w => do
        if found then return true
        else
          let items ← Expand.choicePattern again.toEngine w
          return matchesPattern items subject) through
      if !found then chosen again subject false rest
      else
        match after with
        | .ends => return [body]
        | .fallsThrough => return body :: (← chosen again subject true rest)
        | .looksOn => return body :: (← chosen again subject false rest)

/-- Runs the branches that were taken. -/
def runBranches (again : Runner) : List Command → Act Unit
  | [] => return ()
  | .nothing :: rest => do
      setStatus 0
      runBranches again rest
  | body :: rest => do
      again.run body
      runBranches again rest

/-! ## Traces -/

/-- A word as a trace shows it, as far as it is spelled out in the script. -/
def spelledWord : Word → List Char
  | [] => []
  | .literal text quoted :: rest =>
      (if quoted && !text.all Char.isAlphanum then ['\''] ++ text ++ ['\''] else text)
        ++ spelledWord rest
  | .parameter (.named name) .plain quoted :: rest =>
      let mark := if quoted then ['"'] else []
      mark ++ '$' :: name ++ mark ++ spelledWord rest
  | _ :: rest => spelledWord rest

def spelledWords (words : List Word) : List Char := [' '].intercalate (words.map spelledWord)

/-! ## Commands -/

/-- Runs a command, given how the commands in it are run. -/
def runCommand (again : Runner) (c : Command) : Act Unit :=
  let engine := again.toEngine
  match c with
  | .nothing => setStatus 0
  | .simple line assignments words redirections =>
      piped again (simple again line assignments words redirections)
  | .redirected line c redirections => do
      modify fun s => { s with line := if line = 0 then s.line else line }
      let before ← get
      redirected again redirections (return ()) (again.run c)
      let s ← get
      if s.streams.length != before.streams.length || !s.drains.isEmpty then
        drain again before.streams
  | .sequence first second => do
      again.run first
      again.run second
  | .both first second => do
      testing again first
      if (← get).status = 0 then again.run second
  | .either first second => do
      testing again first
      if (← get).status != 0 then again.run second
  | .negated c => do
      testing again c
      setStatus (if (← get).status = 0 then 1 else 0)
  | .pipe commands => checked again (pipe again commands)
  | .background c => background again c
  | .conditional condition yes no => do
      testing again condition
      if (← get).status = 0 then again.run yes
      else
        match no with
        | some no => again.run no
        | none => setStatus 0
  | .loop whileTrue condition body =>
      loop fun fuel => loopRounds again whileTrue condition body fuel 0
  | .forEach line name words body => do
      modify fun s => { s with line := line }
      let fields ← Expand.allFields engine words
      setStatus 0
      let shown := ofText "for " ++ name ++ ofText " in " ++ spelledWords words
      loop fun _ => forRounds again shown name body fields
  | .forCount start test step body => do
      let _ ← counted again start
      setStatus 0
      loop (countRounds again test step body)
  | .choose line subject branches => do
      modify fun s => { s with line := line }
      let text ← Expand.wholeText engine subject
      traceText (ofText "case " ++ spelledWord subject ++ ofText " in")
      match ← chosen again text false branches with
      | [] => setStatus 0
      | bodies => runBranches again bodies
  | .define _ name body => do
      modify fun s =>
        { s with functions := (name, body) :: s.functions.filter (·.1 != name), status := 0 }
  | .subshell line c redirections => piped again do
      modify fun s => { s with line := line }
      let connected : Act Unit := do
        if ← Redirect.connectAll engine redirections then again.run c else throw .error
      waitFor (← nested again connected)
  | .calculation line source => piped again do
      modify fun s => { s with line := line }
      let text ← Expand.wholeText engine source
      traceText (ofText "(( " ++ text ++ ofText " ))")
      modify fun s => { s with command := some "((".toList }
      let n ← (try some <$> calculation text
        catch e => if e = .discarded then pure none else throw e
        finally modify fun s => { s with command := none })
      setStatus (if n.any (· != 0) then 0 else 1)
  | .condition line test => piped again do
      modify fun s => { s with line := line }
      setStatus 0
      let holds ← test.holds engine fun text =>
        traceText (ofText "[[ " ++ text ++ ofText " ]]")
      -- Status two says that a regular expression is none.
      modify fun s => s.withStatus (if holds then 0 else max 1 s.status)
  | .printFile line name => do
      modify fun s => { s with line := line }
      if ← Redirect.connectAll engine [.file 0 .input name] then
        print (← takeInput)
        setStatus 0
  | .timed c => do
      again.run c
      let seconds := ofText "\t0m0.000s\n"
      printError (ofText "\nreal" ++ seconds ++ ofText "user" ++ seconds ++ ofText "sys" ++ seconds)

/-- Runs a command as one of the steps that are left, and lets signals take effect. -/
def step (again : Runner) (c : Command) : Act Unit := do
  let s ← get
  match s.world.steps with
  | 0 => throw .exhausted
  | steps + 1 =>
      set { s with world := { s.world with steps := steps } }
      if !s.option 'n' then
        runCommand again c
        deliver again

end Act

end PluginBundle.Shell
