import PluginBundle.Shell.Process
import PluginBundle.Shell.Reader.Commands

/-!
# Scripts as texts

A script is run line by line: each line is read when those before it have been run. What is to be
done for signals and at the end of a script is a script too.
-/

namespace PluginBundle.Shell

namespace Act

/-! ## Faults -/

/-- The message for a script that is not well formed, in the larger dialect. -/
def extendedFault (f : SyntaxFault) : List Char :=
  match f.cause with
  | .unexpected .endOfScript _ => ofText "syntax error: unexpected end of file"
  | .condition message token =>
      ofText (message.replace "%" (String.ofList token.sign))
  | .unexpected token _ =>
      ofText "syntax error near unexpected token \x60" ++ token.sign ++ ofText "'"
  | .openQuote mark =>
      ofText "unexpected EOF while looking for matching \x60" ++ mark :: ofText "'"
  | .openBrace => ofText "unexpected EOF while looking for matching \x60\x7d'"
  | .openCalculation => ofText "unexpected EOF while looking for matching \x60)'"
  | .openBackquote => ofText "unexpected EOF while looking for matching \x60\x60'"
  | cause => ofText "syntax error: " ++ ofText cause.message

/-- The text of a line in what is left of a script. -/
def lineOf (source : Source) (line : Nat) : List Char :=
  let rest := (List.range (line - source.line)).foldl (fun cs _ =>
    (cs.dropWhile (!Reader.endsLine ·)).drop 1) source.rest
  rest.takeWhile (!Reader.endsLine ·)

/-- Refuses the rest of a script. The larger dialect names what the script is. -/
def syntaxFault (source : Source) (front : String) (f : SyntaxFault) : Act Unit := do
  let plain := (← get).isPlain
  let line :=
    match f.cause with
    | .unexpected .newline _ => if plain then f.line else f.line - 1
    | _ => f.line
  modify fun s => { s with line := line }
  let s ← get
  if s.isPlain then complain (ofText ("Syntax error: " ++ f.cause.message))
  else
    let told (text : List Char) : Act Unit :=
      printError ({ s with name := s.name ++ ofText front, command := none }.complaint text)
    told (extendedFault f)
    let shown : Act Unit := told (ofText "\x60" ++ lineOf source line ++ ofText "'")
    match f.cause with
    | .unexpected .endOfScript _ => pure ()
    | .unexpected _ _ => shown
    | .condition _ token =>
        told (ofText "syntax error near \x60" ++ token.sign ++ ['\''])
        shown
    | _ => pure ()
  setStatus 2
  throw (if s.isPlain then .error else .malformed)

/-! ## Lines -/

/-- Shows the lines that were read, if that is wanted. -/
def showRead (before after : Source) : Act Unit := do
  if (← get).option 'v' then
    printError (before.rest.take (before.rest.length - after.rest.length))

/-- Warns of input in the script that has no end, in the larger dialect. -/
def showWarnings (source : Source) : Act Unit := do
  let s ← get
  if !s.isPlain then
    for (start, stop, mark) in source.warnings.reverse do
      printError ({ s with line := stop, command := none }.complaint
        (ofText "warning: here-document at line " ++ Nat.toDigits 10 start
          ++ ofText " delimited by end-of-file (wanted \x60" ++ mark ++ ofText "')"))

/-- Runs the commands of a line. In the larger dialect an error may end just them. -/
def runLine (again : Runner) (c : Command) : Act Unit := do
  try again.run c
  catch e => if e = .discarded && !(← get).inner then setStatus 1 else throw e

/-- Runs what is left of a script, and says whether there was a command in it. Each round takes a
line, so `fuel` beyond the length of the script is never used up. -/
def runLines (again : Runner) (front : String) : Nat → Bool → Source → Act Bool
  | 0, ran, _ => return ran
  | fuel + 1, ran, source => do
      let s ← get
      let source := { source with aliases := if s.isPlain then s.aliases else [] }
      match source.nextLine with
      | .error f =>
          syntaxFault source front f
          return ran
      | .ok .finished => return ran
      | .ok (.commands none rest) =>
          showRead source rest
          runLines again front fuel ran rest
      | .ok (.commands (some c) rest) =>
          showRead source rest
          showWarnings rest
          runLine again c
          runLines again front fuel true { rest with warnings := [] }

/-- Runs a text whose lines are counted from a line on. The status of one without commands is
zero. -/
def runText (again : Runner) (front : String) (line : Nat) (text : List Char) : Act Unit := do
  let s ← get
  let whole := s.isPlain || text.getLast? == some '\n'
  let text := if whole then text else text ++ ['\n']
  let ran ← runLines again front (text.length + 2) false (.ofText s.dialect line text)
  if !ran then setStatus 0

/-! ## Actions -/

/-- Runs what is to be done for a signal. It leaves the status as it was. -/
def runAction (again : Runner) (text : List Char) : Act Unit := do
  let s ← get
  set { s with tested := false }
  runText again "" 1 text
  modify fun t => { t with status := s.status, tested := s.tested }

/-- Lets the signal take effect that the process was sent. -/
def deliver (again : Runner) : Act Unit := do
  let s ← get
  match s.doomed with
  | none => return ()
  | some signal =>
      if s.inner then return ()
      else
        set { s with doomed := none }
        let action := if signal = 9 ∨ signal = 19 then none else s.traps.lookup signal
        match action, signalEffect signal with
        | some text, _ => if text.isEmpty then return () else runAction again text
        | none, .ignored => return ()
        | none, .stops => throw .exhausted
        | none, .kills => throw (.killed signal)

/-- Runs what is to be done at the end of a script. The status stays as it was unless the action
ends the script itself. -/
def runLastAction (again : Runner) (text : List Char) : Act Unit := do
  let s ← get
  set { s with
    traps := s.traps.filter (·.1 != 0), ending := some s.status, loops := 0, calls := 0
    tested := false }
  try
    runText again "" 1 text
    setStatus s.status
  catch e =>
    match e with
    | .exit => return ()
    | .error => return ()
    | .killed signal => throw (.killed signal)
    | .exhausted => throw .exhausted
    | _ => setStatus s.status

/-- Does what is left to do with what a command printed into streams of its own, and closes the
streams that were opened for it. -/
def drain (again : Runner) (before : List (Nat × Nat)) : Act Unit := do
  let s ← get
  set { s with
    drains := []
    streams := s.streams.filter fun x => x.1 < 44 || before.any (·.1 == x.1) }
  for (id, script, streams) in s.drains do
    let t ← get
    let w := t.world.setChannel id (.waiting (t.world.collection id))
    set (({ t with world := w, streams := streams } : State).setStream 0 id)
    again.nest script
    modify fun u => { u with streams := t.streams, status := t.status }

/-- Runs a script with what it is to do at its end. -/
def toEnd (again : Runner) (script : Act Unit) : Act Unit := do
  try script
  catch e =>
    match e with
    | .killed signal => throw (.killed signal)
    | .exhausted => throw .exhausted
    | _ => pure ()
  match (← get).traps.lookup 0 with
  | some text => if text.isEmpty then pure () else runLastAction again text
  | none => pure ()
  let s ← get
  if !s.drains.isEmpty then
    drain again s.streams
    setStatus s.status

end Act

end PluginBundle.Shell
