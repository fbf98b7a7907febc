import PluginBundle.Tools.Basic

/-!
# Programs that run other ones

Programs that run another one in other surroundings, with arguments from the input, or for some
time, and those that look programs up.
-/

namespace PluginBundle.Tools

open PluginBundle.Shell

/-! ## Running -/

/-- What comes of running a program. -/
inductive Ran where
  | ended (e : Ending)
  | missing (cause : List Char)
  | refused (cause : List Char)
  deriving DecidableEq, Repr

/-- Runs a program in a process. -/
def runCommand (again : Runner) (name : List Char) (arguments : List (List Char)) : Act Ran := do
  let s ← get
  -- Without a search path there is one that is always the same.
  let s :=
    if (s.value? "PATH".toList).isSome then s
    else s.setValue "PATH".toList "/bin:/usr/bin".toList
  let refusal (e : IoError) : Ran :=
    if e = .system .notFound then .missing (causeText e) else .refused (causeText e)
  match s.program name with
  | .missing => return .missing (causeText (.system .notFound))
  | .denied => return .refused (causeText (.system .permissionDenied))
  | .found file =>
      match s.prepare file name arguments with
      | .ok (image, words) =>
          return .ended (← Act.asChild (·.started words) (again.launch image words))
      | .error e => return refusal e

/-! ## Surroundings -/

/-- The words of a text with blanks between them, in which quotes and backslashes count. Each round
takes a character, so `fuel` beyond the length of the text is never used up. -/
def splitWords : Nat → Option Char → Option (List Char) → List Char → List (List Char)
  | 0, _, word, _ => (word.map List.reverse).toList
  | _, _, word, [] => (word.map List.reverse).toList
  | fuel + 1, quote, word, c :: r =>
      let push (d : Char) (r : List Char) : List (List Char) :=
        splitWords fuel quote (some (d :: word.getD [])) r
      match quote, c, r with
      | some q, c, r =>
          if c = q then splitWords fuel none (some (word.getD [])) r
          else if c = '\\' && q = '"' then
            match r with
            | d :: r => push d r
            | [] => push c r
          else push c r
      | none, '\\', d :: r =>
          match d with
          | 'n' => push '\n' r
          | 't' => push '\t' r
          | '_' => (word.map List.reverse).toList ++ splitWords fuel none none r
          | d => push d r
      | none, c, r =>
          if c = '"' || c = '\'' then splitWords fuel (some c) (some (word.getD [])) r
          else if isSpaceChar c then
            (word.map List.reverse).toList ++ splitWords fuel none none r
          else push c r

/-- Variables and their values, each as a line. -/
def shownEnvironment (s : State) : List (List Char) :=
  s.bindings.reverse.filterMap fun b =>
    (State.inherited? b).bind fun b => b.2.value?.map fun text => b.1 ++ '=' :: text

/-- The options in front of a program, and its words. `fuel` bounds how often a text is split into
words. -/
def surroundingOptions : Nat → List (List Char) → Act (List (Char × List Char) × List (List Char))
  | 0, words => return ([], words)
  | fuel + 1, words => do
      match words with
      | ['-'] :: rest => do
          let (more, rest) ← surroundingOptions fuel rest
          return (('i', []) :: more, rest)
      | ['-', '-'] :: rest => return ([], rest)
      | ('-' :: 'S' :: text) :: rest =>
          let (text, rest) := if text.isEmpty then (rest.headD [], rest.drop 1) else (text, rest)
          surroundingOptions fuel (splitWords (text.length + 1) none none text ++ rest)
      | ('-' :: 'v' :: 'S' :: text) :: rest =>
          surroundingOptions fuel (splitWords (text.length + 1) none none text ++ rest)
      | ('-' :: '-' :: name) :: rest =>
          let text := String.ofList name
          if "split-string=".toList.isPrefixOf name then
            let body := name.drop 13
            surroundingOptions fuel (splitWords (body.length + 1) none none body ++ rest)
          else if text = "ignore-environment" then do
            let (more, rest) ← surroundingOptions fuel rest
            return (('i', []) :: more, rest)
          else if "unset=".toList.isPrefixOf name then do
            let (more, rest) ← surroundingOptions fuel rest
            return (('u', name.drop 6) :: more, rest)
          else if "chdir=".toList.isPrefixOf name then do
            let (more, rest) ← surroundingOptions fuel rest
            return (('C', name.drop 6) :: more, rest)
          else misuse 125 (ofText "unrecognized option '--" ++ name ++ ['\''])
      | ('-' :: c :: letters) :: rest =>
          if c = 'u' || c = 'C' then
            match letters, rest with
            | [], value :: rest => do
                let (more, rest) ← surroundingOptions fuel rest
                return ((c, value) :: more, rest)
            | [], [] => misuse 125 (ofText "option requires an argument -- '" ++ [c, '\''])
            | value, rest => do
                let (more, rest) ← surroundingOptions fuel rest
                return ((c, value) :: more, rest)
          else if c = 'i' || c = '0' || c = 'v' then
            let rest := if letters.isEmpty then rest else ('-' :: letters) :: rest
            let (more, rest) ← surroundingOptions fuel rest
            return ((c, []) :: more, rest)
          else misuse 125 (ofText "invalid option -- '" ++ [c, '\''])
      | words => return ([], words)

/-- Runs a program in other surroundings, or prints the variables. -/
def env : Tool := fun again words => do
  let (options, words) ← surroundingOptions (words.flatten.length + words.length + 8) words
  if options.any (·.1 == 'i') then modify fun s => { s with bindings := [] }
  for (letter, value) in options do
    if letter = 'u' then modify (·.unset value)
    else if letter = 'C' then
      let s ← get
      match s.world.disk.resolve s.cwd (State.path value) with
      | .ok (place, .directory) => set { s with cwd := place }
      | .ok _ => stop 125 (ofText "cannot change directory to " ++ inMarks value
          ++ ofText ": Not a directory")
      | .error e => stop 125 (ofText "cannot change directory to " ++ inMarks value ++ [':', ' ']
          ++ causeText e)
  let given := words.takeWhile (·.contains '=')
  for word in given do
    let name := word.takeWhile (· != '=')
    modify fun s => s.setVariable name (.holding (word.drop (name.length + 1)) true)
  match words.drop given.length with
  | [] =>
      let stop := if options.any (·.1 == '0') then '\x00' else '\n'
      for line in shownEnvironment (← get) do
        Act.print (line ++ [stop])
  | name :: arguments =>
      match ← runCommand again name arguments with
      | .ended (.killed signal) => throw (.killed signal)
      | .ended (.exited status) => Act.setStatus status
      | .missing cause =>
          complain (inMarks name ++ [':', ' '] ++ cause)
          if name.any isSpaceChar then
            complain (ofText "use -[v]S to pass options in shebang lines")
          Act.setStatus 127
      | .refused cause => stop 126 (inMarks name ++ [':', ' '] ++ cause)

def printEnvironment : Tool := fun _ words => do
  let s ← get
  if words.isEmpty then
    for line in shownEnvironment s do
      Act.print (line ++ ['\n'])
  for name in words do
    match s.value? name with
    | some value => Act.print (value ++ ['\n'])
    | none => Act.setStatus 1

/-- Looks programs up along the search path. -/
def which : Tool := fun _ words => do
  let names := words.filter (·.head? != some '-')
  if names.isEmpty then Act.setStatus 1
  for name in names do
    let s ← get
    match s.program name with
    | .found file =>
        if s.world.disk.isExecutableFile s.cwd (State.path file) then Act.print (file ++ ['\n'])
        else Act.setStatus 1
    | _ => Act.setStatus 1

/-! ## Arguments from the input -/

def argumentOptions : Options :=
  { plain := "0rtpx", withArgument := "nIdLPsaE", mixed := false, trouble := 1
    names := [("null", '0'), ("no-run-if-empty", 'r'), ("max-args", 'n'), ("replace", 'I'),
      ("delimiter", 'd'), ("max-lines", 'L'), ("max-procs", 'P'), ("arg-file", 'a'),
      ("verbose", 't')] }

/-- A text with every occurrence of another one replaced. Each round takes a character, so `fuel`
beyond the length of the text is never used up. -/
def replaceAll (old new : List Char) : Nat → List Char → List Char
  | 0, cs => cs
  | _, [] => []
  | fuel + 1, c :: r =>
      if !old.isEmpty && old.isPrefixOf (c :: r) then
        new ++ replaceAll old new fuel ((c :: r).drop old.length)
      else c :: replaceAll old new fuel r

/-- Things in groups of a size. Each round takes a group, so `fuel` beyond their number is never
used up. -/
def inGroups {α : Type} (size : Nat) : Nat → List α → List (List α)
  | 0, _ => []
  | _, [] => []
  | fuel + 1, xs => xs.take (max 1 size) :: inGroups size fuel (xs.drop (max 1 size))

/-- Runs a program with arguments from the input, as often as is needed. -/
def withArguments : Tool := fun again words => do
  let g ← argumentOptions.take words
  let text ← takeInput
  let items :=
    match g.value? 'd' with
    | some separator =>
        let stop :=
          match separator with
          | ['\\', 'n'] => '\n'
          | ['\\', 't'] => '\t'
          | ['\\', '0'] => '\x00'
          | separator => separator.headD '\n'
        (piecesOf stop text).1
    | none =>
        if g.has '0' then (piecesOf '\x00' text).1
        else if g.has 'I' then
          let lines := (linesOf text).1.map (·.dropWhile fun c => c == ' ' || c == '\t')
          lines.filter (!·.isEmpty)
        else splitWords (text.length + 1) none none text
  let command := if g.arguments.isEmpty then ["echo".toList] else g.arguments
  let number? (letter : Char) := (g.value? letter).bind natural?
  let calls : List (List (List Char)) :=
    match g.value? 'I' with
    | some mark => items.map fun item => command.map fun w => replaceAll mark item (w.length + 1) w
    | none =>
        if (number? 'L').isSome then
          let lines := ((linesOf text).1).filter (!·.isEmpty)
          (inGroups ((number? 'L').getD 1) (lines.length + 1) lines).map fun group =>
            command ++ group.flatMap fun line => splitWords (line.length + 1) none none line
        else
          match number? 'n' with
          | some n => (inGroups n (items.length + 1) items).map (command ++ ·)
          | none => if items.isEmpty && g.has 'r' then [] else [command ++ items]
  let calls := if calls.isEmpty && !g.has 'r' && !g.has 'I' then [command] else calls
  for call in calls do
    if g.has 't' then Act.printError ([' '].intercalate call ++ ['\n'])
    let name := call.headD []
    match ← runCommand again name (call.drop 1) with
    | .ended (.exited 0) => pure ()
    | .ended (.exited 255) =>
        stop 124 (name ++ ofText ": exited with status 255; aborting")
    | .ended (.exited _) => Act.setStatus 123
    | .ended (.killed signal) =>
        stop 125 (name ++ ofText ": terminated by signal " ++ Nat.toDigits 10 signal)
    | .missing cause => stop 127 (name ++ [':', ' '] ++ cause)
    | .refused cause => stop 126 (name ++ [':', ' '] ++ cause)

/-! ## Time -/

/-- A span of time with its unit, in nanoseconds. -/
def interval? (cs : List Char) : Option Nat :=
  let whole := cs.takeWhile Char.isDigit
  let rest := cs.drop whole.length
  let (fraction, rest, pointed) : List Char × List Char × Bool :=
    match rest with
    | '.' :: r => (r.takeWhile Char.isDigit, r.dropWhile Char.isDigit, true)
    | r => ([], r, false)
  let unit : Option Nat :=
    match String.ofList rest with
    | "" => some 1
    | "s" => some 1
    | "m" => some 60
    | "h" => some 3600
    | "d" => some 86400
    | _ => none
  if whole.isEmpty && (fraction.isEmpty || !pointed) then none
  else
    let places := (fraction ++ List.replicate 9 '0').take 9
    match unit with
    | none => none
    | some unit =>
        some (unit * ((natural? whole).getD 0 * 1000000000 + (natural? places).getD 0))

def sleep : Tool := fun _ words => do
  if words.isEmpty then misuse 1 (ofText "missing operand")
  let mut total := 0
  for word in words do
    if word = "infinity".toList || word = "inf".toList then throw .exhausted
    match interval? word with
    | some n => total := total + n
    | none => misuse 1 (ofText "invalid time interval " ++ inMarks word)
  let span := total
  modify fun s =>
    { s with world := { s.world with waited := ⟨s.world.waited.nanos + span⟩ } }

/-- Runs a program that may take some time only. -/
def timeout : Tool := fun again words => do
  let g ← Options.take ⟨"vf", "ks", [("signal", 's'), ("kill-after", 'k'), ("foreground", 'f'),
    ("preserve-status", 'f')], false, 125⟩ words
  match g.arguments with
  | span :: name :: arguments =>
      match interval? span with
      | none => misuse 125 (ofText "invalid time interval " ++ inMarks span)
      | some limit =>
          let before := (← get).world.waited.nanos
          let ran ← runCommand again name arguments
          let isOver := limit > 0 && (← get).world.waited.nanos - before > limit
          if isOver then
            modify fun s => { s with
              status := 124, world := { s.world with waited := ⟨before + limit⟩ } }
          else
            match ran with
            | .ended e => Act.setStatus e.status
            | .missing cause =>
                stop 127 (ofText "failed to run command " ++ inMarks name ++ [':', ' '] ++ cause)
            | .refused cause =>
                stop 126 (ofText "failed to run command " ++ inMarks name ++ [':', ' '] ++ cause)
  | _ => hint 125

/-- Runs a program that nothing is to disturb. -/
def undisturbed : Tool := fun again words => do
  match words.dropWhile (· == ['-', '-']) with
  | [] => misuse 125 (ofText "missing operand")
  | name :: arguments =>
      match ← runCommand again name arguments with
      | .ended (.killed signal) => throw (.killed signal)
      | .ended (.exited status) => Act.setStatus status
      | .missing cause =>
          stop 127 (ofText "failed to run command " ++ inMarks name ++ [':', ' '] ++ cause)
      | .refused cause =>
          stop 126 (ofText "failed to run command " ++ inMarks name ++ [':', ' '] ++ cause)

end PluginBundle.Tools
