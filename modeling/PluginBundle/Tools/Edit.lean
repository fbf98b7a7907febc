import PluginBundle.Tools.Edit.Reader

/-!
# Editing lines

Each line of the input is taken in turn, the commands of the script are applied to it, and what is
left of it is printed. A second text is kept from line to line.
-/

namespace PluginBundle.Tools

open PluginBundle.Shell

namespace Edit

/-- What waits to be printed behind a line. -/
inductive Waiting where
  | text (cs : List Char)
  | file (name : List Char)

/-- Whether a range is under way. -/
inductive RangeState where
  | outside
  /-- Up to a line by its number. -/
  | upTo (line : Nat)
  /-- Up to a line that matches. -/
  | matching

/-- A script at work. -/
structure Editor where
  commands : Array Command
  quiet : Bool
  /-- The character that ends lines. -/
  stop : Char
  /-- The lines that are left, each with whether it has an end. -/
  input : List (List Char × Bool)
  number : Nat
  pattern : List Char
  hold : List Char
  /-- The present line has an end, and the text that is kept. -/
  ended : Bool
  holdEnded : Bool
  /-- A substitution was made since the last line was taken or asked about. -/
  substituted : Bool
  lastExpression : Option Regex
  ranges : List (Nat × RangeState)
  waiting : List Waiting
  /-- What was printed, last piece first, where it goes to a file at the end. -/
  collected : Option (List (List Char))
  /-- Output ended without the end of its last line. -/
  unended : Bool

/-- How a script goes on behind a command. -/
inductive Step where
  | goTo (place : Nat)
  /-- The line is done, and printed or not. -/
  | endLine (prints : Bool)
  /-- The script starts again without another line. -/
  | again
  | quit (status : Nat) (prints : Bool)

abbrev Editing := StateT Editor Act

namespace Editor

/-- Prints text. -/
def print (text : List Char) : Editing Unit := do
  let e ← get
  let text := if e.unended && !text.isEmpty then e.stop :: text else text
  if e.unended then set { e with unended := false }
  match (← get).collected with
  | some pieces => modify fun e => { e with collected := some (text :: pieces) }
  | none => Act.print text

/-- Prints a line. The last line of the input keeps its missing end. -/
def printLine (line : List Char) : Editing Unit := do
  let e ← get
  if e.ended then print (line ++ [e.stop])
  else
    print line
    modify fun e => { e with unended := true }

/-- Writes a line to a file. -/
def writeLine (name line : List Char) : Editing Unit := do
  let text := if (← get).ended then line ++ ['\n'] else line
  if name = "/dev/stdout".toList then Act.print text
  else if name = "/dev/stderr".toList then Act.printError text
  else
    let s ← (get : Act State)
    let old := (s.world.disk.read s.cwd (State.path name)).toOption.getD ByteArray.empty
    match s.world.disk.writeFile s.cwd (State.path name) (old ++ toBytes text) with
    | .ok disk => (set { s with world := { s.world with disk := disk } } : Act Unit)
    | .error e =>
      let cause := [':', ' '] ++ causeText e
      (Tools.stop 4 (ofText "couldn't open file " ++ name ++ cause) : Act Unit)

/-- Prints what waits behind the line. -/
def flush : Editing Unit := do
  let waiting := (← get).waiting.reverse
  modify fun e => { e with waiting := [] }
  for w in waiting do
    match w with
    | .text cs => print cs
    | .file name =>
        match ← (readFile name : Act (Except IoError (List Char))) with
        | .ok text => if !text.isEmpty then print text
        | .error _ => pure ()

/-- Takes the next line of the input; false if there is none. -/
def takeLine : Editing Bool := do
  let e ← get
  match e.input with
  | [] => return false
  | (line, ended) :: rest =>
      set { e with
        input := rest, number := e.number + 1, pattern := line, ended := ended }
      return true

def isLast (e : Editor) : Bool := e.input.isEmpty

/-- The expression of a match; an empty one is the one that was used last. -/
def expression (r : Option Regex) : Editing Regex := do
  match r with
  | some r =>
      modify fun e => { e with lastExpression := some r }
      return r
  | none =>
      match (← get).lastExpression with
      | some r => return r
      | none => (Tools.stop 1 (ofText "no previous regular expression") : Act Regex)

/-! ## Selection -/

def holdsFor (a : Address) : Editing Bool := do
  let e ← get
  match a with
  | .line n => return e.number == n
  | .last => return e.isLast
  | .matching r => return (← expression r).occursIn e.pattern
  | .every first step =>
      return if step = 0 then e.number == first
        else first ≤ e.number && (e.number - first) % step == 0

def setRange (place : Nat) (r : RangeState) : Editing Unit :=
  modify fun e => { e with ranges := (place, r) :: e.ranges.filter (·.1 != place) }

/-- The range starts at this line. -/
def startRange (place : Nat) (stop : RangeEnd) : Editing Unit := do
  let n := (← get).number
  match stop with
  | .atLine (.line m) => if m > n then setRange place (.upTo m)
  | .atLine .last => if !(← get).isLast then setRange place .matching
  | .atLine _ => setRange place .matching
  | .behind k => if k > 0 then setRange place (.upTo (n + k))
  | .multiple k => if k > 0 && n % k != 0 then setRange place (.upTo ((n / k + 1) * k))

/-- A command is for the present line. -/
def selects (place : Nat) (s : Selection) : Editing Bool := do
  match s with
  | .all => return true
  | .one a => holdsFor a
  | .range start stop =>
      let e ← get
      let state :=
        match e.ranges.lookup place with
        | some r => r
        -- A range from line zero on is under way at the start.
        | none => if start matches .line 0 then .matching else .outside
      match state with
      | .outside =>
          if ← holdsFor start then
            startRange place stop
            return true
          else return false
      | .upTo m =>
          if e.number ≥ m then setRange place .outside
          if e.number ≤ m then return true
          -- The range was over before this line.
          if ← holdsFor start then
            startRange place stop
            return true
          else return false
      | .matching =>
          match stop with
          | .atLine a => if ← holdsFor a then setRange place .outside
          | _ => pure ()
          return true

/-! ## Substitution -/

/-- A piece of text with the changes of case that are under way. -/
def recased (state once : CaseChange) (cs : List Char) : List Char :=
  let cs :=
    match state with
    | .upper => cs.map Char.toUpper
    | .lower => cs.map Char.toLower
    | _ => cs
  match once, cs with
  | .upperNext, c :: r => c.toUpper :: r
  | .lowerNext, c :: r => c.toLower :: r
  | _, cs => cs

/-- The text that replaces a match. -/
def replacementText (m : Regex.Match) (parts : List ReplacementPart) : List Char :=
  (parts.foldl (fun ((done : List (List Char)), state, once) p =>
    let add (cs : List Char) : List (List Char) × CaseChange × CaseChange :=
      (recased state once cs :: done, state, if cs.isEmpty then once else .asIs)
    match p with
    | .text cs => add cs
    | .group n => add (m.group n)
    | .recase .upperNext => (done, state, .upperNext)
    | .recase .lowerNext => (done, state, .lowerNext)
    | .recase change => (done, change, .asIs))
    ([], CaseChange.asIs, CaseChange.asIs)).1.reverse.flatten

/-- A line with matches replaced, and whether one was; nothing else is changed. `lastEnd` is where
the last match ended. Each round takes a character or a match, so `fuel` beyond twice the length
of the line is never used up. -/
def replaceFrom (r : Regex) (s : Substitution) :
    Nat → Nat → Option Nat → Bool → List (List Char) → Regex.Cursor → Bool × List Char
  | 0, _, _, done, text, c => (done, (c.rest :: text).reverse.flatten)
  | fuel + 1, count, lastEnd, done, text, c =>
      match r.find? c with
      | none => (done, (c.rest :: text).reverse.flatten)
      | some m =>
          let before := c.textTo m.start
          let stop := { m.stop with groups := [] }
          let isEmpty := m.start.place = m.stop.place
          let step (text : List (List Char)) (count : Nat) (done : Bool) : Bool × List Char :=
            if isEmpty then
              match stop.rest with
              | [] => (done, text.reverse.flatten)
              | d :: _ =>
                replaceFrom r s fuel count (some stop.place) done ([d] :: text) (stop.advance 1)
            else replaceFrom r s fuel count (some stop.place) done text stop
          -- An empty match right behind another match is none.
          if isEmpty && lastEnd = some m.start.place then step (before :: text) count done
          else if count + 1 < s.first then step (m.text :: before :: text) (count + 1) done
          else
            let text := replacementText m s.replacement :: before :: text
            if s.all then step text (count + 1) true
            else (true, (stop.rest :: text).reverse.flatten)

def substitute (s : Substitution) : Editing Unit := do
  let r ← expression s.expression
  let e ← get
  let (done, text) := replaceFrom r s (2 * e.pattern.length + 4) 0 none false [] (.start e.pattern)
  if done then
    set { e with pattern := text, substituted := true, lastExpression := some r }
    if s.prints then printLine text
    match s.file with
    | some name => writeLine name text
    | none => return ()

/-! ## Commands -/

/-- A line with nothing hidden, broken into pieces. -/
def displayed (line : List Char) : List Char :=
  let pieces := line.map fun c =>
    match c with
    | '\\' => "\\\\".toList
    | '\x07' => "\\a".toList
    | '\x08' => "\\b".toList
    | '\x0c' => "\\f".toList
    | '\n' => "\\n".toList
    | '\r' => "\\r".toList
    | '\t' => "\\t".toList
    | '\x0b' => "\\v".toList
    | c =>
        if 32 ≤ c.toNat && c.toNat < 127 then [c]
        else
          let digits := Nat.toDigits 8 c.toNat
          '\\' :: List.replicate (3 - digits.length) '0' ++ digits
  let broken := pieces.foldl (fun ((done : List Char), width) piece =>
    if width + piece.length > 69 then (done ++ ['\\', '\n'] ++ piece, piece.length)
    else (done ++ piece, width + piece.length)) ([], 0)
  broken.1 ++ ['$', '\n']

/-- The place of a label; without a name, the end of the script. -/
def placeOf (e : Editor) (name : List Char) : Nat :=
  if name.isEmpty then e.commands.size
  else
    let found := e.commands.findIdx? fun c =>
      match c.action with
      | .label l => l == name
      | _ => false
    found.getD e.commands.size

/-- The line up to its first end. -/
def firstLine (cs : List Char) : List Char := cs.takeWhile (· != '\n')

/-- Carries out a command. -/
def perform (place : Nat) (c : Command) : Editing Step := do
  let e ← get
  let goOn : Step := .goTo (place + 1)
  match c.action with
  | .openBlock _ => return goOn
  | .closeBlock => return goOn
  | .empty => return goOn
  | .nothing => return goOn
  | .label _ => return goOn
  | .substitute s =>
      substitute s
      return goOn
  | .exchange pairs =>
      set { e with pattern := e.pattern.map fun d => (pairs.lookup d).getD d }
      return goOn
  | .delete => return .endLine false
  | .deleteFirst =>
      if e.pattern.contains '\n' then
        set { e with pattern := (e.pattern.dropWhile (· != '\n')).drop 1 }
        return .again
      else return .endLine false
  | .print =>
      printLine e.pattern
      return goOn
  | .printFirst =>
      if e.pattern.contains '\n' then print (firstLine e.pattern ++ [e.stop])
      else printLine e.pattern
      return goOn
  | .next =>
      if e.isLast then return .quit 0 true
      else
        if !e.quiet then printLine e.pattern
        flush
        let _ ← takeLine
        return goOn
  | .appendNext =>
      if e.isLast then return .quit 0 true
      else
        flush
        let before := e.pattern
        let _ ← takeLine
        modify fun e => { e with pattern := before ++ e.stop :: e.pattern }
        return goOn
  | .toHold =>
      set { e with hold := e.pattern, holdEnded := e.ended }
      return goOn
  | .appendToHold =>
      set { e with hold := e.hold ++ '\n' :: e.pattern, holdEnded := e.ended }
      return goOn
  | .fromHold =>
      set { e with pattern := e.hold, ended := e.holdEnded }
      return goOn
  | .appendFromHold =>
      set { e with pattern := e.pattern ++ '\n' :: e.hold, ended := e.holdEnded }
      return goOn
  | .swapHold =>
      set { e with
        pattern := e.hold, hold := e.pattern, ended := e.holdEnded, holdEnded := e.ended }
      return goOn
  | .printNumber =>
      print (Nat.toDigits 10 e.number ++ ['\n'])
      return goOn
  | .display =>
      print (displayed e.pattern)
      return goOn
  | .quit status silent => return .quit status (!silent)
  | .append text =>
      set { e with waiting := .text text :: e.waiting }
      return goOn
  | .insert text =>
      print text
      return goOn
  | .change text =>
      -- A range is replaced as a whole, at its end.
      let inRange :=
        match c.selection, e.ranges.lookup place with
        | .range _ _, some .matching => !c.negated
        | .range _ _, some (.upTo _) => !c.negated
        | _, _ => false
      if !inRange then print text
      return .endLine false
  | .readFile name =>
      set { e with waiting := .file name :: e.waiting }
      return goOn
  | .writeFile name firstOnly =>
      writeLine name (if firstOnly then firstLine e.pattern else e.pattern)
      return goOn
  | .branch name => return .goTo (e.placeOf name)
  | .branchIf name =>
      set { e with substituted := false }
      return if e.substituted then .goTo (e.placeOf name) else goOn
  | .branchUnless name =>
      set { e with substituted := false }
      return if e.substituted then goOn else .goTo (e.placeOf name)

/-- Runs the commands from a place on. Each round takes a command, and a script that jumps for ever
uses the fuel up. -/
def runFrom : Nat → Nat → Editing Step
  | 0, _ => (throw .exhausted : Act Step)
  | fuel + 1, place => do
      match (← get).commands[place]? with
      | none => return .endLine true
      | some c =>
          let chosen ← selects place c.selection
          if chosen != c.negated then
            match ← perform place c with
            | .goTo next => runFrom fuel next
            | step => return step
          else
            match c.action with
            | .openBlock close => runFrom fuel close
            | _ => runFrom fuel (place + 1)

/-- The number of commands that may be carried out for one line. -/
def lineFuel : Nat := 1000000

/-- Runs the script on the lines of the input, and says with which status it ends. Each round
takes a line or shortens one, so `fuel` beyond the length of the input is never used up by a
script that ends. -/
def runLines : Nat → Bool → Editing Nat
  | 0, _ => return 0
  | fuel + 1, keeps => do
      if !keeps then
        if !(← takeLine) then return 0
        modify fun e => { e with substituted := false }
      match ← runFrom lineFuel 0 with
      | .quit status prints =>
          let e ← get
          if prints && !e.quiet then printLine e.pattern
          if prints then flush
          return status
      | .again =>
          flush
          runLines fuel true
      | .endLine prints =>
          let e ← get
          if prints && !e.quiet then printLine e.pattern
          flush
          runLines fuel false
      | .goTo _ => return 0

/-- An editor at the start of its input. -/
def start (commands : List Command) (quiet : Bool) (stop : Char) (collects : Bool)
    (input : List (List Char × Bool)) : Editor :=
  { commands := commands.toArray, quiet := quiet, stop := stop, input := input, number := 0
    pattern := [], hold := [], ended := true, holdEnded := true, substituted := false,
    lastExpression := none
    ranges := [], waiting := [], collected := if collects then some [] else none, unended := false }

end Editor

/-- The lines of a text, each with whether it has an end. -/
def inputLines (stop : Char) (text : List Char) : List (List Char × Bool) :=
  let (lines, ended) := piecesOf stop text
  let marked := lines.map fun line => (line, true)
  if ended then marked
  else
    match marked.reverse with
    | (line, _) :: before => ((line, false) :: before).reverse
    | [] => []

end Edit

def editOptions : Options :=
  { plain := "nrEszu", withArgument := "efl", mixed := true, trouble := 1
    names := [("quiet", 'n'), ("silent", 'n'), ("expression", 'e'), ("file", 'f'),
      ("regexp-extended", 'E'), ("separate", 's'), ("null-data", 'z'), ("in-place", 'i'),
      ("unbuffered", 'u'), ("posix", 'u'), ("line-length", 'l')] }

/-- The suffix for copies of files that are edited in place, and the other words. Each word is
looked at once. -/
def takeInPlace : List (List Char) → Option (List Char) × List (List Char)
  | [] => (none, [])
  | word :: rest =>
      let (found, others) := takeInPlace rest
      match word with
      | '-' :: 'i' :: suffix => (some suffix, others)
      | '-' :: 'n' :: 'i' :: suffix => (some suffix, ['-', 'n'] :: others)
      | '-' :: 'E' :: 'i' :: suffix => (some suffix, ['-', 'E'] :: others)
      | word =>
          if word = "--in-place".toList then (some [], others)
          else if "--in-place=".toList.isPrefixOf word then (some (word.drop 11), others)
          else (found, word :: others)

/-- Edits one file in place. -/
def editInPlace (e : List Char → Edit.Editor) (suffix name : List Char) : Act Unit := do
  let s ← get
  match s.world.disk.resolve s.cwd (State.path name) with
  | .error cause =>
      complain (ofText "can't read " ++ name ++ [':', ' '] ++ causeText cause)
      Act.setStatus 2
  | .ok (_, .directory) =>
      complain (ofText "couldn't edit " ++ name ++ ofText ": not a regular file")
      Act.setStatus 4
  | .ok (place, .file contents executable) =>
      let (status, e) ← (Edit.Editor.runLines (contents.size + 2) false).run (e (ofBytes contents))
      -- Lines behind the one that ended the script stay as they are.
      let left := e.input.flatMap fun l => if l.2 then l.1 ++ [e.stop] else l.1
      let text := (left :: e.collected.getD []).reverse.flatten
      modify fun s =>
        let disk := s.world.disk.set place (.file (toBytes text) executable)
        let disk :=
          if suffix.isEmpty then disk
          else disk.set (place.dropLast ++ [(place.getLast?.getD "") ++ textOf suffix])
            (.file contents executable)
        { s with world := { s.world with disk := disk } }
      if status != 0 then
        Act.setStatus status
        throw .exit

def edit : Tool := fun _ words => do
  let (inPlace, words) := takeInPlace words
  let g ← editOptions.take words
  let mut pieces := []
  for (letter, text) in g.options do
    if letter = 'e' then pieces := pieces ++ [text]
    else if letter = 'f' then
      match ← readFile text with
      | .ok script => pieces := pieces ++ [ofLines (linesOf script).1 false]
      | .error e => stop 4 (ofText "couldn't open file " ++ text ++ [':', ' '] ++ causeText e)
  let given := !pieces.isEmpty
  if !given && g.arguments.isEmpty then
    Act.printError (ofText
      "Usage: sed [OPTION]... \x7bscript-only-if-no-other-script\x7d [input-file]...\n\n")
    Act.setStatus 1
    throw .exit
  let script := if given then pieces else g.arguments.take 1
  let names := if given then g.arguments else g.arguments.drop 1
  let quiet := g.has 'n' || ((script.headD []).take 3 == "#n\n".toList)
  let stop := if g.has 'z' then '\x00' else '\n'
  match Edit.readScript (g.has 'E' || g.has 'r') script with
  | .error text => Tools.stop 1 text
  | .ok commands =>
      -- Files that are written to start empty.
      for c in commands do
        let target :=
          match c.action with
          | .writeFile name _ => some name
          | .substitute s => s.file
          | _ => none
        match target with
        | some name =>
            if !"/dev/".toList.isPrefixOf name then
              modify fun s =>
                match s.world.disk.writeFile s.cwd (State.path name) ByteArray.empty with
                | .ok disk => { s with world := { s.world with disk := disk } }
                | .error _ => s
        | none => pure ()
      match inPlace with
      | some suffix =>
          for name in names do
            let start (text : List Char) :=
              Edit.Editor.start commands quiet stop true (Edit.inputLines stop text)
            editInPlace start suffix name
      | none =>
          let mut lines := []
          let mut size := 0
          for name in inputNames names do
            match ← readFile name with
            | .ok text =>
                -- Only the very last line may be without an end.
                lines := (lines.map fun l => (l.1, true)) ++ Edit.inputLines stop text
                size := size + text.length
            | .error (.system .isADirectory) =>
                complain (ofText "couldn't read " ++ name ++ ofText ": Is a directory")
                Act.setStatus 2
            | .error e =>
                complain (ofText "can't read " ++ name ++ [':', ' '] ++ causeText e)
                Act.setStatus 2
          let editor := Edit.Editor.start commands quiet stop false lines
          let (status, _) ← (Edit.Editor.runLines (size + 2) false).run editor
          if status != 0 then Act.setStatus status

end PluginBundle.Tools
