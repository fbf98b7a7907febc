import PluginBundle.Shell.Reader.Words

/-!
# Reading commands

A script is read command by command: the commands of one line are read, and run, before the next
line is looked at. So a script that is not well formed still does what stands before the fault.
-/

namespace PluginBundle.Shell

/-- How far a list of commands goes. -/
inductive ListKind where
  /-- To the word that closes what it stands in. It must hold a command. -/
  | block
  /-- To the end of the line. -/
  | line
  /-- As a block, but it may be empty. -/
  | body
  deriving DecidableEq, Repr

/-- How what stands inside a command is read. -/
structure Nesting extends Inner where
  list : ListKind → Reader (Option Command)
  command : Reader Command

namespace Reader

def expectAll : Expecting := ⟨true, true, true⟩

/-- The next token with nothing recognized. -/
def plainToken (n : Nesting) : Reader Token := token n.toInner ⟨false, false, false⟩ n.rounds

def unexpected {α : Type} (t : Token) (wanted : Option String) : Reader α :=
  refuse (.unexpected t wanted)

/-- Words that end a list which has one to end it. -/
def endsList : Token → Bool
  | .endOfScript => true
  | .operator o => o == ")" || o == ";;" || o == ";&" || o == ";;&"
  | .keyword k => ["do", "done", "elif", "else", "esac", "fi", "then", "\x7d"].contains k
  | _ => false

/-- Takes a keyword. -/
def demandKeyword (n : Nesting) (wanted : String) : Reader Unit := do
  match ← plainToken n with
  | .keyword k => if k == wanted then return () else unexpected (.keyword k) (some wanted)
  | t => unexpected t (some wanted)

/-- A list that must hold a command. -/
def block (n : Nesting) : Reader Command := return (← n.list .block).getD .nothing

/-! ## Redirections -/

/-- The word behind a redirection. -/
def fileWord (n : Nesting) : Reader ReadWord := do
  match ← plainToken n with
  | .word w => return w
  | t => unexpected t none

/-- Input that is written out behind this line. -/
def readInline (n : Nesting) (stream : Nat) (stripped : Bool) : Reader Redirection := do
  let w ← fileWord n
  let text ← takeInline stripped ((literalText? w.parts).getD [])
  if w.quoted then return .inline stream [.literal text true]
  else return .inline stream (← within text (n.parts .inline))

/-- A redirection behind its sign. -/
def readRedirection (n : Nesting) (stream : Option Nat) (sign : String) : Reader Redirection := do
  let dialect := (← get).dialect
  match sign with
  | "<<" => readInline n (stream.getD 0) false
  | "<<-" => readInline n (stream.getD 0) true
  | "<<<" =>
      let w ← fileWord n
      return .inline (stream.getD 0) (w.parts ++ [.literal ['\n'] true])
  | "<" => return .file (stream.getD 0) .input (← fileWord n).parts
  | "<>" => return .file (stream.getD 0) .both (← fileWord n).parts
  | ">" => return .file (stream.getD 1) .output (← fileWord n).parts
  | ">|" => return .file (stream.getD 1) .overwrite (← fileWord n).parts
  | ">>" => return .file (stream.getD 1) .append (← fileWord n).parts
  | "&>" => return .outputs .output (← fileWord n).parts
  | "&>>" => return .outputs .append (← fileWord n).parts
  | "<&" => return .duplicate (stream.getD 0) (← fileWord n).parts
  | _ =>
      let w ← fileWord n
      let isStream := (literalText? w.parts).any fun cs => cs.all Char.isDigit || cs == ['-']
      if dialect = .extended && stream.isNone && !isStream && (literalText? w.parts).isSome then
        return .outputs .output w.parts
      else return .duplicate (stream.getD 1) w.parts

/-- Redirections at the front. -/
def redirections (n : Nesting) : Nat → Reader (List Redirection)
  | 0 => refuse .exhausted
  | fuel + 1 => do
      match ← token n.toInner ⟨false, true, true⟩ n.rounds with
      | .redirection stream sign =>
          let r ← readRedirection n stream sign
          return r :: (← redirections n fuel)
      | t =>
          push t
          return []

/-! ## Assignments -/

/-- The name at the front of an assignment with what follows it: the sign and the value. -/
def splitAssignment? (cs : List Char) : Option (List Char × List Char) :=
  let name := cs.takeWhile isNamePart
  if isName name then some (name, cs.drop name.length) else none

/-- Literal text put in front of parts. -/
def withLiteral (text : List Char) (rest : Word) : Word :=
  if text.isEmpty then rest else .literal text false :: rest

/-- The subscript and the rest of a word behind its opening bracket. -/
def splitSubscript? : Word → Option (Word × Word)
  | [] => none
  | .literal text false :: rest =>
      let inside := text.takeWhile (· != ']')
      if inside.length < text.length then
        some (withLiteral inside [], withLiteral (text.drop (inside.length + 1)) rest)
      else (splitSubscript? rest).map fun p => (.literal text false :: p.1, p.2)
  | part :: rest => (splitSubscript? rest).map fun p => (part :: p.1, p.2)

/-- The value behind the sign of an assignment, and whether it is added. -/
def assignedValue? (extended : Bool) : Word → Option (Bool × Word)
  | .literal ('=' :: r) false :: rest => some (false, withLiteral r rest)
  | .literal ('+' :: '=' :: r) false :: rest =>
      if extended then some (true, withLiteral r rest) else none
  | _ => none

/-- The assignment that a word spells. -/
def assignment? (dialect : Dialect) (w : Word) : Option Assignment :=
  let extended := dialect = .extended
  match w with
  | .literal text false :: rest =>
      match splitAssignment? text with
      | none => none
      | some (name, '[' :: r) =>
          if !extended then none
          else do
            let (index, rest) ← splitSubscript? (withLiteral r rest)
            let (added, value) ← assignedValue? extended rest
            return .assign name (some index) added (.single value)
      | some (name, r) =>
          (assignedValue? extended (withLiteral r rest)).map fun p =>
            .assign name none p.1 (.single p.2)
  | _ => none

/-- The subscript and the value that a word in a list spells, or just the value. -/
def listItem (w : Word) : Option Word × Word :=
  let keyed : Option (Word × Word) := do
    match w with
    | .literal ('[' :: r) false :: rest =>
        let (index, rest) ← splitSubscript? (withLiteral r rest)
        let (_, value) ← assignedValue? false rest
        return (index, value)
    | _ => none
  match keyed with
  | some (index, value) => (some index, value)
  | none => (none, w)

/-- The elements of a list up to its bracket. -/
def listItems (n : Nesting) : Nat → Reader (List (Option Word × Word))
  | 0 => refuse .exhausted
  | fuel + 1 => do
      match ← token n.toInner ⟨true, false, false⟩ n.rounds with
      | .word w => return listItem w.parts :: (← listItems n fuel)
      | .operator ")" => return []
      | t => unexpected t none

/-- The assignment with the list that may follow its sign. -/
def withList (n : Nesting) (a : Assignment) : Reader Assignment := do
  match a, (← get).rest with
  | .assign name none added (.single []), '(' :: _ =>
      skip
      return .assign name none added (.list (← listItems n n.rounds))
  | a, _ => return a

/-- Commands of the larger dialect that may be given lists. -/
def takesLists (first : Option Word) : Bool :=
  match first.bind literalText? with
  | some name =>
      ["declare", "typeset", "local", "export", "readonly"].contains (String.ofList name)
  | none => false

/-- A word of such a command, with the list that may follow its sign. -/
def wordWithList (n : Nesting) (w : Word) : Reader Word := do
  match assignment? .extended w, (← get).rest with
  | some (.assign _ none _ (.single [])), '(' :: _ =>
      skip
      return w ++ [.elements (← listItems n n.rounds)]
  | _, _ => return w

/-! ## Simple commands -/

/-- A simple command under way, everything last one first. -/
structure SimpleSoFar where
  assignments : List Assignment
  words : List Word
  redirections : List Redirection

/-- Special commands, whose names no function can have. -/
def specialNames : List String :=
  [".", ":", "break", "continue", "eval", "exec", "exit", "export", "readonly", "return", "set",
   "shift", "times", "trap", "unset"]

/-- A function behind its name and the opening bracket. -/
def readFunction (n : Nesting) (line : Nat) (name : Word) : Reader Command := do
  match ← plainToken n with
  | .operator ")" =>
      let name := (literalText? name).getD []
      let dialect := (← get).dialect
      if dialect = .plain && (!isName name || specialNames.contains (String.ofList name)) then
        refuse .functionName
      let t ← token n.toInner expectAll n.rounds
      push t
      return .define line name (← n.command)
  | t => unexpected t (some ")")

/-- The words of a simple command up to what is none. -/
def simpleWords (n : Nesting) (line : Nat) : Nat → SimpleSoFar → Reader Command
  | 0, _ => refuse .exhausted
  | fuel + 1, c => do
      let dialect := (← get).dialect
      let atName := c.words.isEmpty
      match ← token n.toInner ⟨false, false, atName⟩ n.rounds with
      | .word w =>
          let spelled := if atName then assignment? dialect w.parts else none
          match spelled with
          | some a =>
              let a ← if dialect = .plain then pure a else withList n a
              simpleWords n line fuel { c with assignments := a :: c.assignments }
          | none =>
              let lists := dialect = .extended && takesLists c.words.getLast?
              let parts ← if lists then wordWithList n w.parts else pure w.parts
              simpleWords n line fuel { c with words := parts :: c.words }
      | .redirection stream sign =>
          let r ← readRedirection n stream sign
          simpleWords n line fuel { c with redirections := r :: c.redirections }
      | .operator "(" =>
          match c with
          | ⟨[], [name], []⟩ => readFunction n line name
          | _ =>
              push (.operator "(")
              return .simple line c.assignments.reverse c.words.reverse c.redirections.reverse
      | t =>
          push t
          return .simple line c.assignments.reverse c.words.reverse c.redirections.reverse

/-! ## Compound commands -/

/-- The branches of a condition behind its first word. -/
def readBranches (n : Nesting) : Nat → Reader Command
  | 0 => refuse .exhausted
  | fuel + 1 => do
      let condition ← block n
      demandKeyword n "then"
      let yes ← block n
      match ← plainToken n with
      | .keyword "elif" => return .conditional condition yes (some (← readBranches n fuel))
      | .keyword "else" => return .conditional condition yes (some (← block n))
      | t =>
          push t
          return .conditional condition yes none

def readLoop (n : Nesting) (whileTrue : Bool) : Reader Command := do
  let condition ← block n
  demandKeyword n "do"
  return .loop whileTrue condition (← block n)

/-- The words of a loop up to the end of their line. -/
def loopWords (n : Nesting) : Nat → Reader (List Word)
  | 0 => refuse .exhausted
  | fuel + 1 => do
      match ← plainToken n with
      | .word w => return w.parts :: (← loopWords n fuel)
      | .newline => return []
      | .operator ";" => return []
      | t => unexpected t none

/-- A word that gives its body to a loop. -/
def loopBody (n : Nesting) : Reader Command := do
  match ← token n.toInner expectAll n.rounds with
  | .keyword "do" => block n
  | t => unexpected t (some "do")

/-- The arguments of the script as a list of words. -/
def allArguments : List Word := [[.parameter (.named ['@']) .plain true]]

/-- The three calculations of a counting loop. -/
def readCounting (n : Nesting) : Reader Command := do
  let part (stop : Char) : Reader Word := do
    let w ← n.parts (.piece stop false)
    let _ ← takes stop
    return w
  let start ← part ';'
  let test ← part ';'
  let step ← n.parts .calculation
  match ← token n.toInner expectAll n.rounds with
  | .operator ";" => return .forCount start test step (← loopBody n)
  | t =>
      push t
      return .forCount start test step (← loopBody n)

def readFor (n : Nesting) (line : Nat) : Reader Command := do
  match ← plainToken n with
  | .word w =>
      match literalText? w.parts with
      | none => refuse .loopVariable
      | some name =>
          if w.quoted || !isName name then refuse .loopVariable
          match ← token n.toInner expectAll n.rounds with
          | .keyword "in" =>
              let words ← loopWords n n.rounds
              return .forEach line name words (← loopBody n)
          | .operator ";" => return .forEach line name allArguments (← loopBody n)
          | t =>
              push t
              return .forEach line name allArguments (← loopBody n)
  | .operator "(" =>
      if (← get).dialect = .extended && (← takes '(') then readCounting n
      else refuse .loopVariable
  | _ => refuse .loopVariable

/-- The patterns of a branch up to their bracket. -/
def branchPatterns (n : Nesting) : Nat → Token → Reader (List Word)
  | 0, _ => refuse .exhausted
  | fuel + 1, t => do
      let pattern : Word :=
        match t with
        | .word w => w.parts
        | .keyword k => [.literal k.toList false]
        | _ => []
      match ← plainToken n with
      | .operator "|" => return pattern :: (← branchPatterns n fuel (← plainToken n))
      | .operator ")" => return [pattern]
      | t => unexpected t (some ")")

/-- How a choice goes on behind an operator that ends a branch. -/
def afterBranch? : Token → Option AfterBranch
  | .operator ";;" => some .ends
  | .operator ";&" => some .fallsThrough
  | .operator ";;&" => some .looksOn
  | _ => none

/-- The branches of a choice up to its last word. -/
def choiceBranches (n : Nesting) : Nat → Reader (List (List Word × Command × AfterBranch))
  | 0 => refuse .exhausted
  | fuel + 1 => do
      match ← token n.toInner ⟨true, true, false⟩ n.rounds with
      | .keyword "esac" => return []
      | t =>
          let first ←
            match t with
            | .operator "(" => plainToken n
            | t => pure t
          let patterns ← branchPatterns n n.rounds first
          let body := (← n.list .body).getD .nothing
          match ← token n.toInner ⟨true, true, false⟩ n.rounds with
          | .keyword "esac" => return [(patterns, body, .ends)]
          | t =>
              match afterBranch? t with
              | some after => return (patterns, body, after) :: (← choiceBranches n fuel)
              | none => unexpected t (some ";;")

def readChoice (n : Nesting) (line : Nat) : Reader Command := do
  match ← plainToken n with
  | .word w =>
      match ← token n.toInner expectAll n.rounds with
      | .keyword "in" => return .choose line w.parts (← choiceBranches n n.rounds)
      | t => unexpected t (some "in")
  | t => unexpected t (some "word")

/-! ## Conditions of the larger dialect -/

/-- The operators of a condition between two words. -/
def conditionOperators : List String :=
  ["=", "==", "!=", "=~", "-eq", "-ne", "-lt", "-le", "-gt", "-ge", "-nt", "-ot", "-ef"]

/-- A condition of one or two words. -/
def simpleCondition (n : Nesting) (first : ReadWord) : Reader Condition := do
  let operator? (w : ReadWord) : Option (List Char) :=
    if w.quoted then none
    else (literalText? w.parts).filter fun cs => conditionOperators.contains (String.ofList cs)
  let isUnary := (literalText? first.parts).any fun cs =>
    !first.quoted && cs.length == 2 && cs.head? == some '-'
  let closes (w : ReadWord) : Bool := literalText? w.parts == some "]]".toList
  let right : Reader Word := do
    match ← plainToken n with
    | .word w =>
        if closes w then
          refuse (.condition "unexpected argument \x60%' to conditional binary operator" (.word w))
        else return w.parts
    | t => refuse (.condition "unexpected argument \x60%' to conditional binary operator" t)
  match ← plainToken n with
  | .word w =>
    if closes w then
      push (.word w)
      return .word first.parts
    else
      match operator? w with
      | some ['=', '~'] =>
          let _ ← takeWhile (· == ' ') n.rounds
          let right ← readWord n.toInner .expression
          return .binary first.parts ['=', '~'] right.parts
      | some operator => return .binary first.parts operator (← right)
      | none =>
          if isUnary then return .unary ((literalText? first.parts).getD []) w.parts
          else
            let next ← if literalText? w.parts == some [']'] then plainToken n else pure (.word w)
            refuse (.condition "conditional binary operator expected" next)
  | .redirection none sign =>
      if sign == "<" || sign == ">" then
        return .binary first.parts sign.toList (← right)
      else unexpected (.redirection none sign) none
  | t =>
      push t
      return .word first.parts

/-- A condition up to what does not belong to it. `&&` binds more tightly than `||`. -/
def readCondition (n : Nesting) : Nat → Reader Condition
  | 0 => refuse .exhausted
  | fuel + 1 => do
      let first ← allOf n fuel
      match ← token n.toInner ⟨true, false, false⟩ n.rounds with
      | .operator "||" => return .either first (← readCondition n fuel)
      | t =>
          push t
          return first
where
  /-- A condition that no operator joins to another one. -/
  one (n : Nesting) : Nat → Reader Condition
    | 0 => refuse .exhausted
    | fuel + 1 => do
        match ← token n.toInner ⟨true, true, false⟩ n.rounds with
        | .keyword "!" => return .negated (← one n fuel)
        | .operator "(" =>
            let inside ← readCondition n fuel
            match ← plainToken n with
            | .operator ")" => return inside
            | t => unexpected t none
        | .word w => simpleCondition n w
        | t => unexpected t none
  /-- Conditions that must all hold. -/
  allOf (n : Nesting) : Nat → Reader Condition
    | 0 => refuse .exhausted
    | fuel + 1 => do
        let first ← one n fuel
        match ← token n.toInner ⟨true, false, false⟩ n.rounds with
        | .operator "&&" => return .both first (← allOf n fuel)
        | t =>
            push t
            return first

/-- A condition with the brackets around it. -/
def readTest (n : Nesting) (line : Nat) : Reader Command := do
  let c ← readCondition n n.rounds
  match ← plainToken n with
  | .word w =>
      if literalText? w.parts == some "]]".toList then return .condition line c
      else unexpected (.word w) none
  | t => unexpected t none

/-- A function behind the word that announces one. -/
def readNamedFunction (n : Nesting) (line : Nat) : Reader Command := do
  match ← plainToken n with
  | .word w =>
      let t ← token n.toInner expectAll n.rounds
      match t with
      | .operator "(" => readFunction n line w.parts
      | t =>
          push t
          return .define line ((literalText? w.parts).getD []) (← n.command)
  | t => unexpected t none

/-! ## Commands -/

/-- Takes what closes a command. -/
def demandClose (n : Nesting) (close : Token) : Reader Unit := do
  match close, ← plainToken n with
  | .keyword k, .keyword l =>
      if k == l then return () else unexpected (.keyword l) (some k)
  | .operator k, .operator l =>
      if k == l then return () else unexpected (.operator l) (some k)
  | close, t =>
      let wanted :=
        match close with
        | .keyword k => k
        | .operator k => k
        | _ => ""
      unexpected t (some wanted)

/-- A command with the redirections behind it. -/
def withRedirections (n : Nesting) (line : Nat) (c : Command) : Reader Command := do
  match ← redirections n n.rounds, c with
  | [], c => return c
  | rs, .subshell line inner [] => return .subshell line inner rs
  | rs, c => return .redirected line c rs

def readCommand (n : Nesting) : Reader Command := do
  let line := (← get).line
  let closing (c : Command) (close : Token) : Reader Command := do
    demandClose n close
    withRedirections n line c
  match ← plainToken n with
  | .keyword "if" => closing (← readBranches n n.rounds) (.keyword "fi")
  | .keyword "while" => closing (← readLoop n true) (.keyword "done")
  | .keyword "until" => closing (← readLoop n false) (.keyword "done")
  | .keyword "for" => closing (← readFor n line) (.keyword "done")
  | .keyword "case" => withRedirections n line (← readChoice n line)
  | .keyword "\x7b" => closing (← block n) (.keyword "\x7d")
  | .keyword "function" => readNamedFunction n line
  | .keyword "[[" => withRedirections n line (← readTest n line)
  | .operator "(" =>
      if (← get).dialect = .extended && (← takes '(') then
        withRedirections n line (.calculation line (← betweenSigns (n.parts .calculation)))
      else closing (.subshell line (← block n) []) (.operator ")")
  | .word w =>
      push (.word w)
      simpleWords n line n.rounds ⟨[], [], []⟩
  | .redirection stream sign =>
      push (.redirection stream sign)
      simpleWords n line n.rounds ⟨[], [], []⟩
  | t => unexpected t none

/-- The commands of a pipe, last one first. -/
def pipeCommands (n : Nesting) : Nat → List Command → Reader (List Command)
  | 0, _ => refuse .exhausted
  | fuel + 1, before => do
      let c ← readCommand n
      match ← plainToken n with
      | .operator "|" =>
          let t ← token n.toInner expectAll n.rounds
          push t
          pipeCommands n fuel (c :: before)
      | .operator "|&" =>
          let t ← token n.toInner expectAll n.rounds
          push t
          let joined := Command.redirected 0 c [.duplicate 2 [.literal ['1'] false]]
          pipeCommands n fuel (joined :: before)
      | t =>
          push t
          return c :: before

/-- Takes the word in front of a pipe that asks for its time. -/
def takesTime (n : Nesting) : Reader Bool := do
  match ← plainToken n with
  | .keyword "time" =>
      let t ← token n.toInner ⟨false, true, true⟩ n.rounds
      match t with
      | .word w => if literalText? w.parts == some ['-', 'p'] then pure () else push t
      | t => push t
      let t ← token n.toInner ⟨false, true, true⟩ n.rounds
      push t
      return true
  | t =>
      push t
      return false

/-- Commands joined by pipes, with a negation in front or not. -/
def readPipeline (n : Nesting) : Reader Command := do
  let timed ← takesTime n
  let negated ←
    match ← plainToken n with
    | .keyword "!" =>
        let t ← token n.toInner ⟨false, true, true⟩ n.rounds
        push t
        pure true
    | t =>
        push t
        pure false
  let c : Command :=
    match ← pipeCommands n n.rounds [] with
    | [c] => c
    | cs => .pipe cs.reverse
  let c := if negated then Command.negated c else c
  return if timed then .timed c else c

/-- Pipelines joined by `&&` and `||`, to the left. -/
def readAndOr (n : Nesting) : Nat → Option (Bool × Command) → Reader Command
  | 0, _ => refuse .exhausted
  | fuel + 1, left => do
      let c ← readPipeline n
      let c : Command :=
        match left with
        | none => c
        | some (true, first) => .both first c
        | some (false, first) => .either first c
      let goOn (isBoth : Bool) : Reader Command := do
        let t ← token n.toInner expectAll n.rounds
        push t
        readAndOr n fuel (some (isBoth, c))
      match ← plainToken n with
      | .operator "&&" => goOn true
      | .operator "||" => goOn false
      | t =>
          push t
          return c

/-- A list of commands. `started` says that one was read already, or may be missing. -/
def readList (n : Nesting) (kind : ListKind) :
    Nat → Bool → Option Command → Reader (Option Command)
  | 0, _, _ => refuse .exhausted
  | fuel + 1, started, sofar => do
      match ← token n.toInner ⟨kind != .line, true, true⟩ n.rounds with
      | .newline => return sofar
      | .endOfScript =>
          push .endOfScript
          return sofar
      | t =>
          push t
          if started && kind != .line && endsList t then return sofar
          else
            let c ← readAndOr n n.rounds none
            let next ← plainToken n
            let isBackground :=
              match next with
              | .operator "&" => true
              | _ => false
            let c := if isBackground then .background c else c
            let sofar :=
              match sofar with
              | none => c
              | some before => .sequence before c
            match next with
            | .endOfScript =>
                push .endOfScript
                return some sofar
            | .newline =>
                push .newline
                readList n kind fuel true (some sofar)
            | .operator "&" => readList n kind fuel true (some sofar)
            | .operator ";" => readList n kind fuel true (some sofar)
            | t =>
                if kind = .line then unexpected t none
                else
                  push t
                  return some sofar

/-- In the larger dialect a script that only redirects its input prints that. -/
def printing (dialect : Dialect) : Command → Command
  | .simple line [] [] [.file 0 .input name] =>
      if dialect = .extended then .printFile line name
      else .simple line [] [] [.file 0 .input name]
  | c => c

/-- The script of a substitution, with the bracket that closes it if there is one. -/
def readScript (n : Nesting) (bracketed : Bool) : Reader Command := do
  let c := printing (← get).dialect ((← n.list .body).getD .nothing)
  if bracketed then
    match ← plainToken n with
    | .operator ")" => return c
    | .endOfScript =>
        if (← get).dialect = .extended then refuse .openCalculation
        else unexpected .endOfScript (some ")")
    | t => unexpected t (some ")")
  else return c

/-- Reads what is nested so deep. -/
def nesting (rounds : Nat) : Nat → Nesting
  | 0 =>
      { rounds := rounds
        parts := fun _ => refuse .exhausted
        script := fun _ => refuse .exhausted
        list := fun _ => refuse .exhausted
        command := refuse .exhausted }
  | depth + 1 =>
      { rounds := rounds
        parts := fun zone => gather (nesting rounds depth).toInner zone rounds 0 .none
        script := fun bracketed => readScript (nesting rounds depth) bracketed
        list := fun kind => readList (nesting rounds depth) kind rounds (kind = .body) none
        command := fun s => readCommand (nesting rounds depth) s }

/-- The deepest nesting of a script. -/
def deepest : Nat := 2000

end Reader

/-- What comes next in a script. -/
inductive NextLine where
  /-- Nothing is left. -/
  | finished
  /-- The commands of a line, if it has any, and what is left. -/
  | commands (c : Option Command) (rest : Source)

/-- Reads the commands of the next line. -/
def Source.nextLine (s : Source) : Except SyntaxFault NextLine :=
  let rounds := s.rest.length + 2
  let n := Reader.nesting rounds Reader.deepest
  match Reader.token n.toInner ⟨false, true, true⟩ rounds s with
  | .error f => .error f
  | .ok (.endOfScript, _) => .ok .finished
  | .ok (.newline, s) => .ok (.commands none s)
  | .ok (t, s) =>
      match Reader.readList n .line rounds false none { s with pushed := some t } with
      | .error f => .error f
      | .ok (c, s) => .ok (.commands c s)

/-- A script whose lines are counted from a line on. -/
def Source.ofText (dialect : Dialect) (line : Nat) (cs : List Char) : Source :=
  ⟨cs, line, none, dialect, [], []⟩

end PluginBundle.Shell
