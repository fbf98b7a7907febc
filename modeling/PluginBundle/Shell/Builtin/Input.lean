import PluginBundle.Shell.Builtin.Variables
import PluginBundle.Shell.Glob
import PluginBundle.Shell.Printing
import PluginBundle.Shell.Test

/-!
# Reading and printing

The commands that read a line into variables, print text, and test conditions.
-/

namespace PluginBundle.Shell.Builtin

/-! ## Fields of a line -/

def isBlankSeparator (c : Char) : Bool := c == ' ' || c == '\t' || c == '\n'

/-- A field in front of a separator, and what follows the separators behind it. -/
def takeField (ifs : List Char) (cs : MarkedText) : List Char × MarkedText :=
  let separates (p : Char × Bool) : Bool := !p.2 && ifs.contains p.1
  let blank (p : Char × Bool) : Bool := separates p && isBlankSeparator p.1
  let start := cs.dropWhile blank
  let field := start.takeWhile (!separates ·)
  let rest := start.drop field.length
  match rest with
  | [] => (unmarked field, [])
  | p :: after =>
      -- Blank separators take another one among them along.
      let after := after.dropWhile blank
      let after :=
        match after with
        | q :: more => if blank p && separates q then more.dropWhile blank else after
        | [] => []
      (unmarked field, after)

/-- How much of the last field counts. Separators at its end are left out if they are blank, with at
most one other one in front of them, unless a field stands before that. -/
def keptLength (ifs : List Char) : Nat → Option Nat → Bool → MarkedText → Nat
  | place, cut, _, [] => cut.getD place
  | place, cut, afterBlank, (c, quoted) :: rest =>
      let separates := !quoted && ifs.contains c
      if separates && isBlankSeparator c then
        keptLength ifs (place + 1) (some (cut.getD place)) afterBlank rest
      else
        let cut := if separates && afterBlank then cut else none
        keptLength ifs (place + 1) cut false rest

/-- The last field of a line, which gets all that is left. -/
def lastField (ifs : List Char) (cs : MarkedText) : List Char :=
  let separates (p : Char × Bool) : Bool := !p.2 && ifs.contains p.1
  let start := cs.dropWhile fun p => separates p && isBlankSeparator p.1
  let field := start.takeWhile (!separates ·)
  match start.drop field.length with
  | [] => unmarked field
  | p :: rest =>
      let blank := isBlankSeparator p.1
      let place := field.length
      unmarked (start.take (keptLength ifs (place + 1) (some place) blank rest))

/-- Gives the names their fields of a line; the last one gets the rest of it. -/
def assignFields (ifs : List Char) : List (List Char) → MarkedText → Act Unit
  | [], _ => return ()
  | [name], line => Act.assign name (lastField ifs line)
  | name :: names, line => do
      let (field, rest) := takeField ifs line
      Act.assign name field
      assignFields ifs names rest

/-- All fields of a line. Each round takes a character, so `fuel` beyond the length of the line is
never used up. -/
def allFieldsOf (ifs : List Char) : Nat → MarkedText → List (List Char)
  | 0, _ => []
  | fuel + 1, cs =>
      let (field, rest) := takeField ifs cs
      if rest.isEmpty then if field.isEmpty then [] else [field]
      else field :: allFieldsOf ifs fuel rest

/-- A line with its backslashes taken for quotes, and whether it goes on behind its end. -/
def unescapedLine : List Char → MarkedText × Bool
  | [] => ([], false)
  | ['\\', '\n'] => ([], true)
  | '\\' :: c :: r =>
      let (rest, more) := unescapedLine r
      ((c, true) :: rest, more)
  | ['\\'] => ([], false)
  | c :: r =>
      let (rest, more) := unescapedLine r
      ((c, false) :: rest, more)

/-- Takes a line from a stream, and says whether it had an end. -/
def takeMarkedLine (stream : Nat) (raw : Bool) : Nat → Act (MarkedText × Bool)
  | 0 => return ([], false)
  | fuel + 1 => do
      let line := (← Act.takeLineFrom stream).filter (· != '\x00')
      if raw then
        let text := line.takeWhile (· != '\n')
        return (marked false text, text.length < line.length)
      else
        let (text, more) := unescapedLine line
        if more then
          let (rest, ended) ← takeMarkedLine stream raw fuel
          return (text ++ rest, ended)
        else
          let ended := text.getLast? == some ('\n', false)
          return (if ended then text.dropLast else text, ended)

/-- Takes what comes in front of a character from a stream, or only so many characters of it, and
says whether that ended it. The character itself is taken too. -/
def takeUpTo (stream : Nat) (stop : Option Char) (most : Option Nat) :
    Act (MarkedText × Bool) := do
  let s ← get
  match s.channel? stream with
  | none => return ([], false)
  | some id =>
      let (text, w) := s.world.takeAll id
      let upTo := text.takeWhile fun c => some c != stop
      let front := upTo.take (most.getD upTo.length)
      let cut := front.length < upTo.length || most.any (· ≤ front.length)
      let found := cut || front.length < text.length
      let rest := text.drop (if cut then front.length else front.length + 1)
      let w := if found then w.setChannel id (.waiting rest) else w
      set { s with world := w }
      return (marked false front, found)

/-- A number in an option, or what stands for none. -/
def optionNumber (letters : List (Char × List Char)) (letter : Char) (otherwise : Nat) : Nat :=
  match letters.lookup letter with
  | some word => if word.all Char.isDigit then Reader.numberIn 10 word else otherwise
  | none => otherwise

def readLine (words : List (List Char)) : Act Unit := do
  let plain := (← get).isPlain
  let (letters, names) ←
    if plain then options ['r'] ['p'] (optionFuel words) words
    else options ['r', 's', 'e'] ['p', 'a', 'd', 'n', 'N', 't', 'u', 'i'] (optionFuel words) words
  let raw := letters.any (·.1 == 'r')
  if plain && names.isEmpty then Act.raise (ofText "arg count")
  for name in names do
    if !isName name then
      Act.raise (if plain then name ++ ofText ": bad variable name"
        else '\x60' :: name ++ ofText "': not a valid identifier")
  let stream := optionNumber letters 'u' 0
  let most := if letters.any fun l => l.1 == 'n' || l.1 == 'N' then
      some (optionNumber letters 'n' (optionNumber letters 'N' 0)) else none
  let whole := letters.any (·.1 == 'N')
  let (line, ended) ←
    match letters.lookup 'd', most with
    | some stop, _ => takeUpTo stream (some (stop.head?.getD '\x00')) most
    | none, some _ => takeUpTo stream (if whole then none else some '\n') most
    | none, none => takeMarkedLine stream raw 100000
  let separators := (← get).separators
  let ifs := if whole then [] else separators
  match letters.lookup 'a' with
  | some name =>
      let fields := allFieldsOf ifs (line.length + 1) line
      modify fun s => s.setVariable name (.ofList fields)
  | none =>
      if names.isEmpty then Act.assign "REPLY".toList (unmarked line)
      else assignFields ifs names line
  Act.setStatus (if ended then 0 else 1)

/-- Takes lines from a stream, each up to a character. Each round takes a line, so `fuel` beyond the
number of characters is never used up. -/
def splitLines (stop : Char) : Nat → List Char → List (List Char)
  | 0, _ => []
  | _, [] => []
  | fuel + 1, cs =>
      let line := cs.takeWhile (· != stop)
      cs.take (line.length + 1) :: splitLines stop fuel (cs.drop (line.length + 1))

/-- Reads lines into a list. -/
def readLines (words : List (List Char)) : Act Unit := do
  let (letters, names) ←
    options ['t'] ['d', 'n', 'O', 's', 'u', 'C', 'c'] (optionFuel words) words
  let name := names.headD "MAPFILE".toList
  let s ← get
  let stop := ((letters.lookup 'd').map fun text => text.headD '\x00').getD '\n'
  match s.channel? (optionNumber letters 'u' 0) with
  | none => Act.setStatus 1
  | some id =>
      let (text, w) := s.world.takeAll id
      let skipped := optionNumber letters 's' 0
      let most := optionNumber letters 'n' 0
      let all := splitLines stop (text.length + 1) text
      let taken := if most = 0 then all else all.take (skipped + most)
      let rest := all.drop taken.length
      let w := if rest.isEmpty then w else w.setChannel id (.waiting rest.flatten)
      let trimmed (line : List Char) : List Char :=
        if letters.any (·.1 == 't') && line.getLast? == some stop then line.dropLast else line
      let lines := (taken.drop skipped).map trimmed
      let origin := optionNumber letters 'O' 0
      let old := (s.binding? name).getD .missing
      let start := if letters.any (·.1 == 'O') then old else { old with items := [] }
      let (_, v) := lines.foldl (fun (n, (v : Variable)) line =>
        (n + 1, v.withElement (.number n) line)) (origin, { start with names := .numbers })
      set ({ s with world := w }.setVariable name v)
      succeed

/-! ## Printing and testing -/

def echo (words : List (List Char)) : Act Unit := do
  Act.print (echoText (← get).isPlain words)
  succeed

/-- Gives an element of a variable a value. -/
def setElementText (name index text : List Char) : Act Unit := do
  let v := ((← get).binding? name).getD .missing
  let key ←
    if v.names = .texts then pure (ElementKey.text index)
    else pure (ElementKey.number (v.place (← Act.calculation index)))
  modify fun s => s.setElement name key text

def printf (words : List (List Char)) : Act Unit := do
  let plain := (← get).isPlain
  let (target, words) ←
    match words with
    | ['-', 'v'] :: name :: rest => pure (if plain then none else some name, rest)
    | ['-', '-'] :: rest => pure (none, rest)
    | words => pure (none, words)
  match target.filter fun name => !isName name && (splitElement? name).isNone, words with
  | some name, _ => fail 2 ('\x60' :: name ++ ofText "': not a valid identifier")
  | none, [] =>
      if plain then Act.raise (ofText "usage: printf format [arg ...]")
      else
        Act.printError (ofText "printf: usage: printf [-v var] format [arguments]\n")
        Act.setStatus 2
  | none, format :: arguments =>
      let p := formatted plain format arguments
      for message in p.messages do
        Act.complain message
      match target with
      | some name =>
          match splitElement? name with
          | some (name, index) => setElementText name index p.text
          | none => Act.assign name p.text
      | none => Act.print p.text
      Act.setStatus (if p.failed then if p.stopped && plain then 2 else 1 else 0)

/-- Tests the words. -/
def testWords (words : List (List Char)) : Act Unit := do
  let s ← get
  match test s words with
  | .ok holds => Act.setStatus (if holds then 0 else 1)
  | .error f => fail 2 (f.message s.isPlain)

/-- A test between brackets. -/
def bracketTest (words : List (List Char)) : Act Unit := do
  if words.getLast? == some [']'] then testWords words.dropLast
  else if (← get).isPlain then Act.raise (ofText "missing ]")
  else fail 2 (ofText "missing \x60]'")

end PluginBundle.Shell.Builtin
