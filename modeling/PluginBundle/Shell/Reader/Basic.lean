import PluginBundle.Shell.Syntax
import PluginBundle.Text.Bytes

/-!
# Reading scripts

A reader takes what it needs from the front of a script and may refuse the rest. Lines are counted
on the way. A token that turns out to belong to what follows is put back.

The lines of input that is written out in a script are taken from behind the line that announces
them; a mark stays in their place, so that lines are still counted right.
-/

namespace PluginBundle.Shell

/-- A word as it was read, and whether any of it was quoted. -/
structure ReadWord where
  parts : Word
  quoted : Bool

/-- A token of a script. -/
inductive Token where
  | endOfScript
  | newline
  | operator (text : String)
  | keyword (text : String)
  | word (w : ReadWord)
  | redirection (stream : Option Nat) (sign : String)

/-- The name of a token in messages. -/
def Token.name : Token → String
  | .endOfScript => "end of file"
  | .newline => "newline"
  | .operator text => "\"" ++ text ++ "\""
  | .keyword text => "\"" ++ text ++ "\""
  | .word _ => "word"
  | .redirection _ _ => "redirection"

/-- The name of a token in messages of the larger dialect. -/
def Token.sign : Token → List Char
  | .endOfScript => "end of file".toList
  | .newline => "newline".toList
  | .operator text => text.toList
  | .keyword text => text.toList
  | .word w => (literalText? w.parts).getD "word".toList
  | .redirection _ sign => sign.toList

/-- Why a script is refused. -/
inductive SyntaxCause where
  | unexpected (token : Token) (wanted : Option String)
  | openQuote (mark : Char)
  | openBrace
  | openCalculation
  | openBackquote
  /-- A condition that makes no sense; a percent sign stands for the token. -/
  | condition (message : String) (token : Token)
  | loopVariable
  | functionName
  | exhausted

def SyntaxCause.message : SyntaxCause → String
  | .unexpected token none => token.name ++ " unexpected"
  | .unexpected token (some wanted) =>
      token.name ++ " unexpected (expecting \"" ++ wanted ++ "\")"
  | .openQuote _ => "Unterminated quoted string"
  | .openBrace => "Missing '\x7d'"
  | .openCalculation => "Missing '))'"
  | .openBackquote => "EOF in backquote substitution"
  | .condition message _ => message
  | .loopVariable => "Bad for loop variable"
  | .functionName => "Bad function name"
  | .exhausted => "script too long"

/-- A cause and the line on which it was found. -/
structure SyntaxFault where
  cause : SyntaxCause
  line : Nat

/-- What is left of a script. -/
structure Source where
  rest : List Char
  line : Nat
  pushed : Option Token
  dialect : Dialect
  /-- Words that stand for other text at the start of a command. -/
  aliases : List (List Char × List Char)
  /-- The first and the last line of input in the script that has no end, and its mark. -/
  warnings : List (Nat × Nat × List Char)

abbrev Reader := StateT Source (Except SyntaxFault)

namespace Reader

def refuse {α : Type} (cause : SyntaxCause) : Reader α := fun s => .error ⟨cause, s.line⟩

/-- The mark for a number of lines that were taken out. -/
def lineMark (lines : Nat) : Char := Char.ofNat (0x10000 + lines)

/-- The number of line ends that a character stands for. -/
def lineEnds (c : Char) : Nat := if c = '\n' then 1 else c.toNat - 0x10000

def endsLine (c : Char) : Bool := c == '\n' || c.toNat ≥ 0x10000

/-- Takes a character. -/
def take? : Reader (Option Char) := fun s =>
  match s.rest with
  | [] => .ok (none, s)
  | c :: r =>
      if endsLine c then .ok (some '\n', { s with rest := r, line := s.line + lineEnds c })
      else .ok (some c, { s with rest := r })

/-- Leaves out a character. -/
def skip : Reader Unit := do let _ ← take?

/-- Leaves out line ends that are escaped by a backslash. -/
def joinedLines : Nat → List Char → Nat × List Char
  | lines, '\\' :: '\n' :: r => joinedLines (lines + 1) r
  | lines, cs => (lines, cs)

/-- The next character, with lines joined. -/
def peek? : Reader (Option Char) := fun s =>
  match s.rest with
  | '\\' :: _ =>
      let (lines, rest) := joinedLines 0 s.rest
      .ok (rest.head?, { s with rest := rest, line := s.line + lines })
  | c :: _ => .ok (some (if endsLine c then '\n' else c), s)
  | [] => .ok (none, s)

/-- Takes a character if it is the one that is named. -/
def takes (c : Char) : Reader Bool := do
  if (← peek?) == some c then
    skip
    return true
  else return false

/-- Takes characters as long as they are accepted. -/
def takeWhile (accepts : Char → Bool) : Nat → Reader (List Char)
  | 0 => return []
  | fuel + 1 => do
      match ← peek? with
      | some c =>
          if accepts c then do
            skip
            return c :: (← takeWhile accepts fuel)
          else return []
      | none => return []

/-- Puts a token back. -/
def push (t : Token) : Reader Unit := modify fun s => { s with pushed := some t }

/-- Reads a text of its own, and goes on after that. -/
def within {α : Type} (text : List Char) (r : Reader α) : Reader α := do
  let s ← get
  set { s with rest := text, pushed := none }
  let a ← r
  set s
  return a

/-- Reads a nested script. A token that was put back belongs to what is outside. -/
def nested {α : Type} (r : Reader α) : Reader α := do
  let outer := (← get).pushed
  modify fun s => { s with pushed := none }
  let a ← r
  modify fun s => { s with pushed := outer }
  return a

/-! ## Input that is written out -/

/-- The lines up to the one that holds a mark only, how many lines are taken, and what follows;
nothing follows if the mark is missing. -/
def splitAtMark (stripped : Bool) (mark : List Char) :
    Nat → Nat → List (List Char) → List Char → List (List Char) × Nat × Option (List Char)
  | 0, taken, lines, cs => (lines, taken, some cs)
  | _, taken, lines, [] => (lines, taken, none)
  | fuel + 1, taken, lines, cs =>
      let line := cs.takeWhile (!endsLine ·)
      let after := cs.drop line.length
      let ends := (after.head?.map lineEnds).getD 0
      let line := if stripped then line.dropWhile (· == '\t') else line
      if line = mark then (lines, taken + ends, some (after.drop 1))
      else
        let text := if after.isEmpty then line else line ++ ['\n']
        splitAtMark stripped mark fuel (taken + ends) (text :: lines) (after.drop 1)

/-- Takes out the lines that start behind the present one, up to a mark. -/
def takeInline (stripped : Bool) (mark : List Char) : Reader (List Char) := fun s =>
  let here := s.rest.takeWhile (!endsLine ·)
  match s.rest.drop here.length with
  | [] => .ok ([], s)
  | c :: r =>
      let (lines, taken, rest?) := splitAtMark stripped mark (r.length + 1) 0 [] r
      let warnings :=
        match rest? with
        | some _ => s.warnings
        | none => (s.line, s.line + lineEnds c + taken - 1, mark) :: s.warnings
      let rest := here ++ lineMark (lineEnds c + taken) :: rest?.getD []
      .ok (lines.reverse.flatten, { s with rest := rest, warnings := warnings })

end Reader

end PluginBundle.Shell
