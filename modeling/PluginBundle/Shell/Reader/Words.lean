import PluginBundle.Shell.Reader.Basic

/-!
# Reading words

A word ends at a blank, a line end or an operator, none of which counts inside quotes and
expansions. What is special depends on where a text stands: outside of quotes, between double
quotes, behind the name of a parameter, in a calculation, or in input that is written out.
-/

namespace PluginBundle.Shell

def isNameStart (c : Char) : Bool := c.isAlpha || c == '_'

def isNamePart (c : Char) : Bool := c.isAlphanum || c == '_'

/-- Letters, digits and underscores that start with no digit. -/
def isName (cs : List Char) : Bool := cs.head?.any isNameStart && cs.all isNamePart

/-- Parameters of a single sign. -/
def isSpecialParameter (c : Char) : Bool :=
  c == '@' || c == '*' || c == '#' || c == '?' || c == '$' || c == '!' || c == '-'

/-- A character that ends a word. -/
def endsWord (c : Char) : Bool :=
  c == ' ' || c == '\t' || c == '\n' || c == ';' || c == '&' || c == '|' || c == '<' || c == '>'
    || c == '(' || c == ')'

/-- Where a text stands. -/
inductive Zone where
  | bare
  | quotes
  /-- Behind the name of a parameter, inside double quotes or not. -/
  | brace (quoted : Bool)
  /-- A part of that, up to a sign or the closing brace, neither of which is taken. -/
  | piece (stop : Char) (quoted : Bool)
  | calculation
  | subscript
  | inline
  /-- An expression to match, which only blanks end. -/
  | expression
  deriving DecidableEq, Repr

/-- How what stands inside a word is read. -/
structure Inner where
  /-- More rounds than any loop of a reader takes. -/
  rounds : Nat
  parts : Zone → Reader Word
  /-- A nested script, which a bracket closes or else its own end. -/
  script : Bool → Reader Command

namespace Reader

/-! ## Collecting parts -/

/-- Parts that were read, last one first, with the text that the last one is made of. -/
structure Gathered where
  parts : List WordPart
  text : List Char
  quoted : Bool

namespace Gathered

def none : Gathered := ⟨[], [], false⟩

def settle (g : Gathered) : Gathered :=
  if g.text.isEmpty then g else ⟨.literal g.text.reverse g.quoted :: g.parts, [], false⟩

def push (g : Gathered) (c : Char) (quoted : Bool) : Gathered :=
  if g.quoted = quoted then { g with text := c :: g.text }
  else { g.settle with text := [c], quoted := quoted }

def pushAll (g : Gathered) (cs : List Char) (quoted : Bool) : Gathered :=
  cs.foldl (fun g c => g.push c quoted) g

def add (g : Gathered) (p : WordPart) : Gathered :=
  { g.settle with parts := p :: g.settle.parts, quoted := false }

/-- Adds quoted text. It counts even if it is empty. -/
def addQuoted (g : Gathered) (cs : List Char) : Gathered :=
  if cs.isEmpty then g.add (.literal [] true) else g.pushAll cs true

def addAll (g : Gathered) (ps : Word) : Gathered :=
  if ps.isEmpty then g.addQuoted [] else ps.foldl add g

def word (g : Gathered) : Word := g.settle.parts.reverse

end Gathered

/-! ## Expansions -/

def isPlain : Reader Bool := return (← get).dialect == .plain

/-- What is opened and has to be closed. -/
def isOpening : SyntaxCause → Bool
  | .openQuote _ => true
  | .openBrace => true
  | .openCalculation => true
  | .openBackquote => true
  | _ => false

/-- Reads what stands between an opening and a closing sign. In the larger dialect one that is not
closed is told of on the line where it is opened. -/
def betweenSigns {α : Type} (r : Reader α) : Reader α := fun s =>
  match r s with
  | .error f =>
      .error (if isOpening f.cause && s.dialect = .extended then ⟨f.cause, s.line⟩ else f)
  | result => result

/-- The text up to a closing quote, in which nothing is special. -/
def singleQuoted : Nat → List Char → Reader (List Char)
  | 0, _ => refuse .exhausted
  | fuel + 1, text => do
      match ← take? with
      | none => refuse (.openQuote '\'')
      | some '\'' => return text.reverse
      | some c => singleQuoted fuel (c :: text)

/-- The value of digits of a base up to sixteen. -/
def numberIn (base : Nat) (digits : List Char) : Nat :=
  digits.foldl (fun n c =>
    n * base + (if c.isDigit then c.toNat - 48 else c.toLower.toNat - 87)) 0

def isOctalDigit (c : Char) : Bool := '0' ≤ c && c ≤ '7'

def isHexDigit (c : Char) : Bool := c.isDigit || ('a' ≤ c.toLower && c.toLower ≤ 'f')

/-- The character of an escape by a letter. -/
def letterEscape? : Char → Option Char
  | 'a' => some '\x07'
  | 'b' => some '\x08'
  | 'e' => some '\x1b'
  | 'E' => some '\x1b'
  | 'f' => some '\x0c'
  | 'n' => some '\n'
  | 'r' => some '\r'
  | 't' => some '\t'
  | 'v' => some '\x0b'
  | '\\' => some '\\'
  | '\'' => some '\''
  | '"' => some '"'
  | '?' => some '?'
  | _ => none

/-- A quoted text with its escapes replaced. Each round takes a character, so `fuel` as long as the
text is never used up. -/
def unescaped : Nat → List Char → List Char
  | 0, cs => cs
  | _, [] => []
  | fuel + 1, '\\' :: 'x' :: r =>
      let digits := (r.take 2).takeWhile isHexDigit
      if digits.isEmpty then '\\' :: 'x' :: unescaped fuel r
      else Char.ofNat (numberIn 16 digits) :: unescaped fuel (r.drop digits.length)
  | fuel + 1, '\\' :: c :: r =>
      let digits := ((c :: r).take 3).takeWhile isOctalDigit
      if !digits.isEmpty then
        Char.ofNat (numberIn 8 digits % 256) :: unescaped fuel ((c :: r).drop digits.length)
      else
        match letterEscape? c with
        | some e => e :: unescaped fuel r
        | none => '\\' :: c :: unescaped fuel r
  | fuel + 1, c :: r => c :: unescaped fuel r

/-- The text up to a closing quote that no backslash precedes. -/
def escapeQuoted : Nat → List Char → Reader (List Char)
  | 0, _ => refuse .exhausted
  | fuel + 1, text => do
      match ← take? with
      | none => refuse (.openQuote '\'')
      | some '\'' => return unescaped text.length text.reverse
      | some '\\' =>
          match ← take? with
          | none => refuse (.openQuote '\'')
          | some c => escapeQuoted fuel (c :: '\\' :: text)
      | some c => escapeQuoted fuel (c :: text)

/-- The script between backquotes, with the backslashes taken off that only guard signs of it. -/
def backquoted (quoted : Bool) : Nat → List Char → Reader (List Char)
  | 0, _ => refuse .exhausted
  | fuel + 1, text => do
      match ← peek? with
      | none => refuse .openBackquote
      | some '\x60' =>
          skip
          return text.reverse
      | some '\\' =>
          skip
          match ← take? with
          | none => refuse .openBackquote
          | some c =>
              if c == '\\' || c == '\x60' || c == '$' || (quoted && c == '"') then
                backquoted quoted fuel (c :: text)
              else backquoted quoted fuel (c :: '\\' :: text)
      | some c =>
          skip
          backquoted quoted fuel (c :: text)

/-- The edit by a text behind one of four signs. -/
def wordEdit (sign : Char) (emptyToo : Bool) (text : Word) : Edit :=
  match sign with
  | '-' => .fallback emptyToo false text
  | '=' => .fallback emptyToo true text
  | '+' => .replacement emptyToo text
  | _ => .demand emptyToo text

/-- Leaves out what stands before the closing brace. -/
def toBrace (again : Inner) (quoted : Bool) : Reader Unit := do
  let _ ← again.parts (.brace quoted)

/-- The edits of the larger dialect behind a colon: a part of the value. -/
def readSlice (again : Inner) (quoted : Bool) : Reader Edit := do
  let offset ← again.parts (.piece ':' quoted)
  if ← takes ':' then
    let length ← again.parts (.brace false)
    return .slice offset (some length)
  else
    toBrace again quoted
    return .slice offset none

/-- The edits of the larger dialect that exchange matches. -/
def readExchange (again : Inner) (quoted : Bool) : Reader Edit := do
  let scope : ExchangeScope ←
    if ← takes '/' then pure .all
    else if ← takes '#' then pure .front
    else if ← takes '%' then pure .back
    else pure .first
  let pattern ← again.parts (.piece '/' false)
  if ← takes '/' then return .exchange scope pattern (← again.parts (.brace quoted))
  else
    toBrace again quoted
    return .exchange scope pattern []

def readRecase (again : Inner) (sign : Char) : Reader Edit := do
  let all ← takes sign
  toBrace again false
  return .recase (sign == '^') all

/-- The edit of a letter behind an at sign. -/
def shownEdit? : Char → Option Edit
  | 'Q' => some .requote
  | 'E' => some .unescape
  | 'U' => some (.recase true true)
  | 'u' => some (.recase true false)
  | 'L' => some (.recase false true)
  | _ => none

/-- What stands between the name of a parameter and the closing brace; nothing if it makes no
sense. -/
def readEdit (again : Inner) (quoted : Bool) : Reader (Option Edit) := do
  let isWordSign (c : Char) := c == '-' || c == '=' || c == '+' || c == '?'
  let plain ← isPlain
  match ← peek? with
  | some '\x7d' =>
      skip
      return some .plain
  | some ':' =>
      skip
      match ← peek? with
      | some c =>
          if isWordSign c then
            skip
            return some (wordEdit c true (← again.parts (.brace quoted)))
          else if !plain then return some (← readSlice again quoted)
          else
            toBrace again quoted
            return none
      | none =>
          toBrace again quoted
          return none
  | some c =>
      if isWordSign c then
        skip
        return some (wordEdit c false (← again.parts (.brace quoted)))
      else if c == '#' || c == '%' then
        skip
        let longest ← takes c
        return some (.cut (c == '#') longest (← again.parts (.brace false)))
      else if !plain && c == '/' then
        skip
        return some (← readExchange again quoted)
      else if !plain && (c == '^' || c == ',') then
        skip
        return some (← readRecase again c)
      else if !plain && c == '@' then
        skip
        let letter ← take?
        toBrace again quoted
        return letter.bind shownEdit?
      else
        toBrace again quoted
        return none
  | none =>
      toBrace again quoted
      return none

/-- The subscript of a list behind its name. -/
def readSubscript (again : Inner) (name : List Char) : Reader Target := do
  if ← takes '[' then
    let index ← again.parts .subscript
    match literalText? index with
    | some ['@'] => return .elements name false
    | some ['*'] => return .elements name true
    | _ => return .element name index
  else return .named name

/-- A name or a number of digits, and in the larger dialect the subscript behind it. -/
def readTarget (again : Inner) (c : Char) : Reader Target := do
  if c.isDigit then return .named (← takeWhile Char.isDigit again.rounds)
  else
    let name ← takeWhile isNamePart again.rounds
    if ← isPlain then return .named name else readSubscript again name

/-- The parameter between braces, behind the opening one. -/
def readBraces (again : Inner) (quoted : Bool) : Reader WordPart := do
  let edited (target : Target) : Reader WordPart := do
    match ← readEdit again quoted with
    | some edit => return .parameter target edit quoted
    | none => return .parameter .malformed .plain quoted
  let malformed : Reader WordPart := do
    toBrace again quoted
    return .parameter .malformed .plain quoted
  match ← peek? with
  | none => malformed
  | some '\x7d' => malformed
  | some '#' =>
      skip
      match ← peek? with
      | none => malformed
      | some c =>
          if isNameStart c || c.isDigit then
            let target ← readTarget again c
            if ← takes '\x7d' then return .parameter target .length quoted else malformed
          else if c == '\x7d' then
            skip
            return .parameter (.named ['#']) .plain quoted
          else
            let s ← get
            skip
            if isSpecialParameter c && (← takes '\x7d') then
              return .parameter (.named [c]) .length quoted
            else
              set s
              edited (.named ['#'])
  | some '!' =>
      skip
      let c := (← peek?).getD '\x7d'
      let s ← get
      if !(← isPlain) && (isNameStart c || c.isDigit) then
        match ← readTarget again c with
        | .named name =>
            -- A star or an at sign in front of the brace asks for the names themselves.
            let t ← get
            if ← takes '*' then
              if ← takes '\x7d' then return .parameter (.namesFrom name true) .plain quoted
              else malformed
            else if ← takes '@' then
              if ← takes '\x7d' then return .parameter (.namesFrom name false) .plain quoted
              else
                set t
                edited (.indirect name)
            else edited (.indirect name)
        | .elements name _ => edited (.indices name)
        | .element name index => edited (.indirectElement name index)
        | _ => malformed
      else if !(← isPlain) && (c == '#' || c == '@' || c == '*') then
        skip
        if (← peek?) == some '\x7d' then edited (.indirect [c])
        else
          set s
          edited (.named ['!'])
      else edited (.named ['!'])
  | some c =>
      if isNameStart c || c.isDigit then edited (← readTarget again c)
      else if isSpecialParameter c then
        skip
        edited (.named [c])
      else malformed

/-- What a dollar sign starts, behind it. -/
def readDollar (again : Inner) (quoted : Bool) : Reader (Option WordPart) := do
  match ← peek? with
  | none => return none
  | some '(' =>
      skip
      if ← takes '(' then
        return some (.arithmetic (← betweenSigns (again.parts .calculation)) quoted)
      else return some (.substitution (← nested (again.script true)) quoted)
  | some '\x7b' =>
      skip
      return some (← betweenSigns (readBraces again quoted))
  | some c =>
      if isNameStart c then
        return some (.parameter (.named (← takeWhile isNamePart again.rounds)) .plain quoted)
      else if isSpecialParameter c || c.isDigit then
        skip
        return some (.parameter (.named [c]) .plain quoted)
      else return none

/-! ## Parts -/


/-- Text is quoted there by standing there. -/
def quotesText : Zone → Bool
  | .bare => false
  | .quotes => true
  | .brace quoted => quoted
  | .piece _ quoted => quoted
  | .calculation => true
  | .subscript => false
  | .inline => true
  | .expression => false

/-- What a backslash guards there besides the signs of expansions. -/
def guarded (zone : Zone) (c : Char) : Bool :=
  c == '$' || c == '\x60' || c == '\\'
    || (match zone with
        | .quotes => c == '"'
        | .brace true => c == '"' || c == '\x7d'
        | .piece _ true => c == '"' || c == '\x7d'
        | _ => false)

/-- What the next character means where it stands. -/
inductive Meaning where
  | stop
  /-- The character closes what it stands in, and is taken. -/
  | close
  | plain
  | escape
  | singleQuote
  | doubleQuote
  | dollar
  | backquote
  deriving DecidableEq, Repr

/-- Signs that mean the same in most places. -/
def commonMeaning (zone : Zone) (c : Char) : Meaning :=
  match c with
  | '\\' => .escape
  | '$' => .dollar
  | '\x60' => .backquote
  | '"' =>
      match zone with
      | .inline => .plain
      | .calculation => .plain
      | .quotes => .close
      | _ => .doubleQuote
  | '\'' => if quotesText zone then .plain else .singleQuote
  | _ => .plain

def meaning (zone : Zone) (c : Char) : Meaning :=
  match zone with
  | .bare => if endsWord c then .stop else commonMeaning zone c
  | .expression =>
      if c == ' ' || c == '\t' || c == '\n' then .stop else commonMeaning zone c
  | .brace _ => if c == '\x7d' then .close else commonMeaning zone c
  | .piece stop _ => if c == stop || c == '\x7d' then .stop else commonMeaning zone c
  | .subscript => if c == ']' then .close else commonMeaning zone c
  | _ => commonMeaning zone c

/-- What is missing where a script ends inside of it. -/
def missing? : Zone → Option SyntaxCause
  | .quotes => some (.openQuote '"')
  | .brace true => some (.openQuote '"')
  | .brace false => some .openBrace
  | .piece _ true => some (.openQuote '"')
  | .piece _ false => some .openBrace
  | .calculation => some .openCalculation
  | .subscript => some .openBrace
  | _ => none

/-- A script between brackets follows, which is read from or written to. -/
def connects : Reader Bool := do
  let s ← get
  match s.rest with
  | c :: '(' :: _ => return s.dialect == .extended && (c == '<' || c == '>')
  | _ => return false

/-- A subscript with blanks follows, behind which there is the sign of an assignment. -/
def subscriptFollows (g : Gathered) : Reader Bool := do
  let s ← get
  let inside := (s.rest.drop 1).takeWhile fun c => c != ']' && !endsLine c
  let behind := s.rest.drop (inside.length + 2)
  let assigned := behind.head? == some '=' || behind.take 2 == ['+', '=']
  return s.dialect == .extended && g.parts.isEmpty && !g.quoted && assigned
    && inside.any (fun c => c == ' ' || c == '\t') && (g.text.isEmpty || isName g.text.reverse)

/-- The parts of a text in a zone. In a calculation, `depth` counts the brackets that are open. -/
def gather (again : Inner) (zone : Zone) : Nat → Nat → Gathered → Reader Word
  | 0, _, _ => refuse .exhausted
  | fuel + 1, depth, g => do
      let quoted := quotesText zone
      match ← peek? with
      | none =>
          match missing? zone with
          | some cause => refuse cause
          | none => return g.word
      | some c =>
          match meaning zone c with
          | .stop =>
              if zone = .bare && (← connects) then
                skip
                skip
                let script ← nested (again.script true)
                gather again zone fuel depth (g.add (.connection script (c == '>')))
              else return g.word
          | .close =>
              skip
              return g.word
          | .escape =>
              skip
              match ← take? with
              | none => gather again zone fuel depth (g.push '\\' true)
              | some d =>
                  if quoted && !guarded zone d then
                    gather again zone fuel depth ((g.push '\\' true).push d true)
                  else gather again zone fuel depth (g.push d true)
          | .singleQuote =>
              skip
              let text ← betweenSigns (singleQuoted again.rounds [])
              gather again zone fuel depth (g.addQuoted text)
          | .doubleQuote =>
              skip
              let inside ← betweenSigns (again.parts .quotes)
              gather again zone fuel depth (g.addAll inside)
          | .dollar =>
              skip
              let plain ← isPlain
              let next ← peek?
              if !plain && !quoted && next == some '\'' then
                skip
                let text ← betweenSigns (escapeQuoted again.rounds [])
                gather again zone fuel depth (g.addQuoted text)
              else if !plain && !quoted && next == some '"' then
                gather again zone fuel depth g
              else
                match ← readDollar again quoted with
                | none => gather again zone fuel depth (g.push '$' quoted)
                | some part => gather again zone fuel depth (g.add part)
          | .backquote =>
              skip
              let source ← betweenSigns (backquoted quoted again.rounds [])
              let script ← within source (again.script false)
              gather again zone fuel depth (g.add (.substitution script quoted))
          | .plain =>
              let subscripted ← if zone = .bare && c == '[' then subscriptFollows g else pure false
              skip
              if subscripted then
                let index ← again.parts .subscript
                let g := index.foldl .add (g.push '[' false)
                gather again zone fuel depth (g.push ']' false)
              else if zone = .calculation && c == '(' then
                gather again zone fuel (depth + 1) (g.push c quoted)
              else if zone = .calculation && c == ')' then
                if depth > 0 then gather again zone fuel (depth - 1) (g.push c quoted)
                else if ← takes ')' then return g.word
                else gather again zone fuel depth (g.push c quoted)
              else gather again zone fuel depth (g.push c quoted)

/-- Some part of the text of a word is quoted. -/
def hasQuotes : Word → Bool
  | [] => false
  | .literal _ true :: _ => true
  | .parameter _ _ true :: _ => true
  | .arithmetic _ true :: _ => true
  | .substitution _ true :: _ => true
  | _ :: rest => hasQuotes rest

/-- A word at the front. -/
def readWord (again : Inner) (zone : Zone) : Reader ReadWord := do
  let parts ← gather again zone again.rounds 0 .none
  return ⟨parts, hasQuotes parts⟩

/-! ## Tokens -/

/-- Leaves out a comment. -/
def skipComment : Nat → Reader Unit
  | 0 => refuse .exhausted
  | fuel + 1 => do
      match (← get).rest with
      | [] => return ()
      | c :: _ =>
          if endsLine c then return ()
          else
            skip
            skipComment fuel

/-- The sign of a redirection. -/
def readSign : Reader String := do
  let plain ← isPlain
  if ← takes '>' then
    if ← takes '>' then return ">>"
    else if ← takes '|' then return ">|"
    else if ← takes '&' then return ">&"
    else return ">"
  else
    skip
    if ← takes '<' then
      if ← takes '-' then return "<<-"
      else if !plain && (← takes '<') then return "<<<"
      else return "<<"
    else if ← takes '&' then return "<&"
    else if ← takes '>' then return "<>"
    else return "<"

/-- An operator that the character starts, once the character is taken. -/
def readOperator (c : Char) : Reader Token := do
  let plain ← isPlain
  match c with
  | '&' =>
      if ← takes '&' then return .operator "&&"
      else if plain then return .operator "&"
      else if ← takes '>' then
        if ← takes '>' then return .redirection none "&>>" else return .redirection none "&>"
      else return .operator "&"
  | '|' =>
      if ← takes '|' then return .operator "||"
      else if !plain && (← takes '&') then return .operator "|&"
      else return .operator "|"
  | ';' =>
      if ← takes ';' then
        if !plain && (← takes '&') then return .operator ";;&" else return .operator ";;"
      else if !plain && (← takes '&') then return .operator ";&"
      else return .operator ";"
  | c => return .operator (String.singleton c)

/-- A word or, if the word is a digit in front of a redirection, that. -/
def readWordToken (again : Inner) : Reader Token := do
  let word ← readWord again .bare
  match literalText? word.parts, ← peek? with
  | some [d], some c =>
      if d.isDigit && !word.quoted && (c == '<' || c == '>') then
        return .redirection (some (d.toNat - 48)) (← readSign)
      else return .word word
  | _, _ => return .word word

/-- The next token. -/
def nextToken (again : Inner) : Nat → Reader Token
  | 0 => refuse .exhausted
  | fuel + 1 => do
      match ← peek? with
      | none => return .endOfScript
      | some c =>
          if c == ' ' || c == '\t' then
            skip
            nextToken again fuel
          else if c == '#' then
            skipComment again.rounds
            nextToken again fuel
          else if c == '\n' then
            skip
            return .newline
          else if ← connects then readWordToken again
          else if c == '<' || c == '>' then return .redirection none (← readSign)
          else if endsWord c then
            skip
            readOperator c
          else readWordToken again

/-- What may be recognized at a place. -/
structure Expecting where
  newlines : Bool
  keywords : Bool
  aliases : Bool

/-- The words with a meaning of their own. -/
def keywords : List String :=
  ["!", "case", "do", "done", "elif", "else", "esac", "fi", "for", "if", "in", "then", "until",
   "while", "\x7b", "\x7d"]

/-- More such words of the larger dialect. -/
def extendedKeywords : List String := ["function", "[[", "time"]

/-- A word that is not quoted, as the keyword that it spells. -/
def keyword? (dialect : Dialect) (w : ReadWord) : Option String :=
  if w.quoted then none
  else
    match literalText? w.parts with
    | none => none
    | some cs =>
        let text := String.ofList cs
        if keywords.contains text then some text
        else if dialect = .extended && extendedKeywords.contains text then some text
        else none

/-- The token that was put back, or else the next one. -/
def pushedOrNext (again : Inner) : Reader Token := do
  match (← get).pushed with
  | some t =>
      modify fun s => { s with pushed := none }
      return t
  | none => nextToken again again.rounds

/-- The text that a word stands for at the start of a command. -/
def alias? (s : Source) (w : ReadWord) : Option (List Char × List Char) :=
  if w.quoted then none
  else (literalText? w.parts).bind fun name => (s.aliases.lookup name).map fun text => (name, text)

/-- The next token, with what is recognized at its place. -/
def token (again : Inner) (e : Expecting) : Nat → Reader Token
  | 0 => refuse .exhausted
  | fuel + 1 => do
      match ← pushedOrNext again with
      | .newline => if e.newlines then token again e fuel else return .newline
      | .word w =>
          let s ← get
          match if e.keywords then keyword? s.dialect w else none with
          | some text => return .keyword text
          | none =>
              match if e.aliases then alias? s w else none with
              | none => return .word w
              | some (name, text) =>
                  -- The name does not stand for the text inside the text again.
                  set { s with
                    rest := text ++ ' ' :: s.rest, aliases := s.aliases.filter (·.1 != name) }
                  token again e fuel
      | t => return t

end Reader

end PluginBundle.Shell
