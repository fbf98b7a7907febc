import PluginBundle.Regex.Basic
import PluginBundle.Regex.Fault
import PluginBundle.Text.Blank
import PluginBundle.Text.Letter

/-!
# The notation of patterns

Alternatives, groups, classes, repetitions and flags, as patterns over log messages are written. A
reader takes what it needs from the front of the pattern; the length of the whole pattern tells it
where it is.

The notation has signs for classes, properties and word borders of all scripts, of which no tables
are kept: a pattern that needs one is refused, but only once the whole pattern is well formed. So a
pattern is read in rounds.
-/

namespace PluginBundle.Regex

/-- What flags change about the signs that follow them. -/
structure Flags where
  ignoreCase : Bool
  dotAll : Bool
  multiLine : Bool
  swapGreed : Bool
  verbose : Bool
  /-- Signs mean characters of all scripts. -/
  allScripts : Bool

def Flags.initial : Flags := ⟨false, false, false, false, false, true⟩

/-- What a round of reading refuses besides what is not well formed. -/
inductive Round where
  | form
  | tables
  | borders
  deriving DecidableEq, Repr

/-- The round, and the pattern's length, which turns what is left of the pattern into a place. -/
structure Scope where
  round : Round
  length : Nat

def Scope.place (s : Scope) (cs : List Char) : Nat := s.length - cs.length

/-- A fault from one place to another, each told by what is left there. -/
def Scope.fault {α : Type} (s : Scope) (problem : Problem) (start stop : List Char) :
    Except Fault α :=
  .error ⟨problem, s.place start, s.place stop⟩

/-- Goes on, unless what stands between two places needs a table and this round looks for that. -/
def Scope.needs {α : Type} (s : Scope) (problem : Problem) (start stop : List Char) (a : α) :
    Except Fault α :=
  if s.round = .tables then s.fault problem start stop else .ok a

/-! ## Characters -/

def isSpace (c : Char) : Bool := c == ' ' || (9 ≤ c.toNat && c.toNat ≤ 13)

/-- The characters of a backslash with a letter. -/
def shortClass? (c : Char) : Option (Char → Bool) :=
  match c with
  | 'd' => some Char.isDigit
  | 'D' => some (!Char.isDigit ·)
  | 's' => some isSpace
  | 'S' => some (!isSpace ·)
  | 'w' => some isWordChar
  | 'W' => some (!isWordChar ·)
  | _ => none

/-- The character of a backslash with a letter. -/
def letterEscape? (c : Char) : Option Char :=
  match c with
  | 'a' => some '\x07'
  | 'f' => some '\x0c'
  | 't' => some '\t'
  | 'n' => some '\n'
  | 'r' => some '\r'
  | 'v' => some '\x0b'
  | _ => none

/-- The anchor of a backslash with a sign. -/
def anchorEscape? (c : Char) : Option Anchor :=
  match c with
  | 'A' => some .textStart
  | 'z' => some .textEnd
  | 'b' => some .wordBorder
  | 'B' => some .noWordBorder
  | '<' => some .wordStart
  | '>' => some .wordEnd
  | _ => none

/-- A sign that may follow a backslash for itself. -/
def escapesItself (c : Char) : Bool :=
  c.toNat < 128 && !c.isAlphanum && c != '<' && c != '>'

def hexDigit? (c : Char) : Option Nat :=
  if c.isDigit then some (c.toNat - 48)
  else if 'a' ≤ c ∧ c ≤ 'f' then some (c.toNat - 87)
  else if 'A' ≤ c ∧ c ≤ 'F' then some (c.toNat - 55)
  else none

/-- The character with a number. -/
def scalar? (n : Nat) : Option Char :=
  if n < 0xD800 ∨ (0xDFFF < n ∧ n < 0x110000) then some (Char.ofNat n) else none

/-- What a backslash stands for. -/
inductive Escape where
  | literal (c : Char)
  | class (accepts : Char → Bool)
  | anchor (kind : Anchor)

/-- The number of so many hexadecimal digits. -/
def hexDigits (s : Scope) : Nat → Nat → List Char → Except Fault (Nat × List Char)
  | 0, n, cs => .ok (n, cs)
  | _ + 1, _, [] => s.fault .escapeEnd [] []
  | count + 1, n, c :: r =>
      match hexDigit? c with
      | some d => hexDigits s count (n * 16 + d) r
      | none => s.fault .hexDigit (c :: r) r

/-- The character of hexadecimal digits, so many of them or between braces. -/
def readHex (s : Scope) (count : Nat) (start cs : List Char) :
    Except Fault (Escape × List Char) := do
  let (n, rest) ←
    match cs with
    | '\x7b' :: r =>
        let digits := r.takeWhile (· != '\x7d')
        match r.dropWhile (· != '\x7d') with
        | [] => s.fault .escapeEnd cs []
        | _ :: after =>
            if digits.isEmpty then s.fault .hexEmpty cs after
            else do
              let (n, _) ← hexDigits s digits.length 0 r
              .ok (n, after)
    | cs => hexDigits s count 0 cs
  match scalar? n with
  | some c => return (.literal c, rest)
  | none => s.fault .hexValue start rest

/-- The property after its sign, between braces or a single letter. -/
def readProperty (s : Scope) (start cs : List Char) : Except Fault (Escape × List Char) :=
  let rest :=
    match cs with
    | '\x7b' :: r => (r.dropWhile (· != '\x7d')).drop 1
    | cs => cs.drop 1
  if cs.isEmpty then s.fault .escapeEnd cs []
  else s.needs .propertyUnknown start rest (.class fun _ => false, rest)

/-- What stands behind a backslash; `start` is what was left in front of it. -/
def readEscape (s : Scope) (f : Flags) (start cs : List Char) :
    Except Fault (Escape × List Char) :=
  match cs with
  | [] => s.fault .escapeEnd start []
  | c :: r =>
      if c.isDigit then s.fault .backreference start r
      else if c = 'x' then readHex s 2 start r
      else if c = 'u' then readHex s 4 start r
      else if c = 'U' then readHex s 8 start r
      else if c = 'p' ∨ c = 'P' then readProperty s start r
      else if escapesItself c then .ok (.literal c, r)
      else
        match shortClass? c, letterEscape? c, anchorEscape? c with
        | some accepts, _, _ =>
            if f.allScripts then s.needs .classTable start r (.class accepts, r)
            else .ok (.class accepts, r)
        | _, some e, _ => .ok (.literal e, r)
        | _, _, some kind =>
            let border := kind != .textStart && kind != .textEnd
            if f.allScripts && border && s.round == .borders then s.fault .borderTable start r
            else .ok (.anchor kind, r)
        | _, _, _ => s.fault .escapeUnknown start r

/-- The same letter of either case. -/
def sameLetter (a b : Char) : Bool := a == b || a.toLower == b.toLower

/-- A character, in either case if the flags say so. -/
def Scope.literal (s : Scope) (f : Flags) (start stop : List Char) (c : Char) :
    Except Fault Regex :=
  if !f.ignoreCase then .ok (.one (c == ·))
  else
    let folded := Regex.one (sameLetter c)
    if f.allScripts then s.needs .caseTable start stop folded else .ok folded

/-- One of several characters, in either case if the flags say so. -/
def Scope.class (s : Scope) (f : Flags) (start stop : List Char) (accepts : Char → Bool) :
    Except Fault Regex :=
  if !f.ignoreCase then .ok (.one accepts)
  else
    let folded := Regex.one fun d => accepts d || accepts d.toLower || accepts d.toUpper
    if f.allScripts then s.needs .caseTable start stop folded else .ok folded

/-! ## Classes -/

/-- The classes that have names. -/
def namedClass? (name : List Char) : Option (Char → Bool) :=
  match String.ofList name with
  | "alnum" => some Char.isAlphanum
  | "alpha" => some Char.isAlpha
  | "ascii" => some fun c => c.toNat < 128
  | "blank" => some fun c => c == ' ' || c == '\t'
  | "cntrl" => some fun c => c.toNat < 32 || c.toNat == 127
  | "digit" => some Char.isDigit
  | "graph" => some fun c => 32 < c.toNat && c.toNat < 127
  | "lower" => some Char.isLower
  | "print" => some fun c => 32 ≤ c.toNat && c.toNat < 127
  | "punct" => some fun c => 32 < c.toNat && c.toNat < 127 && !c.isAlphanum
  | "space" => some isSpace
  | "upper" => some Char.isUpper
  | "word" => some isWordChar
  | "xdigit" => some fun c => (hexDigit? c).isSome
  | _ => none

/-- A named class after its bracket, with what follows it. -/
def namedClassAt? (cs : List Char) : Option ((Char → Bool) × List Char) :=
  match cs with
  | ':' :: r =>
      let (negated, r) :=
        match r with
        | '^' :: r => (true, r)
        | r => (false, r)
      let name := r.takeWhile Char.isLower
      match r.dropWhile Char.isLower, namedClass? name with
      | ':' :: ']' :: after, some accepts => some (fun c => accepts c != negated, after)
      | _, _ => none
  | _ => none

/-- An item of a class: a character that may start a range, or a class of its own. -/
def readClassItem (s : Scope) (f : Flags) (cs : List Char) :
    Except Fault ((Char ⊕ (Char → Bool)) × List Char) :=
  match cs with
  | [] => s.fault .classUnclosed [] []
  | '\\' :: r =>
      match readEscape s f cs r with
      | .error fault => .error fault
      | .ok (.literal c, rest) => .ok (.inl c, rest)
      | .ok (.class accepts, rest) => .ok (.inr accepts, rest)
      | .ok (.anchor _, rest) => s.fault .classEscape cs rest
  | c :: r => .ok (.inl c, r)

def itemAccepts : Char ⊕ (Char → Bool) → Char → Bool
  | .inl c => (c == ·)
  | .inr accepts => accepts

/-- How a set of characters is joined to the one before it. -/
inductive SetOperator where
  | both
  | difference
  | symmetric

def setOperator? (cs : List Char) : Option (SetOperator × List Char) :=
  match cs with
  | '&' :: '&' :: r => some (.both, r)
  | '-' :: '-' :: r => some (.difference, r)
  | '~' :: '~' :: r => some (.symmetric, r)
  | _ => none

def SetOperator.join : SetOperator → (Char → Bool) → (Char → Bool) → Char → Bool
  | .both, p, q => fun c => p c && q c
  | .difference, p, q => fun c => p c && !q c
  | .symmetric, p, q => fun c => p c != q c

/-- What a class holds so far: the sets before the last operator, and the items since then. -/
structure ClassSoFar where
  joined : (Char → Bool) → Char → Bool
  items : Char → Bool

def ClassSoFar.add (k : ClassSoFar) (accepts : Char → Bool) : ClassSoFar :=
  { k with items := fun c => k.items c || accepts c }

/-- The hyphens at the front of a class mean themselves, and so does a bracket that comes first. -/
def classFront : Bool → List Char → (Char → Bool) × List Char
  | _, '-' :: r =>
      let (more, rest) := classFront false r
      (fun c => c == '-' || more c, rest)
  | true, ']' :: r => ((· == ']'), r)
  | _, r => (fun _ => false, r)

/-- The characters of a class after its bracket. Each round takes a character, so `fuel` beyond the
length of the pattern is never used up. -/
def readClassItems (s : Scope) (f : Flags) : Nat → List Char → List Char → ClassSoFar →
    Except Fault ((Char → Bool) × List Char)
  | 0, start, cs, _ => s.fault .classUnclosed start cs
  | _, start, [], _ => s.fault .classUnclosed start (start.drop 1)
  | fuel + 1, start, c :: r, k =>
      if c = ']' then .ok (k.joined k.items, r)
      else
        match setOperator? (c :: r) with
        | some (operator, r) =>
            let before := k.joined k.items
            readClassItems s f fuel start r ⟨operator.join before, fun _ => false⟩
        | none =>
            if c = '[' then
              match namedClassAt? r with
              | some (accepts, r) => readClassItems s f fuel start r (k.add accepts)
              | none => do
                  let (negated, front) :=
                    match r with
                    | '^' :: r => (true, r)
                    | r => (false, r)
                  let (first, inner) := classFront true front
                  let (accepts, r) ← readClassItems s f fuel (c :: r) inner ⟨id, first⟩
                  readClassItems s f fuel start r (k.add fun d => accepts d != negated)
            else do
              let (item, r) ← readClassItem s f (c :: r)
              match item, r with
              | _, [] => s.fault .classUnclosed start (start.drop 1)
              | .inl low, '-' :: ']' :: r =>
                  readClassItems s f fuel start ('-' :: ']' :: r) (k.add (low == ·))
              | .inl low, '-' :: '-' :: r =>
                  readClassItems s f fuel start ('-' :: '-' :: r) (k.add (low == ·))
              | .inl low, '-' :: after => do
                  let (high, rest) ← readClassItem s f after
                  match high with
                  | .inr _ => s.fault .classRangeBound after rest
                  | .inl high =>
                      if high < low then s.fault .classRange (c :: r) rest
                      else
                        readClassItems s f fuel start rest (k.add fun d => low ≤ d && d ≤ high)
              | item, r => readClassItems s f fuel start r (k.add (itemAccepts item))

/-- A class after its bracket; `start` is what was left in front of that. -/
def readClass (s : Scope) (f : Flags) (start cs : List Char) :
    Except Fault ((Char → Bool) × List Char) := do
  let (negated, cs) :=
    match cs with
    | '^' :: r => (true, r)
    | r => (false, r)
  let (first, inner) := classFront true cs
  let (accepts, rest) ← readClassItems s f (inner.length + 1) start inner ⟨id, first⟩
  return (fun c => accepts c != negated, rest)

/-! ## Repetitions -/

/-- A count of decimal digits. -/
def readCount (s : Scope) (cs : List Char) : Except Fault (Nat × List Char) :=
  let digits := cs.takeWhile Char.isDigit
  if digits.isEmpty then s.fault .countEmpty cs cs
  else .ok (digits.foldl (fun n c => n * 10 + (c.toNat - 48)) 0, cs.dropWhile Char.isDigit)

/-- The bounds between braces; `start` is what was left in front of them. -/
def readBounds (s : Scope) (start cs : List Char) :
    Except Fault ((Nat × Option Nat) × List Char) := do
  if cs.isEmpty then s.fault .countUnclosed start cs
  let (least, r) ← readCount s cs
  match r with
  | '\x7d' :: r => return ((least, some least), r)
  | ',' :: '\x7d' :: r => return ((least, none), r)
  | ',' :: r =>
      if r.isEmpty then s.fault .countUnclosed start r
      let (most, r) ← readCount s r
      match r with
      | '\x7d' :: rest =>
          if most < least then s.fault .countRange start rest
          return ((least, some most), rest)
      | r => s.fault .countUnclosed start r
  | r => s.fault .countUnclosed start r

/-- The bounds of a repetition at the front; nothing if there is none. -/
def readRepetition (s : Scope) (cs : List Char) :
    Except Fault (Option ((Nat × Option Nat) × List Char)) :=
  match cs with
  | '*' :: r => .ok (some ((0, none), r))
  | '+' :: r => .ok (some ((1, none), r))
  | '?' :: r => .ok (some ((0, some 1), r))
  | '\x7b' :: r => (readBounds s cs r).map some
  | _ => .ok none

/-! ## Flags and groups -/

def Flags.set (f : Flags) (flag : Char) (on : Bool) : Option Flags :=
  match flag with
  | 'i' => some { f with ignoreCase := on }
  | 's' => some { f with dotAll := on }
  | 'm' => some { f with multiLine := on }
  | 'U' => some { f with swapGreed := on }
  | 'x' => some { f with verbose := on }
  | 'u' => some { f with allScripts := on }
  | 'R' => some f
  | _ => none

/-- The flags after a question mark, up to a colon or a bracket. -/
def readFlags (s : Scope) : Bool → List Char → Flags → List Char →
    Except Fault (Flags × List Char)
  | _, _, _, [] => s.fault .flagEnd [] []
  | on, seen, f, c :: r =>
      if c = ':' ∨ c = ')' then
        if !on ∧ seen.head? = some '-' then s.fault .flagNegationDangling (c :: r) r
        else .ok (f, c :: r)
      else if c = '-' then
        if on then readFlags s false (c :: seen) f r else s.fault .flagNegationRepeated (c :: r) r
      else
        match f.set c on with
        | none => s.fault .flagUnknown (c :: r) r
        | some f =>
            if seen.contains c then s.fault .flagDuplicate (c :: r) r
            else readFlags s on (c :: seen) f r

/-- The name of a group, up to its bracket. -/
def readGroupName (s : Scope) (cs : List Char) : Except Fault (List Char) :=
  let fits (first : Bool) (c : Char) :=
    c == '_' || isAlphabetic c || (!first && (c.isDigit || c == '.' || c == '[' || c == ']'))
  let rec go : Bool → List Char → Except Fault (List Char)
    | _, [] => s.fault .groupNameEnd [] []
    | first, c :: r =>
        if c = '>' then if first then s.fault .groupNameEmpty (c :: r) (c :: r) else .ok r
        else if fits first c then go false r
        else s.fault .groupNameInvalid (c :: r) r
  go true cs

/-- How a group starts. -/
inductive GroupStart where
  | group (flags : Flags) (rest : List Char)
  /-- Only flags are set, for what follows. -/
  | setting (flags : Flags) (rest : List Char)

/-- What follows an opening bracket; `start` is what was left in front of it. -/
def readGroupStart (s : Scope) (f : Flags) (start cs : List Char) : Except Fault GroupStart :=
  match cs with
  | '?' :: '=' :: r => s.fault .lookAround start r
  | '?' :: '!' :: r => s.fault .lookAround start r
  | '?' :: '<' :: '=' :: r => s.fault .lookAround start r
  | '?' :: '<' :: '!' :: r => s.fault .lookAround start r
  | '?' :: 'P' :: '<' :: r => (readGroupName s r).map (.group f)
  | '?' :: '<' :: r => (readGroupName s r).map (.group f)
  | ['?'] => s.fault .groupUnclosed start cs
  | '?' :: r => do
      let (flags, rest) ← readFlags s true [] f r
      match rest with
      | ':' :: rest => return .group flags rest
      | rest =>
          if r.length = rest.length then s.fault .repetitionMissing cs cs
          else return .setting flags (rest.drop 1)
  | r => .ok (.group f r)

/-! ## Expressions -/

/-- An expression under way: the alternatives before it, the sequence before its last part, and the
last part if it may be repeated. -/
structure SoFar where
  alternatives : Option Regex
  sequence : Regex
  last : Option Regex

namespace SoFar

def initial : SoFar := ⟨none, .empty, none⟩

/-- The sequence with its last part. -/
def settled (e : SoFar) : Regex :=
  match e.last with
  | none => e.sequence
  | some r => .sequence e.sequence r

def push (e : SoFar) (r : Regex) : SoFar := { e with sequence := e.settled, last := some r }

/-- Ends a part that may not be repeated. -/
def fence (e : SoFar) : SoFar := { e with sequence := e.settled, last := none }

def all (e : SoFar) : Regex :=
  match e.alternatives with
  | none => e.settled
  | some before => .either before e.settled

def branch (e : SoFar) : SoFar := ⟨some e.all, .empty, none⟩

end SoFar

def Flags.lineAnchor (f : Flags) (start : Bool) : Regex :=
  .anchor (if start then (if f.multiLine then .lineStart else .textStart)
    else if f.multiLine then .lineEnd else .textEnd)

/-- An expression up to the end or, inside a group, to its bracket. Each round takes a character, so
`fuel` beyond the length of the pattern is never used up. -/
def readExpression (s : Scope) : Nat → Option (List Char) → Flags → SoFar → List Char →
    Except Fault (Regex × List Char)
  | 0, _, _, e, cs => .ok (e.all, cs)
  | fuel + 1, opened, f, e, cs =>
      match cs with
      | [] =>
          match opened with
          | none => .ok (e.all, [])
          | some start => s.fault .groupUnclosed start (start.drop 1)
      | c :: r =>
          if f.verbose && isBlank c then readExpression s fuel opened f e r
          else if f.verbose && c == '#' then
            readExpression s fuel opened f e (r.dropWhile (· != '\n'))
          else if c = ')' then
            if opened.isNone then s.fault .groupUnopened cs r else .ok (e.all, r)
          else if c = '|' then readExpression s fuel opened f e.branch r
          else if c = '(' then do
            match ← readGroupStart s f cs r with
            | .setting flags r => readExpression s fuel opened flags e.fence r
            | .group flags r => do
                let (inner, r) ← readExpression s fuel (some cs) flags .initial r
                readExpression s fuel opened f (e.push inner) r
          else if c = '[' then do
            let (accepts, r) ← readClass s f cs r
            readExpression s fuel opened f (e.push (← s.class f cs r accepts)) r
          else if c = '\\' then do
            let (escape, r) ← readEscape s f cs r
            let part ←
              match escape with
              | .literal d => s.literal f cs r d
              | .class accepts => .ok (.one accepts)
              | .anchor kind => .ok (.anchor kind)
            readExpression s fuel opened f (e.push part) r
          else if c = '.' then
            let part := Regex.one fun d => f.dotAll || d != '\n'
            readExpression s fuel opened f (e.push part) r
          else if c = '^' then readExpression s fuel opened f (e.push (f.lineAnchor true)) r
          else if c = '$' then readExpression s fuel opened f (e.push (f.lineAnchor false)) r
          else if c = '*' ∨ c = '+' ∨ c = '?' ∨ c = '\x7b' then
            match e.last with
            | none => s.fault .repetitionMissing cs cs
            | some body => do
                match ← readRepetition s cs with
                | none => s.fault .repetitionMissing cs cs
                | some ((least, most), r) =>
                    let (greedy, r) :=
                      match r with
                      | '?' :: r => (false, r)
                      | r => (true, r)
                    let part := Regex.repeated body least most (greedy != f.swapGreed)
                    readExpression s fuel opened f { e with last := some part } r
          else do readExpression s fuel opened f (e.push (← s.literal f cs r c)) r

/-- What a round makes of a pattern. -/
def parseIn (round : Round) (pattern : String) : Except Fault Regex :=
  let cs := pattern.toList
  (readExpression ⟨round, cs.length⟩ (cs.length + 1) none .initial .initial cs).map (·.1)

/-- The expression that a pattern spells. -/
def parse (pattern : String) : Except Fault Regex := do
  let _ ← parseIn .form pattern
  let _ ← parseIn .tables pattern
  parseIn .borders pattern

end PluginBundle.Regex
