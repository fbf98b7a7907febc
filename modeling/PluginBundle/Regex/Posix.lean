import PluginBundle.Regex.Basic
import PluginBundle.Text.CharacterClass

/-!
# The two standard notations of regular expressions

In the basic notation brackets, braces, bars and most signs of repetition are written with a
backslash in front; in the extended one they are written without it. A sign at a place where it
could mean nothing stands for itself.

An expression is read in two steps: into signs, and from signs into an expression.

Only scripts that stand in for bundlers use these notations; the tool itself reads the one of
`Regex.Reader`, for the pattern in a log filter.
-/

namespace PluginBundle.Regex

/-- Why an expression in one of the notations is refused. -/
inductive PosixFault where
  | openBracket
  | openGroup
  | closedGroup
  | openInterval
  | badInterval
  | nothingRepeated
  | trailingBackslash
  | rangeEnd
  | unknownClass
  | backReference
  deriving DecidableEq, Repr

def PosixFault.message : PosixFault → String
  | .openBracket => "Unmatched [, [^, [:, [., or [="
  | .openGroup => "Unmatched ( or \\("
  | .closedGroup => "Unmatched ) or \\)"
  | .openInterval => "Unmatched \\\x7b"
  | .badInterval => "Invalid content of \\\x7b\\\x7d"
  | .nothingRepeated => "Invalid preceding regular expression"
  | .trailingBackslash => "Trailing backslash"
  | .rangeEnd => "Invalid range end"
  | .unknownClass => "Invalid character class name"
  | .backReference => "Invalid back reference"

/-- A sign of an expression. -/
inductive PosixSign where
  | part (r : Regex)
  | repetition (least : Nat) (most : Option Nat)
  | bar
  | opening (number : Nat)
  | closing

/-- A notation, and whether the case of letters is ignored. -/
structure PosixNotation where
  extended : Bool
  ignoreCase : Bool
  deriving DecidableEq, Repr

namespace PosixNotation

/-- One character of a class. -/
def one (n : PosixNotation) (accepts : Char → Bool) : PosixSign :=
  .part (.one fun c =>
    accepts c || (n.ignoreCase && (accepts c.toLower || accepts c.toUpper)))

/-! ## Brackets -/

/-- What stands between brackets, and what follows the closing one. Each round takes a character,
so `fuel` beyond the length of the text is never used up. -/
def bracketItems : Nat → Bool → List Char → Except PosixFault ((Char → Bool) × List Char)
  | 0, _, _ => .error .openBracket
  | _, _, [] => .error .openBracket
  | fuel + 1, first, c :: r => do
      let joined (accepts : Char → Bool) (rest : List Char) :
          Except PosixFault ((Char → Bool) × List Char) := do
        let (others, rest) ← bracketItems fuel false rest
        return (fun d => accepts d || others d, rest)
      match c, r with
      | '[', ':' :: r =>
          let name := r.takeWhile (· != ':')
          match r.drop name.length, characterClass? name with
          | ':' :: ']' :: after, some accepts => joined accepts after
          | ':' :: ']' :: _, none => throw .unknownClass
          | _, _ => throw .openBracket
      | '[', '.' :: d :: '.' :: ']' :: after => joined (· == d) after
      | '[', '=' :: d :: '=' :: ']' :: after => joined (· == d) after
      | c, '-' :: high :: after =>
          if c = ']' && !first then return (fun _ => false, r)
          else if high = ']' then joined (· == c) r
          else if high < c then throw .rangeEnd
          else joined (fun d => c ≤ d && d ≤ high) after
      | c, r => if c = ']' && !first then return (fun _ => false, r) else joined (· == c) r

/-- The class behind an opening bracket. -/
def bracket (n : PosixNotation) (cs : List Char) : Except PosixFault (PosixSign × List Char) := do
  match cs with
  | '^' :: r =>
      let (accepts, rest) ← bracketItems (r.length + 1) true r
      let folded (c : Char) : Bool :=
        accepts c || (n.ignoreCase && (accepts c.toLower || accepts c.toUpper))
      return (.part (.one fun c => !folded c), rest)
  | r =>
      let (accepts, rest) ← bracketItems (r.length + 1) true r
      return (n.one accepts, rest)

/-! ## Intervals -/

def numberAt? (cs : List Char) : Option Nat × List Char :=
  let digits := cs.takeWhile Char.isDigit
  let value := digits.foldl (fun n c => n * 10 + (c.toNat - 48)) 0
  (if digits.isEmpty then none else some value, cs.drop digits.length)

/-- The numbers behind an opening brace, and what follows the closing one; nothing if they are no
interval. -/
def interval? (extended : Bool) (cs : List Char) : Option (PosixSign × List Char) :=
  let (least, r) := numberAt? cs
  let (most, r) : Option Nat × List Char :=
    match r with
    | ',' :: r => numberAt? r
    | r => (least, r)
  let closed :=
    match extended, r with
    | true, '\x7d' :: r => some r
    | false, '\\' :: '\x7d' :: r => some r
    | _, _ => none
  let isEmpty := cs.head? == some ',' && most.isNone
  let isReversed := most.any fun m => m < least.getD 0
  match closed with
  | some r =>
      if (least.isNone && cs.head? != some ',') || isEmpty || isReversed then none
      else some (.repetition (least.getD 0) most, r)
  | none => none

/-! ## Signs -/

/-- The signs that are written in the same way in both notations. -/
def escaped? (n : PosixNotation) (c : Char) : Option PosixSign :=
  match c with
  | 'w' => some (n.one isWordChar)
  | 'W' => some (n.one fun d => !isWordChar d)
  | 's' => some (n.one isSpaceChar)
  | 'S' => some (n.one fun d => !isSpaceChar d)
  | 'b' => some (.part (.anchor .wordBorder))
  | 'B' => some (.part (.anchor .noWordBorder))
  | '<' => some (.part (.anchor .wordStart))
  | '>' => some (.part (.anchor .wordEnd))
  | '\x60' => some (.part (.anchor .textStart))
  | '\'' => some (.part (.anchor .textEnd))
  | _ => none

/-- A dollar sign in front of this text stands at an end. -/
def endsHere : List Char → Bool
  | [] => true
  | '\\' :: ')' :: _ => true
  | '\\' :: '|' :: _ => true
  | _ => false

/-- A sign of an expression, what is left, and whether what is left stands at a start. -/
def sign (n : PosixNotation) (groups : Nat) (atStart : Bool) (c : Char) (r : List Char) :
    Except PosixFault (PosixSign × List Char × Bool) := do
  let itself : PosixSign × List Char × Bool := (n.one (· == c), r, false)
  let interval (r : List Char) : Except PosixFault (PosixSign × List Char × Bool) :=
    match interval? n.extended r with
    | some (s, rest) => .ok (s, rest, false)
    | none =>
        if n.extended then .ok itself
        else if r.contains '\x7d' then .error .badInterval
        else .error .openInterval
  match c, r with
  | '\\', [] => throw .trailingBackslash
  | '\\', d :: r =>
      match escaped? n d with
      | some s => return (s, r, false)
      | none =>
          if '1' ≤ d && d ≤ '9' then
            let number := d.toNat - 48
            if number > groups then throw .backReference
            return (.part (.sameAs number), r, false)
          else if n.extended then return (n.one (· == d), r, false)
          else
            match d with
            | '(' => return (.opening (groups + 1), r, true)
            | ')' => return (.closing, r, false)
            | '|' => return (.bar, r, true)
            | '\x7b' => if atStart then throw .nothingRepeated else interval r
            | '+' => return if atStart then (n.one (· == d), r, false)
                else (.repetition 1 none, r, false)
            | '?' => return if atStart then (n.one (· == d), r, false)
                else (.repetition 0 (some 1), r, false)
            | d => return (n.one (· == d), r, false)
  | '[', r => do
      let (s, rest) ← bracket n r
      return (s, rest, false)
  | '.', r => return (n.one fun _ => true, r, false)
  | '*', r =>
      return if atStart && !n.extended then itself else (.repetition 0 none, r, atStart)
  | '^', r =>
      if n.extended || atStart then return (.part (.anchor .textStart), r, true) else return itself
  | '$', r =>
      if n.extended || endsHere r then return (.part (.anchor .textEnd), r, false)
      else return itself
  | c, r =>
      if !n.extended then return itself
      else
        match c with
        | '(' => return (.opening (groups + 1), r, true)
        | ')' => return (.closing, r, false)
        | '|' => return (.bar, r, true)
        | '+' => return (.repetition 1 none, r, atStart)
        | '?' => return (.repetition 0 (some 1), r, atStart)
        | '\x7b' => if atStart then return itself else interval r
        | _ => return itself

/-- The signs of an expression. Each round takes a character, so `fuel` beyond its length is never
used up. -/
def signs (n : PosixNotation) : Nat → Nat → Bool → List Char → Except PosixFault (List PosixSign)
  | 0, _, _, _ => .ok []
  | _, _, _, [] => .ok []
  | fuel + 1, groups, atStart, c :: r => do
      let (s, rest, atStart) ← n.sign groups atStart c r
      let groups :=
        match s with
        | .opening number => number
        | _ => groups
      return s :: (← signs n fuel groups atStart rest)

end PosixNotation

/-! ## Expressions -/

/-- An expression with the repetitions that follow it. -/
def withRepetitions : Regex → List PosixSign → Regex × List PosixSign
  | r, .repetition least most :: rest => withRepetitions (.repeated r least most true) rest
  | r, rest => (r, rest)

/-- Expressions one after the other, up to a bar or a closing bracket. -/
def posixSequence (inside : List PosixSign → Except PosixFault (Regex × List PosixSign)) :
    Nat → Regex → List PosixSign → Except PosixFault (Regex × List PosixSign)
  | 0, r, rest => .ok (r, rest)
  | fuel + 1, r, signs => do
      match signs with
      | .part p :: rest =>
          let (p, rest) := withRepetitions p rest
          posixSequence inside fuel (.sequence r p) rest
      | .opening number :: rest =>
          let (body, rest) ← inside rest
          match rest with
          | .closing :: rest =>
              let (p, rest) := withRepetitions (.group number body) rest
              posixSequence inside fuel (.sequence r p) rest
          | _ => throw .openGroup
      -- Nothing can be repeated at a start, so the sign repeats nothing.
      | .repetition _ _ :: rest => posixSequence inside fuel r rest
      | rest => return (r, rest)

/-- Alternatives between bars. -/
def posixAlternatives : Nat → List PosixSign → Except PosixFault (Regex × List PosixSign)
  | 0, signs => .ok (.empty, signs)
  | fuel + 1, signs => do
      let (first, rest) ← posixSequence (posixAlternatives fuel) (signs.length + 1) .empty signs
      match rest with
      | .bar :: rest =>
          let (second, rest) ← posixAlternatives fuel rest
          return (.either first second, rest)
      | rest => return (first, rest)

/-- The expression that a text spells in a notation. -/
def ofPosix (n : PosixNotation) (cs : List Char) : Except PosixFault Regex := do
  let signs ← n.signs (cs.length + 1) 0 true cs
  let (r, rest) ← posixAlternatives (signs.length + 1) signs
  match rest with
  | [] => return r
  | _ => throw .closedGroup

end PluginBundle.Regex
