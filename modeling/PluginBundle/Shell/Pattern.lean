import PluginBundle.Text.CharacterClass

/-!
# Patterns

A star stands for any text, a question mark for any character, and brackets for one of the
characters in them. Quoted characters stand for themselves.

Matching keeps, for each place of the text, whether what is before it matches what was read of the
pattern.
-/

namespace PluginBundle.Shell

/-- Text in which each character may be quoted. -/
abbrev MarkedText := List (Char × Bool)

def marked (quoted : Bool) (cs : List Char) : MarkedText := cs.map fun c => (c, quoted)

/-- A piece of a pattern. -/
inductive PatternItem where
  | anyText
  | one (accepts : Char → Bool)

/-- A named class between brackets, and what follows it. -/
def classAt? (cs : MarkedText) : Option ((Char → Bool) × MarkedText) :=
  match cs with
  | (':', false) :: r =>
      let name := (r.takeWhile fun p => p.1.isLower).map (·.1)
      match r.drop name.length, characterClass? name with
      | (':', _) :: (']', _) :: after, some accepts => some (accepts, after)
      | _, _ => none
  | _ => none

/-- The characters between brackets, and what follows the closing one; nothing if there is none.
Each round takes a character, so `fuel` as long as the text is never used up. -/
def bracketItems : Nat → Bool → MarkedText → Option ((Char → Bool) × MarkedText)
  | 0, _, _ => none
  | _, _, [] => none
  | fuel + 1, first, (c, quoted) :: r =>
      if c = ']' && !quoted && !first then some (fun _ => false, r)
      else
        let joined (accepts : Char → Bool) (rest : MarkedText) :
            Option ((Char → Bool) × MarkedText) :=
          (bracketItems fuel false rest).map fun p => (fun d => accepts d || p.1 d, p.2)
        match if c = '[' && !quoted then classAt? r else none with
        | some (accepts, after) => joined accepts after
        | none =>
            match r with
            | ('-', false) :: (high, highQuoted) :: after =>
                if high = ']' && !highQuoted then joined (· == c) r
                else joined (fun d => c ≤ d && d ≤ high) after
            | r => joined (· == c) r

/-- What brackets accept; a mark of negation turns the list around. -/
def bracket? (cs : MarkedText) : Option (PatternItem × MarkedText) :=
  match cs with
  | ('!', false) :: r => (bracketItems (r.length + 1) true r).map fun p => (.one (!p.1 ·), p.2)
  | ('^', false) :: r => (bracketItems (r.length + 1) true r).map fun p => (.one (!p.1 ·), p.2)
  | r => (bracketItems (r.length + 1) true r).map fun p => (.one p.1, p.2)

/-- A piece that takes the small and the capital form of a letter for the same. -/
def PatternItem.caseless : PatternItem → PatternItem
  | .anyText => .anyText
  | .one accepts => .one fun c => accepts c.toLower || accepts c.toUpper

/-- The pieces of a pattern. Each round takes a character, so `fuel` as long as the pattern is never
used up. -/
def patternItems : Nat → MarkedText → List PatternItem
  | 0, _ => []
  | _, [] => []
  | fuel + 1, ('*', false) :: r => .anyText :: patternItems fuel r
  | fuel + 1, ('?', false) :: r => .one (fun _ => true) :: patternItems fuel r
  | fuel + 1, ('\\', false) :: (c, _) :: r => .one (· == c) :: patternItems fuel r
  | fuel + 1, ('[', false) :: r =>
      match bracket? r with
      | some (item, after) => item :: patternItems fuel after
      | none => .one (· == '[') :: patternItems fuel r
  | fuel + 1, (c, _) :: r => .one (· == c) :: patternItems fuel r

def pattern (cs : MarkedText) : List PatternItem := patternItems cs.length cs

/-- Every place behind one that is reached is reached. -/
def reachOn : Bool → List Bool → List Bool
  | _, [] => []
  | before, r :: rest => (before || r) :: reachOn (before || r) rest

/-- For each place, whether the text before it matches a pattern, given that for the part of the
pattern before it. -/
def reach (cs : List Char) : List PatternItem → List Bool → List Bool
  | [], reached => reached
  | .anyText :: items, reached => reach cs items (reachOn false reached)
  | .one accepts :: items, reached =>
      reach cs items (false :: List.zipWith (fun r c => r && accepts c) reached cs)

/-- For each length, whether the front of a text of that length matches. -/
def frontMatches (items : List PatternItem) (cs : List Char) : List Bool :=
  reach cs items (true :: cs.map fun _ => false)

/-- A text matches a pattern. -/
def matchesPattern (items : List PatternItem) (cs : List Char) : Bool :=
  (frontMatches items cs).getLast?.getD false

/-- The length of the shortest or longest match at the front. -/
def frontLength? (longest : Bool) (items : List PatternItem) (cs : List Char) : Option Nat :=
  let found := frontMatches items cs
  if longest then (found.reverse.idxOf? true).map (cs.length - ·) else found.idxOf? true

/-- Cuts a match of a pattern off the front or the back. -/
def cutMatch (front longest : Bool) (items : List PatternItem) (cs : List Char) : List Char :=
  if front then
    match frontLength? longest items cs with
    | some n => cs.drop n
    | none => cs
  else
    match frontLength? longest items.reverse cs.reverse with
    | some n => cs.take (cs.length - n)
    | none => cs

/-- A pattern has signs that are not quoted. -/
def hasSigns (cs : MarkedText) : Bool :=
  cs.any fun p => !p.2 && (p.1 == '*' || p.1 == '?' || p.1 == '[')

end PluginBundle.Shell
