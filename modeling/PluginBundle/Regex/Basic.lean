/-!
# Regular expressions

An expression describes the texts that may follow a place. Matching goes from a place to all places
where a match may end, the preferred ones first, and keeps at most one way to each of them. What a
notation means by its signs is said by the modules that read it.
-/

namespace PluginBundle

/-- What must hold at a place. -/
inductive Regex.Anchor where
  | textStart
  | textEnd
  | lineStart
  | lineEnd
  | wordBorder
  | noWordBorder
  | wordStart
  | wordEnd
  deriving DecidableEq, Repr

/-- A regular expression. -/
inductive Regex where
  | empty
  | one (accepts : Char → Bool)
  | sequence (first second : Regex)
  | either (first second : Regex)
  /-- From `least` to `most` matches, as many as possible or as few. -/
  | repeated (body : Regex) (least : Nat) (most : Option Nat) (greedy : Bool)
  | group (number : Nat) (body : Regex)
  /-- The text that a group matched. -/
  | sameAs (number : Nat)
  | anchor (kind : Regex.Anchor)

namespace Regex

/-- A place in a text: how many characters stand before it, those characters, last one first, those
behind it, and what the groups matched so far. -/
structure Cursor where
  place : Nat
  before : List Char
  rest : List Char
  groups : List (Nat × List Char)

/-- The start of a text. -/
def Cursor.start (cs : List Char) : Cursor := ⟨0, [], cs, []⟩

/-- The text between a place and a later one. -/
def Cursor.textTo (c d : Cursor) : List Char := c.rest.take (d.place - c.place)

def Cursor.advance (c : Cursor) (n : Nat) : Cursor :=
  { c with
    place := c.place + n, before := (c.rest.take n).reverse ++ c.before, rest := c.rest.drop n }

/-- The characters that make words. -/
def isWordChar (c : Char) : Bool := c.isAlphanum || c == '_'

/-- An anchor holds at a place. -/
def Anchor.holds (a : Anchor) (c : Cursor) : Bool :=
  let left := c.before.head?.any isWordChar
  let right := c.rest.head?.any isWordChar
  match a with
  | .textStart => c.before.isEmpty
  | .textEnd => c.rest.isEmpty
  | .lineStart => c.before.isEmpty || c.before.head? == some '\n'
  | .lineEnd => c.rest.isEmpty || c.rest.head? == some '\n'
  | .wordBorder => left != right
  | .noWordBorder => left == right
  | .wordStart => !left && right
  | .wordEnd => left && !right

/-- Keeps the first way to each place. -/
def firstWays : List Cursor → List Cursor
  | [] => []
  | c :: rest => c :: (firstWays rest).filter (·.place != c.place)

/-- The ends of repeated matches. A match that takes no text is not repeated, except to come up to
the least number. Each further match takes a character, so `fuel` beyond the length of the text and
the least number is never used up. -/
def repeatEnds (ends : Cursor → List Cursor) (greedy : Bool) :
    Nat → Nat → Option Nat → Cursor → List Cursor
  | 0, _, _, c => [c]
  | fuel + 1, least, most, c =>
      if most = some 0 then [c]
      else
        let next := (ends c).filter fun d => least > 0 || c.place < d.place
        let further := repeatEnds ends greedy fuel (least - 1) (most.map (· - 1))
        let more :=
          match next with
          | [] => []
          | [d] => further d
          | ds => firstWays (ds.flatMap further)
        -- No further match ends here again.
        if least > 0 then more else if greedy then more ++ [c] else c :: more

/-- The places where a match of the expression from a place may end, preferred ones first. -/
def ends : Regex → Cursor → List Cursor
  | .empty, c => [c]
  | .one accepts, c =>
      match c.rest with
      | [] => []
      | d :: _ => if accepts d then [c.advance 1] else []
  | .sequence first second, c => firstWays ((first.ends c).flatMap second.ends)
  | .either first second, c => firstWays (first.ends c ++ second.ends c)
  | .repeated body least most greedy, c =>
      repeatEnds body.ends greedy (c.rest.length + least + 1) least most c
  | .group number body, c =>
      (body.ends c).map fun d => { d with groups := (number, c.textTo d) :: d.groups }
  | .sameAs number, c =>
      match c.groups.lookup number with
      | some text => if text.isPrefixOf c.rest then [c.advance text.length] else []
      | none => []
  | .anchor kind, c => if kind.holds c then [c] else []

/-- The end of the longest match from a place. -/
def longestEnd? (r : Regex) (c : Cursor) : Option Cursor :=
  (r.ends c).foldl (fun best d =>
    match best with
    | none => some d
    | some b => if b.place < d.place then some d else some b) none

/-- A match: the place where it starts, and the one where it ends. -/
structure Match where
  start : Cursor
  stop : Cursor

def Match.text (m : Match) : List Char := m.start.textTo m.stop

/-- What a group matched; the whole match is group zero. -/
def Match.group (m : Match) (number : Nat) : List Char :=
  if number = 0 then m.text else (m.stop.groups.lookup number).getD []

/-- The longest of the leftmost matches from a place on. -/
def search? (r : Regex) : Nat → Cursor → Option Match
  | 0, _ => none
  | fuel + 1, c =>
      match r.longestEnd? c with
      | some d => some ⟨c, d⟩
      | none => if c.rest.isEmpty then none else search? r fuel (c.advance 1)

/-- The longest of the leftmost matches in what follows a place. -/
def find? (r : Regex) (c : Cursor) : Option Match := r.search? (c.rest.length + 1) c

/-- Some part of a text matches. -/
def occursIn (r : Regex) (cs : List Char) : Bool := (r.find? (.start cs)).isSome

end Regex

end PluginBundle
