import PluginBundle.Shell.Reader.Words

/-!
# Words that stand for several ones

Braces with texts between commas stand for each of the texts in turn, and braces with two dots for
the numbers or letters between two ends.
-/

namespace PluginBundle.Shell

/-- A piece of a word as braces see it: a character outside of quotes, or anything else. -/
inductive BraceItem where
  | sign (c : Char)
  | opaquePart (p : WordPart)

def braceItems : Word → List BraceItem
  | [] => []
  | .literal text false :: rest => text.map .sign ++ braceItems rest
  | part :: rest => .opaquePart part :: braceItems rest

/-- The word of pieces. -/
def wordOf (items : List BraceItem) : Word :=
  (items.foldl (fun (g : Reader.Gathered) item =>
    match item with
    | .sign c => g.push c false
    | .opaquePart p => g.add p) .none).word

/-- The pieces between braces, split at the commas of the outer level, and what follows the closing
brace; nothing if there is none. The pieces are kept last one first. -/
def splitBraces : Nat → List BraceItem → List (List BraceItem) → List BraceItem →
    Option (List (List BraceItem) × List BraceItem)
  | _, _, _, [] => none
  | depth, piece, pieces, item :: rest =>
      match item with
      | .sign '\x7b' => splitBraces (depth + 1) (item :: piece) pieces rest
      | .sign '\x7d' =>
          match depth with
          | 0 => some ((piece.reverse :: pieces).reverse, rest)
          | depth + 1 => splitBraces depth (item :: piece) pieces rest
      | .sign ',' =>
          if depth = 0 then splitBraces 0 [] (piece.reverse :: pieces) rest
          else splitBraces depth (item :: piece) pieces rest
      | item => splitBraces depth (item :: piece) pieces rest

/-- The text of pieces that are all characters. -/
def signsOf? : List BraceItem → Option (List Char)
  | [] => some []
  | .sign c :: rest => (signsOf? rest).map (c :: ·)
  | .opaquePart _ :: _ => none

/-- The texts around the first two dots. -/
def splitDots : List Char → Option (List Char × List Char)
  | '.' :: '.' :: r => some ([], r)
  | c :: r => (splitDots r).map fun p => (c :: p.1, p.2)
  | [] => none

def integer? (cs : List Char) : Option Int :=
  let (negative, digits) :=
    match cs with
    | '-' :: r => (true, r)
    | r => (false, r)
  if digits.isEmpty || !digits.all Char.isDigit then none
  else
    let n : Int := Reader.numberIn 10 digits
    some (if negative then -n else n)

/-- The numbers from one end to another by steps. -/
def stepsBetween (low high step : Int) : List Int :=
  let by_ : Nat := max 1 step.natAbs
  let count := (high - low).natAbs / by_ + 1
  (List.range count).map fun (i : Nat) =>
    if low ≤ high then low + (i * by_ : Nat) else low - (i * by_ : Nat)

/-- A number with its digits filled up by zeros. -/
def padded (width : Nat) (n : Int) : List Char :=
  let digits := Nat.toDigits 10 n.natAbs
  let sign := if n < 0 then ['-'] else []
  sign ++ List.replicate (width - digits.length - sign.length) '0' ++ digits

/-- An end of a range is written with zeros in front. -/
def hasZeros (cs : List Char) : Bool :=
  match cs with
  | '0' :: _ :: _ => true
  | '-' :: '0' :: _ :: _ => true
  | _ => false

/-- The texts that the text between braces stands for if it is a range. -/
def range? (cs : List Char) : Option (List (List Char)) := do
  let (low, rest) ← splitDots cs
  let (high, step) :=
    match splitDots rest with
    | some (high, step) => (high, step)
    | none => (rest, ['1'])
  let step ← integer? step
  match integer? low, integer? high, low, high with
  | some a, some b, _, _ =>
      let width := if hasZeros low || hasZeros high then max low.length high.length else 0
      return (stepsBetween a b step).map (padded width)
  | _, _, [a], [b] =>
      if a.isAlpha && b.isAlpha then
        return (stepsBetween a.toNat b.toNat step).map fun n => [Char.ofNat n.toNat]
      else none
  | _, _, _, _ => none

/-- The alternatives between braces. -/
def alternatives? (pieces : List (List BraceItem)) : Option (List (List BraceItem)) :=
  match pieces with
  | [only] =>
      ((signsOf? only).bind range?).map fun texts => texts.map fun text => text.map .sign
  | pieces => some pieces

/-- The words that pieces stand for. Each round takes a piece or a pair of braces, so `fuel` beyond
the number of pieces is never used up. -/
def expandBraces : Nat → List BraceItem → List (List BraceItem)
  | 0, items => [items]
  | _, [] => [[]]
  | fuel + 1, item :: rest =>
      match item with
      | .sign '\x7b' =>
          match splitBraces 0 [] [] rest with
          | none => (expandBraces fuel rest).map (item :: ·)
          | some (pieces, after) =>
              match alternatives? pieces with
              | none => (expandBraces fuel rest).map (item :: ·)
              | some alternatives =>
                  let heads := alternatives.flatMap (expandBraces fuel)
                  let tails := expandBraces fuel after
                  heads.flatMap fun head => tails.map (head ++ ·)
      | item => (expandBraces fuel rest).map (item :: ·)

/-- The words that a word stands for. -/
def braceWords (w : Word) : List Word :=
  let items := braceItems w
  let signs := items.any fun item =>
    match item with
    | .sign '\x7b' => true
    | _ => false
  if signs then (expandBraces (items.length + 1) items).map wordOf else [w]

end PluginBundle.Shell
