import PluginBundle.Tools.Basic

/-!
# Translating characters

A list of characters is written with ranges, escapes, classes and repetitions. Characters of one
list are replaced by those of another one, deleted, or squeezed where they repeat.
-/

namespace PluginBundle.Tools

open PluginBundle.Shell

/-- A piece of a list of characters. -/
inductive SetItem where
  | chars (cs : List Char)
  /-- A class, and whether its case can be changed: to lower or to upper letters. -/
  | members (cs : List Char) (upper : Option Bool)
  | repeated (c : Char) (count : Nat)
  /-- As often as is needed. -/
  | filling (c : Char)

/-- All characters of one byte. -/
def allChars : List Char := (List.range 256).map Char.ofNat

/-- The character of an escape, and what follows it. -/
def escapeAt (cs : List Char) : Char × List Char :=
  let octal (c : Char) := '0' ≤ c && c ≤ '7'
  match cs with
  | [] => ('\\', [])
  | c :: r =>
      if octal c then
        let digits := (c :: r.take 2).takeWhile octal
        let value (ds : List Char) : Nat := ds.foldl (fun n d => n * 8 + (d.toNat - 48)) 0
        -- Three digits that make no byte are two digits and a character.
        let digits := if value digits > 255 then digits.take 2 else digits
        (Char.ofNat (value digits), (c :: r).drop digits.length)
      else
        let meant :=
          match c with
          | 'a' => '\x07'
          | 'b' => '\x08'
          | 'f' => '\x0c'
          | 'n' => '\n'
          | 'r' => '\r'
          | 't' => '\t'
          | 'v' => '\x0b'
          | c => c
        (meant, r)

/-- A list with its escapes replaced; characters that were escaped are marked. -/
def unescaped : Nat → List Char → List (Char × Bool)
  | 0, _ => []
  | _, [] => []
  | fuel + 1, '\\' :: r =>
      let (c, rest) := escapeAt r
      (c, true) :: unescaped fuel rest
  | fuel + 1, c :: r => (c, false) :: unescaped fuel r

/-- A class or a repetition behind an opening bracket, and what follows it. -/
def bracketItem? (cs : List (Char × Bool)) :
    Option (Except (List Char) SetItem × List (Char × Bool)) :=
  match cs with
  | (':', false) :: r =>
      let name := (r.takeWhile (·.1 != ':')).map (·.1)
      match r.drop name.length with
      | (':', false) :: (']', false) :: rest =>
          match characterClass? name with
          | some accepts =>
              let upper :=
                match String.ofList name with
                | "upper" => some true
                | "lower" => some false
                | _ => none
              some (.ok (.members (allChars.filter accepts) upper), rest)
          | none => some (.error (ofText "invalid character class " ++ inMarks name), rest)
      | _ => none
  | ('=', false) :: (c, _) :: ('=', false) :: (']', false) :: rest => some (.ok (.chars [c]), rest)
  | (c, _) :: ('*', false) :: r =>
      let digits := (r.takeWhile (·.1.isDigit)).map (·.1)
      match r.drop digits.length with
      | (']', false) :: rest =>
          let base := if digits.head? == some '0' then 8 else 10
          let n := digits.foldl (fun n d => n * base + (d.toNat - 48)) 0
          some (.ok (if n = 0 then .filling c else .repeated c n), rest)
      | _ => none
  | _ => none

/-- The pieces of a list. Each round takes a character, so `fuel` beyond its length is never used
up. -/
def setItems : Nat → List (Char × Bool) → Except (List Char) (List SetItem)
  | 0, _ => .ok []
  | _, [] => .ok []
  | fuel + 1, (c, quoted) :: r => do
      match if c = '[' && !quoted then bracketItem? r else none with
      | some (item, rest) => return (← item) :: (← setItems fuel rest)
      | none =>
          match r with
          | ('-', false) :: (high, _) :: rest =>
              if high < c then
                throw (ofText "range-endpoints of '" ++ c :: '-' :: high
                  :: ofText "' are in reverse collating sequence order")
              let n := high.toNat - c.toNat + 1
              let range := (List.range n).map fun k => Char.ofNat (c.toNat + k)
              return .chars range :: (← setItems fuel rest)
          | r => return .chars [c] :: (← setItems fuel r)

def parseSet (cs : List Char) : Except (List Char) (List SetItem) :=
  let marked := unescaped (cs.length + 1) cs
  setItems (marked.length + 1) marked

/-- The characters of pieces. What fills fills up to a length. -/
def setChars (length : Nat) (items : List SetItem) : List Char :=
  let size (i : SetItem) : Nat :=
    match i with
    | .chars cs => cs.length
    | .members cs _ => cs.length
    | .repeated _ n => n
    | .filling _ => 0
  let fixed := items.foldl (fun n i => n + size i) 0
  items.flatMap fun i =>
    match i with
    | .chars cs => cs
    | .members cs _ => cs
    | .repeated c n => List.replicate n c
    | .filling c => List.replicate (length - fixed) c

/-- Stretches of characters of a list become one. -/
def squeezed (among : Char → Bool) (cs : List Char) : List Char :=
  (cs.foldl (fun (done : List Char) c =>
    if among c && done.head? == some c then done else c :: done) []).reverse

def translateOptions : Options :=
  { plain := "cCdst", withArgument := "", mixed := false, trouble := 1
    names := [("complement", 'c'), ("delete", 'd'), ("squeeze-repeats", 's'),
      ("truncate-set1", 't')] }

/-- The pieces of a list, or an end with a message. -/
def readSet (cs : List Char) : Act (List SetItem) := do
  match parseSet cs with
  | .ok items => return items
  | .error text => stop 1 text

/-- The table that replaces characters of one list by those of another one. -/
def replacing (truncated : Bool) (old new : List Char) : Char → Char :=
  let new :=
    if truncated then new
    else
      match new.getLast? with
      | some c => new ++ List.replicate (old.length - new.length) c
      | none => new
  let pairs := (old.zip new).reverse
  fun c => (pairs.lookup c).getD c

def translate : Tool := fun _ words => do
  let g ← translateOptions.take words
  let deletes := g.has 'd'
  let squeezes := g.has 's'
  let complement := g.has 'c' || g.has 'C'
  let complemented (cs : List Char) : List Char :=
    if complement then allChars.filter fun c => !cs.contains c else cs
  let wanted := if deletes == squeezes then 2 else 1
  match g.arguments with
  | [] => misuse 1 (ofText "missing operand")
  | [first] =>
      if wanted = 2 then
        complain (ofText "missing operand after " ++ inMarks first)
        let why := if deletes then
            "Two strings must be given when both deleting and squeezing repeats.\n"
          else "Two strings must be given when translating.\n"
        Act.printError (ofText why)
        hint 1
      else
        let set := complemented (setChars 0 (← readSet first))
        let among := set.contains
        let text ← takeInput
        Act.print (if deletes then text.filter fun c => !among c else squeezed among text)
  | [first, second] =>
      if deletes && !squeezes then
        complain (ofText "extra operand " ++ inMarks second)
        Act.printError (ofText
          "Only one string may be given when deleting without squeezing repeats.\n")
        hint 1
      else
        let firstItems ← readSet first
        let old := complemented (setChars 0 firstItems)
        let secondItems ← readSet second
        let new := setChars old.length secondItems
        let text ← takeInput
        if deletes then
          Act.print (squeezed new.contains (text.filter fun c => !old.contains c))
        else if new.isEmpty then
          if squeezes then Act.print (squeezed old.contains text)
          else stop 1 (ofText "when not truncating set1, string2 must be non-empty")
        else
          let table := replacing (g.has 't') old new
          let done := text.map table
          Act.print (if squeezes then squeezed new.contains done else done)
  | _ :: _ :: extra :: _ => misuse 1 (ofText "extra operand " ++ inMarks extra)

end PluginBundle.Tools
