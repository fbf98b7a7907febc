import PluginBundle.Tools.Basic

/-!
# Parts of lines

Programs that cut fields and columns out of lines, put lines side by side, and break long ones.
-/

namespace PluginBundle.Tools

open PluginBundle.Shell

/-! ## Lists of ranges -/

/-- Numbers from `least` to `most`, counted from one. -/
structure Range where
  least : Nat
  most : Option Nat
  deriving DecidableEq, Repr

namespace Range

def contains (r : Range) (n : Nat) : Bool := r.least ≤ n && r.most.all (n ≤ ·)

/-- Why a list of ranges makes no sense. -/
inductive Fault where
  | zero
  | decreasing
  | noEnds
  | invalid

/-- A range in a list. -/
def parse (cs : List Char) : Except Fault Range :=
  let front := cs.takeWhile (· != '-')
  let rest := cs.drop front.length
  let number (cs : List Char) : Except Fault (Option Nat) :=
    if cs.isEmpty then .ok none
    else
      match natural? cs with
      | some 0 => .error .zero
      | some n => .ok (some n)
      | none => .error .invalid
  match rest with
  | [] => do
      match ← number front with
      | some n => return ⟨n, some n⟩
      | none => throw .zero
  | _ :: back => do
      let least ← number front
      let most ← number back
      if least.isNone && most.isNone then throw .noEnds
      if most.any fun m => m < least.getD 1 then throw .decreasing
      return ⟨least.getD 1, most⟩

/-- The ranges of a list, with commas or blanks between them. -/
def parseList (cs : List Char) : Except Fault (List Range) :=
  ((piecesOf ',' (cs.map fun c => if c = ' ' || c = '\t' then ',' else c)).1).mapM parse

end Range

/-! ## Cutting -/

def cutOptions : Options :=
  { plain := "snz", withArgument := "bcdf", mixed := true, trouble := 1
    names := [("bytes", 'b'), ("characters", 'c'), ("fields", 'f'), ("delimiter", 'd'),
      ("only-delimited", 's'), ("complement", 'C'), ("output-delimiter", 'o'),
      ("zero-terminated", 'z')] }

/-- What is cut out of lines. -/
structure Cut where
  ranges : List Range
  complement : Bool
  separator : Char
  joint : Option (List Char)
  onlySeparated : Bool

namespace Cut

def wants (c : Cut) (n : Nat) : Bool := c.complement != c.ranges.any (·.contains n)

/-- The things at the places that are wanted. -/
def pick {α : Type} (c : Cut) (xs : List α) : List α :=
  ((List.range xs.length).zip xs).filterMap fun p => if c.wants (p.1 + 1) then some p.2 else none

/-- The fields of a line; nothing if it has no separator and is left out therefore. -/
def fields? (c : Cut) (line : List Char) : Option (List Char) :=
  if !line.contains c.separator then if c.onlySeparated then none else some line
  else
    let (pieces, ended) := piecesOf c.separator line
    let pieces := if ended then pieces ++ [[]] else pieces
    some ((c.joint.getD [c.separator]).intercalate (c.pick pieces))

/-- The columns of a line. With a joint, stretches that were apart are joined by it. -/
def columns (c : Cut) (line : List Char) : List Char :=
  match c.joint with
  | none => c.pick line
  | some joint =>
      let starts := c.ranges.map (·.least)
      let marked := ((List.range line.length).zip line).filterMap fun p =>
        if c.wants (p.1 + 1) then some (p.1 + 1, p.2) else none
      (marked.foldl (fun (text, last) (n, d) =>
        let border := !text.isEmpty && (n != last + 1 || starts.contains n)
        (text ++ (if border then joint else []) ++ [d], n)) (([] : List Char), 0)).1

end Cut

def cut : Tool := fun _ words => do
  let options := { cutOptions with withArgument := "bcdfo" }
  let g ← options.take words
  let kinds := g.options.filter fun o => o.1 == 'b' || o.1 == 'c' || o.1 == 'f'
  match kinds with
  | [] => misuse 1 (ofText "you must specify a list of bytes, characters, or fields")
  | _ :: _ :: _ => misuse 1 (ofText "only one list may be specified")
  | [(letter, list)] =>
      let byFields := letter == 'f'
      let separator := (g.value? 'd').getD ['\t']
      if separator.length > 1 then misuse 1 (ofText "the delimiter must be a single character")
      if !byFields && g.has 'd' then
        misuse 1 (ofText "an input delimiter may be specified only when operating on fields")
      if !byFields && g.has 's' then
        misuse 1 (ofText "suppressing non-delimited lines makes sense\n\t"
          ++ ofText "only when operating on fields")
      let ranges ←
        match Range.parseList list with
        | .ok ranges => pure ranges
        | .error f => misuse 1 (faultText byFields list f)
      let c : Cut :=
        { ranges := ranges, complement := g.has 'C', separator := separator.headD '\x00'
          joint := g.value? 'o', onlySeparated := g.has 's' }
      let stop := if g.has 'z' then '\x00' else '\n'
      for name in inputNames g.arguments do
        match ← readFile name with
        | .error e => fail (name ++ [':', ' '] ++ causeText e)
        | .ok text =>
            for line in (piecesOf stop text).1 do
              if byFields then
                match c.fields? line with
                | some shown => Act.print (shown ++ [stop])
                | none => pure ()
              else Act.print (c.columns line ++ [stop])
where
  /-- The message for a list that makes no sense. -/
  faultText (byFields : Bool) (list : List Char) : Range.Fault → List Char
    | .zero => ofText (if byFields then "fields are numbered from 1"
        else "byte/character positions are numbered from 1")
    | .decreasing => ofText "invalid decreasing range"
    | .noEnds => ofText "invalid range with no endpoint: -"
    | .invalid =>
      ofText (if byFields then "invalid field value " else "invalid byte/character position ")
        ++ inMarks list

/-! ## Side by side -/

/-- The separators of a list in which backslashes start escapes. -/
def separatorsOf : List Char → List (List Char)
  | '\\' :: 'n' :: r => ['\n'] :: separatorsOf r
  | '\\' :: 't' :: r => ['\t'] :: separatorsOf r
  | '\\' :: '0' :: r => [] :: separatorsOf r
  | '\\' :: '\\' :: r => ['\\'] :: separatorsOf r
  | c :: r => [c] :: separatorsOf r
  | [] => []

/-- Texts with separators between them, which are taken in turn. -/
def joinInTurn (separators : List (List Char)) : Nat → List (List Char) → List Char
  | _, [] => []
  | _, [text] => text
  | n, text :: rest =>
      let separator := (separators[n % separators.length]?).getD []
      text ++ separator ++ joinInTurn separators (n + 1) rest

def paste : Tool := fun _ words => do
  let g ← Options.take ⟨"sz", "d", [("delimiters", 'd'), ("serial", 's')], true, 1⟩ words
  let list := (g.value? 'd').getD ['\t']
  let separators := if list.isEmpty then [[]] else separatorsOf list
  let files ← (inputNames g.arguments).mapM fun name => do
    match ← readFile name with
    | .error e => stop 1 (name ++ [':', ' '] ++ causeText e)
    | .ok text => return (linesOf text).1
  -- Files that are the input share its lines.
  let inputs := (inputNames g.arguments).filter (· == ['-'])
  let columns :=
    if inputs.length > 1 && inputs.length = files.length && !g.has 's' then
      let lines := files.headD []
      (List.range inputs.length).map fun k =>
        ((List.range lines.length).zip lines).filterMap fun p =>
          if p.1 % inputs.length = k then some p.2 else none
    else files
  if g.has 's' then
    for lines in columns do
      Act.print (joinInTurn separators 0 lines ++ ['\n'])
  else
    let height := columns.foldl (fun n lines => max n lines.length) 0
    for n in List.range height do
      let row := columns.map fun lines => (lines[n]?).getD []
      Act.print (joinInTurn separators 0 row ++ ['\n'])

/-! ## Long lines -/

/-- The column behind a character. -/
def columnAfter (bytes : Bool) (column : Nat) (c : Char) : Nat :=
  if bytes then column + 1
  else if c = '\t' then (column / 8 + 1) * 8
  else if c = '\x08' then column - 1
  else if c = '\r' then 0
  else column + 1

/-- A line broken into pieces of a width, last one first. With `atBlanks` a piece ends behind its
last blank if it has one. Each round takes a character, so `fuel` beyond twice the length of the
line is never used up. -/
def foldLine (width : Nat) (atBlanks bytes : Bool) :
    Nat → Nat → List Char → List Char → List (List Char)
  | 0, _, piece, rest => [piece.reverse ++ rest]
  | _, _, piece, [] => [piece.reverse]
  | fuel + 1, column, piece, c :: r =>
      let next := columnAfter bytes column c
      if next ≤ width || piece.isEmpty then foldLine width atBlanks bytes fuel next (c :: piece) r
      else
        let behind := if atBlanks then piece.takeWhile (· != ' ') else []
        let kept := piece.drop behind.length
        if kept.isEmpty then piece.reverse :: foldLine width atBlanks bytes fuel 0 [] (c :: r)
        else
          let column := behind.reverse.foldl (columnAfter bytes) 0
          kept.reverse :: foldLine width atBlanks bytes fuel column behind (c :: r)

def fold : Tool := fun _ words => do
  let options : Options :=
    { plain := "bs", withArgument := "w", mixed := true, trouble := 1
      names := [("bytes", 'b'), ("spaces", 's'), ("width", 'w')] }
  let g ← options.take words
  let width ←
    match g.value? 'w' with
    | none => pure 80
    | some text =>
        match natural? text with
        | some (n + 1) => pure (n + 1)
        | _ => stop 1 (ofText "invalid number of columns: " ++ inMarks text)
  for name in inputNames g.arguments do
    match ← readFile name with
    | .error e => fail (name ++ [':', ' '] ++ causeText e)
    | .ok text =>
        let (lines, ended) := linesOf text
        let folded := lines.flatMap fun line =>
          foldLine width (g.has 's') (g.has 'b') (2 * line.length + 2) 0 [] line
        Act.print (ofLines folded ended)

/-! ## Numbered lines -/

def nl : Tool := fun _ words => do
  let options : Options :=
    { plain := "p", withArgument := "bdfhilnsvw", mixed := true, trouble := 1
      names := [("body-numbering", 'b'), ("number-width", 'w'), ("number-separator", 's'),
        ("starting-line-number", 'v'), ("line-increment", 'i'), ("number-format", 'n')] }
  let g ← options.take words
  let number (letter : Char) (otherwise : Nat) : Nat :=
    ((g.value? letter).bind natural?).getD otherwise
  let width := number 'w' 6
  let separator := (g.value? 's').getD ['\t']
  let kind := (g.value? 'b').getD ['t']
  let format := String.ofList ((g.value? 'n').getD "rn".toList)
  let shown (n : Nat) : List Char :=
    let digits := Nat.toDigits 10 n
    let gap := width - digits.length
    match format with
    | "ln" => digits ++ List.replicate gap ' '
    | "rz" => List.replicate gap '0' ++ digits
    | _ => List.replicate gap ' ' ++ digits
  let mut n := number 'v' 1
  for name in inputNames g.arguments do
    match ← readFile name with
    | .error e => fail (name ++ [':', ' '] ++ causeText e)
    | .ok text =>
        for line in (linesOf text).1 do
          if kind = ['a'] || (kind = ['t'] && !line.isEmpty) then
            Act.print (shown n ++ separator ++ line ++ ['\n'])
            n := n + number 'i' 1
          else
            Act.print (List.replicate (width + separator.length) ' ' ++ line ++ ['\n'])

end PluginBundle.Tools
