import PluginBundle.Shell.Glob
import PluginBundle.Tools.Lines

/-!
# Order

Programs that sort lines, leave out repeated ones, and compare files that are sorted.
-/

namespace PluginBundle.Tools

open PluginBundle.Shell

/-! ## Comparing -/

/-- How texts are compared. -/
structure SortStyle where
  numeric : Bool
  reversed : Bool
  folded : Bool
  skipsBlanks : Bool
  dictionary : Bool
  byVersion : Bool
  deriving DecidableEq, Repr

def isBlankChar (c : Char) : Bool := c == ' ' || c == '\t' || c == '\n'

/-- A decimal number: its sign, the digits in front of the point and those behind it. -/
structure DecimalText where
  negative : Bool
  whole : List Char
  fraction : List Char

def decimalAt (cs : List Char) : DecimalText :=
  let cs := cs.dropWhile isBlankChar
  let (negative, cs) :=
    match cs with
    | '-' :: r => (true, r)
    | r => (false, r)
  let whole := cs.takeWhile Char.isDigit
  let fraction :=
    match cs.drop whole.length with
    | '.' :: r => r.takeWhile Char.isDigit
    | _ => []
  let fraction := (fraction.reverse.dropWhile (· == '0')).reverse
  let whole := whole.dropWhile (· == '0')
  ⟨negative && !(whole.isEmpty && fraction.isEmpty), whole, fraction⟩

/-- The order of texts by their bytes. -/
def compareBytes : List Char → List Char → Ordering
  | [], [] => .eq
  | [], _ :: _ => .lt
  | _ :: _, [] => .gt
  | a :: as, b :: bs => if a < b then .lt else if b < a then .gt else compareBytes as bs

def compareDecimals (a b : DecimalText) : Ordering :=
  let size := (compare a.whole.length b.whole.length).then
    ((compareBytes a.whole b.whole).then (compareBytes a.fraction b.fraction))
  match a.negative, b.negative with
  | true, false => .lt
  | false, true => .gt
  | false, false => size
  | true, true => size.swap

/-- Compares texts in which stretches of digits count as numbers. Each round takes a character, so
`fuel` beyond the lengths of the texts is never used up. -/
def compareVersions : Nat → List Char → List Char → Ordering
  | 0, _, _ => .eq
  | _, [], [] => .eq
  | _, [], _ :: _ => .lt
  | _, _ :: _, [] => .gt
  | fuel + 1, a :: as, b :: bs =>
      if a.isDigit && b.isDigit then
        let n := (a :: as).takeWhile Char.isDigit
        let m := (b :: bs).takeWhile Char.isDigit
        let short (cs : List Char) := cs.dropWhile (· == '0')
        let size := (compare (short n).length (short m).length).then
          (compareBytes (short n) (short m))
        size.then (compareVersions fuel ((a :: as).drop n.length) ((b :: bs).drop m.length))
      else if a = b then compareVersions fuel as bs
      else
        let rank (c : Char) : Nat :=
          if c = '~' then 0 else if c.isDigit then 1 else if c.isAlpha then c.toNat + 1
          else c.toNat + 1000
        compare (rank a) (rank b)

namespace SortStyle

def none : SortStyle := ⟨false, false, false, false, false, false⟩

/-- A style with the way of comparing that a letter stands for. -/
def withLetter (s : SortStyle) (c : Char) : SortStyle :=
  match c with
  | 'n' => { s with numeric := true }
  | 'g' => { s with numeric := true }
  | 'r' => { s with reversed := true }
  | 'f' => { s with folded := true }
  | 'b' => { s with skipsBlanks := true }
  | 'd' => { s with dictionary := true }
  | 'V' => { s with byVersion := true }
  | _ => s

/-- Compares texts. -/
def compare (s : SortStyle) (a b : List Char) : Ordering :=
  let clean (cs : List Char) : List Char :=
    let cs := if s.dictionary then cs.filter fun c => c.isAlphanum || isBlankChar c else cs
    if s.folded then cs.map Char.toUpper else cs
  let order :=
    if s.numeric then compareDecimals (decimalAt a) (decimalAt b)
    else if s.byVersion then compareVersions (a.length + b.length + 1) a b
    else compareBytes (clean a) (clean b)
  if s.reversed then order.swap else order

end SortStyle

/-! ## Keys -/

/-- The part of a line that is compared: fields and characters, counted from zero, and how. Without
an end the key goes on to the end of the line. -/
structure SortKey where
  startField : Nat
  startChar : Nat
  stop : Option (Nat × Nat)
  endSkips : Bool
  style : SortStyle

namespace SortKey

/-- The line behind so many fields. -/
def behindFields (separator : Option Char) : Nat → List Char → List Char
  | 0, cs => cs
  | n + 1, cs =>
      match separator with
      | some c => behindFields separator n ((cs.dropWhile (· != c)).drop 1)
      | none => behindFields separator n ((cs.dropWhile isBlankChar).dropWhile (!isBlankChar ·))

/-- How much of a line is left behind the end of a key. -/
def leftBehind (separator : Option Char) (skips : Bool) (field count : Nat) (line : List Char) :
    Nat :=
  let start := behindFields separator field line
  if count = 0 then
    match separator with
    | some c => (start.dropWhile (· != c)).length
    | none => ((start.dropWhile isBlankChar).dropWhile (!isBlankChar ·)).length
  else
    let start := if skips then start.dropWhile isBlankChar else start
    (start.drop count).length

/-- The part of a line that is compared. -/
def part (separator : Option Char) (k : SortKey) (line : List Char) : List Char :=
  let start := behindFields separator k.startField line
  let start := if k.style.skipsBlanks then start.dropWhile isBlankChar else start
  let start := start.drop k.startChar
  match k.stop with
  | none => start
  | some (field, count) =>
      let left := leftBehind separator k.endSkips field count line
      start.take (start.length - left)

/-- One end of a key: a field, the character in it, and letters. -/
def readEnd? (cs : List Char) : Option (Nat × Option Nat × List Char) :=
  let digits := cs.takeWhile Char.isDigit
  let rest := cs.drop digits.length
  match natural? digits, rest with
  | some field, '.' :: more =>
      let count := more.takeWhile Char.isDigit
      (natural? count).map fun n => (field, some n, more.drop count.length)
  | some field, rest => some (field, none, rest)
  | none, _ => none

/-- A key as it is written. -/
def parse? (style : SortStyle) (cs : List Char) : Option SortKey :=
  let front := cs.takeWhile (· != ',')
  let back := (cs.drop front.length).drop 1
  match readEnd? front with
  | none => none
  | some (0, _, _) => none
  | some (field + 1, count, letters) =>
      let known := letters.all "bdfgnrVhiMR".toList.contains
      let own := letters.foldl SortStyle.withLetter .none
      let start := count.getD 1 - 1
      if !known then none
      else if front.length = cs.length then
        some ⟨field, start, none, false, if letters.isEmpty then style else own⟩
      else
        match readEnd? back with
        | some (last + 1, count, more) =>
            let own := (more.filter (· != 'b')).foldl SortStyle.withLetter own
            let skips := if letters.isEmpty && more.isEmpty then style.skipsBlanks
              else more.contains 'b'
            some ⟨field, start, some (last, count.getD 0), skips,
              if letters.isEmpty && more.isEmpty then style else own⟩
        | _ => none

end SortKey

/-- What a sorting compares. -/
structure Sorting where
  style : SortStyle
  keys : List SortKey
  separator : Option Char
  /-- Lines that compare as equal stay in their order. -/
  stable : Bool

namespace Sorting

/-- Compares lines by the keys only. -/
def compareKeys (s : Sorting) (a b : List Char) : Ordering :=
  if s.keys.isEmpty then
    let clean (cs : List Char) := if s.style.skipsBlanks then cs.dropWhile isBlankChar else cs
    s.style.compare (clean a) (clean b)
  else
    s.keys.foldl (fun found k =>
      found.then (k.style.compare (k.part s.separator a) (k.part s.separator b))) .eq

/-- Compares lines; those that are equal by the keys are compared as a whole. -/
def compareLines (s : Sorting) (a b : List Char) : Ordering :=
  let whole := if s.style.reversed then (compareBytes a b).swap else compareBytes a b
  (s.compareKeys a b).then (if s.stable then .eq else whole)

end Sorting

/-- The first of each stretch of things that are equal. -/
def firstOfEach {α : Type} (same : α → α → Bool) : List α → List α
  | a :: b :: rest =>
      if same a b then firstOfEach same (a :: rest) else a :: firstOfEach same (b :: rest)
  | rest => rest
termination_by xs => xs.length

def sortOptions : Options :=
  { plain := "bdfgnruscCVzmhMi", withArgument := "kotST", mixed := true, trouble := 2
    names := [("reverse", 'r'), ("numeric-sort", 'n'), ("unique", 'u'), ("ignore-case", 'f'),
      ("key", 'k'), ("field-separator", 't'), ("output", 'o'), ("stable", 's'), ("check", 'c'),
      ("version-sort", 'V'), ("ignore-leading-blanks", 'b'), ("zero-terminated", 'z')] }

def sort : Tool := fun _ words => do
  let g ← sortOptions.take words
  let style := (g.options.map (·.1)).foldl SortStyle.withLetter .none
  let mut keys := []
  for text in g.values 'k' do
    match SortKey.parse? style text with
    | some key => keys := key :: keys
    | none =>
        let cause := if text.head? == some '0' then "field number is zero: " else ""
        stop 2 (ofText (cause ++ "invalid field specification ") ++ inMarks text)
  let separator ←
    match g.value? 't' with
    | none => pure none
    | some [c] => pure (some c)
    | some ['\\', '0'] => pure (some '\x00')
    | some [] => stop 2 (ofText "empty tab")
    | some text => stop 2 (ofText "multi-character tab " ++ inMarks text)
  let stop := if g.has 'z' then '\x00' else '\n'
  let mut lines := []
  for name in inputNames g.arguments do
    match ← readFile name with
    | .ok text => lines := lines ++ (piecesOf stop text).1
    | .error e =>
        let cause := if e = .system .isADirectory then "read failed: " else "cannot read: "
        Tools.stop 2 (ofText cause ++ name ++ [':', ' '] ++ causeText e)
  let s : Sorting := ⟨style, keys.reverse, separator, g.has 's' || g.has 'u'⟩
  let inOrder (a b : List Char) : Bool := s.compareLines a b != .gt
  if g.has 'c' || g.has 'C' then
    let pairs := (List.range lines.length).zip (lines.zip (lines.drop 1))
    let wrong := pairs.find? fun p =>
      let order := s.compareLines p.2.1 p.2.2
      order == .gt || (g.has 'u' && order == .eq)
    match wrong with
    | some (n, _, line) =>
        if g.has 'c' then
          complain (inputName g ++ ':' :: Nat.toDigits 10 (n + 2) ++ ofText ": disorder: " ++ line)
        Act.setStatus 1
    | none => return ()
  else
    let sorted := lines.mergeSort inOrder
    let sorted :=
      if g.has 'u' then firstOfEach (fun a b => s.compareKeys a b == .eq) sorted else sorted
    let text := sorted.flatMap (· ++ [stop])
    match g.value? 'o' with
    | none => Act.print text
    | some name =>
        let s ← get
        match s.world.disk.writeFile s.cwd (State.path name) (toBytes text) with
        | .ok disk => set { s with world := { s.world with disk := disk } }
        | .error e => Tools.stop 2 (ofText "open failed: " ++ name ++ [':', ' '] ++ causeText e)
where
  inputName (g : Given) : List Char := (g.arguments.head?).getD ['-']

/-! ## Repeated lines -/

def uniqOptions : Options :=
  { plain := "cdDuiz", withArgument := "fsw", mixed := true, trouble := 1
    names := [("count", 'c'), ("repeated", 'd'), ("unique", 'u'), ("ignore-case", 'i'),
      ("skip-fields", 'f'), ("skip-chars", 's'), ("check-chars", 'w'), ("all-repeated", 'D')] }

/-- Stretches of equal things: the first one of each with the others. -/
def stretches {α : Type} (same : α → α → Bool) : List α → List (List α)
  | [] => []
  | a :: rest =>
      match stretches same rest with
      | (b :: more) :: others =>
          if same a b then (a :: b :: more) :: others else [a] :: (b :: more) :: others
      | others => [a] :: others

def uniq : Tool := fun _ words => do
  let g ← uniqOptions.take words
  let number? (letter : Char) := (g.value? letter).bind natural?
  let compared (line : List Char) : List Char :=
    let skipField (cs : List Char) := (cs.dropWhile isBlankChar).dropWhile (!isBlankChar ·)
    let line := (List.range ((number? 'f').getD 0)).foldl (fun cs _ => skipField cs) line
    let line := line.drop ((number? 's').getD 0)
    let line :=
      match number? 'w' with
      | some n => line.take n
      | none => line
    if g.has 'i' then line.map Char.toLower else line
  let name := (g.arguments.head?).getD ['-']
  match ← readFile name with
  | .error e => stop 1 (name ++ [':', ' '] ++ causeText e)
  | .ok text =>
      let found := stretches (fun a b => compared a == compared b) (linesOf text).1
      let kept := found.filter fun lines =>
        (!g.has 'd' || lines.length > 1) && (!g.has 'u' || lines.length = 1)
          && (!g.has 'D' || lines.length > 1)
      let shown := kept.flatMap fun lines =>
        if g.has 'D' then ofLines lines true
        else
          let count := if g.has 'c' then column 7 lines.length ++ [' '] else []
          count ++ lines.headD [] ++ ['\n']
      match g.arguments with
      | [_, output] =>
          let s ← get
          match s.world.disk.writeFile s.cwd (State.path output) (toBytes shown) with
          | .ok disk => set { s with world := { s.world with disk := disk } }
          | .error e => stop 1 (output ++ [':', ' '] ++ causeText e)
      | _ => Act.print shown

/-! ## Files that are sorted -/

/-- The lines of two files by where they are: in the first one, in the second one, or in both. Each
round takes a line, so `fuel` beyond the number of lines is never used up. -/
def mergeLines : Nat → List (List Char) → List (List Char) → List (Nat × List Char)
  | 0, _, _ => []
  | _, [], bs => bs.map fun b => (2, b)
  | _, as, [] => as.map fun a => (1, a)
  | fuel + 1, a :: as, b :: bs =>
      match compareBytes a b with
      | .lt => (1, a) :: mergeLines fuel as (b :: bs)
      | .gt => (2, b) :: mergeLines fuel (a :: as) bs
      | .eq => (3, a) :: mergeLines fuel as bs

def comm : Tool := fun _ words => do
  let g ← Options.take ⟨"123", "", [], true, 1⟩ words
  match g.arguments with
  | [first, second] =>
      let read (name : List Char) : Act (List (List Char)) := do
        match ← readFile name with
        | .ok text => return (linesOf text).1
        | .error e => stop 1 (name ++ [':', ' '] ++ causeText e)
      let as ← read first
      let bs ← read second
      let shown (n : Nat) : Bool := !g.has (Char.ofNat (48 + n))
      for (n, line) in mergeLines (as.length + bs.length + 1) as bs do
        if shown n then
          let before := (List.range n).filter fun k => k > 0 && shown k
          Act.print (before.map (fun _ => '\t') ++ line ++ ['\n'])
  | [] => misuse 1 (ofText "missing operand")
  | [one] => misuse 1 (ofText "missing operand after " ++ inMarks one)
  | _ :: _ :: extra :: _ => misuse 1 (ofText "extra operand " ++ inMarks extra)

end PluginBundle.Tools
