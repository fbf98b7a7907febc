import PluginBundle.Tools.Basic

/-!
# Programs on lines

Programs that print files, their first or last lines, or their lines in another order or form, and
the one that counts them.
-/

namespace PluginBundle.Tools

open PluginBundle.Shell

/-- Does something with the text of each file in order. A file that cannot be read is told of. -/
def forFiles (describe : List Char → List Char) (names : List (List Char))
    (act : List Char → List Char → Act Unit) : Act Unit := do
  for name in names do
    match ← readFile name with
    | .ok text => act name text
    | .error e => fail (describe name ++ [':', ' '] ++ causeText e)

/-- The texts of all files one after the other. -/
def joinedFiles (describe : List Char → List Char) (names : List (List Char)) :
    Act (List Char) := do
  let mut texts := []
  for name in names do
    match ← readFile name with
    | .ok text => texts := text :: texts
    | .error e => fail (describe name ++ [':', ' '] ++ causeText e)
  return texts.reverse.flatten

/-! ## Whole files -/

/-- A character as it is shown if nothing may be hidden. -/
def shownChar (c : Char) : List Char :=
  let low (n : Nat) : List Char :=
    if n < 32 then ['^', Char.ofNat (n + 64)]
    else if n = 127 then ['^', '?'] else [Char.ofNat n]
  let n := c.toNat
  if c = '\t' ∨ c = '\n' then [c]
  else if n < 128 then low n
  else 'M' :: '-' :: low (n - 128)

def catOptions : Options :=
  { plain := "AbeEnstTuv", withArgument := "", mixed := true, trouble := 1
    names := [("show-all", 'A'), ("number-nonblank", 'b'), ("show-ends", 'E'), ("number", 'n'),
      ("squeeze-blank", 's'), ("show-tabs", 'T'), ("show-nonprinting", 'v')] }

/-- Lines as options show them, from a number on. `blank` tells that the line before was empty. -/
def catLines (g : Given) : Nat → Bool → List (List Char) → List (List Char)
  | _, _, [] => []
  | n, blank, line :: rest =>
      let isBlank := line.isEmpty
      if g.has 's' && blank && isBlank then catLines g n true rest
      else
        let hidden := g.has 'v' || g.has 'A' || g.has 'e' || g.has 't'
        let tabs := g.has 'T' || g.has 'A' || g.has 't'
        let shown := line.flatMap fun c =>
          if c = '\t' then if tabs then ['^', 'I'] else [c]
          else if hidden then shownChar c else [c]
        let numbered := (g.has 'n' && !g.has 'b') || (g.has 'b' && !isBlank)
        let shown := if numbered then column 6 n ++ ['\t'] ++ shown else shown
        shown :: catLines g (if numbered then n + 1 else n) isBlank rest

/-- Prints the files one after the other. -/
def cat : Tool := fun _ words => do
  let g ← catOptions.take words
  let text ← joinedFiles id (inputNames g.arguments)
  if g.options.all (·.1 == 'u') then Act.print text
  else
    let (lines, ended) := linesOf text
    let mark : List Char := if g.has 'E' || g.has 'A' || g.has 'e' then ['$', '\n'] else ['\n']
    let shown := (catLines g 1 false lines).flatMap (· ++ mark)
    Act.print (if ended then shown else shown.take (shown.length - mark.length))

/-- Prints the lines of each file from the last one to the first. -/
def tac : Tool := fun _ words => do
  let g ← Options.take ⟨"br", "s", [], true, 1⟩ words
  let describe (name : List Char) :=
    ofText "failed to open " ++ inMarks name ++ ofText " for reading"
  forFiles describe (inputNames g.arguments) fun _ text => do
    let (lines, ended) := linesOf text
    let pieces := lines.map (· ++ ['\n'])
    let pieces :=
      if ended then pieces
      else
        match pieces.reverse with
        | last :: front => (last.dropLast :: front).reverse
        | [] => []
    Act.print pieces.reverse.flatten

/-- Prints each line backwards. -/
def rev : Tool := fun _ words => do
  forFiles (fun name => ofText "cannot open " ++ name) (inputNames words) fun _ text => do
    let (lines, ended) := linesOf text
    Act.print (ofLines (lines.map List.reverse) ended)

/-! ## The first and the last part -/

/-- A count with a sign and a unit. -/
structure PartSize where
  sign : Option Char
  count : Nat

def partSize? (cs : List Char) : Option PartSize :=
  let (sign, body) :=
    match cs with
    | '-' :: r => (some '-', r)
    | '+' :: r => (some '+', r)
    | r => (none, r)
  let digits := body.takeWhile Char.isDigit
  let unit : Option Nat :=
    match String.ofList (body.drop digits.length) with
    | "" => some 1
    | "b" => some 512
    | "K" => some 1024
    | "k" => some 1024
    | "kB" => some 1000
    | "KiB" => some 1024
    | "M" => some 1048576
    | "MB" => some 1000000
    | _ => none
  match natural? digits, unit with
  | some n, some unit => some ⟨sign, n * unit⟩
  | _, _ => none

/-- Arguments with a count in the first one, as in `-5`, spelled as options. -/
def spelledCount (words : List (List Char)) : List (List Char) :=
  match words with
  | ('-' :: c :: digits) :: rest =>
      if c.isDigit then
        let count := (c :: digits).takeWhile Char.isDigit
        let letters := (c :: digits).drop count.length
        let option := if letters.contains 'c' then "-c" else "-n"
        let others := letters.filter fun c => c == 'q' || c == 'v' || c == 'f'
        option.toList :: count :: (if others.isEmpty then rest else ('-' :: others) :: rest)
      else words
  | words => words

/-- The title of a file among several. -/
def fileTitle (first : Bool) (name : List Char) : List Char :=
  let shown := if name = ['-'] then "standard input".toList else name
  (if first then [] else ['\n']) ++ ofText "==> " ++ shown ++ ofText " <==\n"

/-- Prints a part of each file. -/
def printParts (g : Given) (names : List (List Char)) (part : List Char → List Char) :
    Act Unit := do
  let titled := (g.has 'v' || names.length > 1) && !g.has 'q'
  let mut first := true
  for name in names do
    let shown := if name = ['-'] then ofText "standard input" else name
    match ← readFile name with
    | .ok text =>
        if titled then Act.print (fileTitle first name)
        first := false
        Act.print (part text)
    | .error (.system .isADirectory) =>
        if titled then Act.print (fileTitle first name)
        first := false
        fail (ofText "error reading " ++ inMarks shown ++ ofText ": Is a directory")
    | .error e =>
        fail (ofText "cannot open " ++ inMarks shown ++ ofText " for reading: " ++ causeText e)

def partOptions : Options :=
  { plain := "qvzfFr", withArgument := "nc", mixed := true, trouble := 1
    names := [("lines", 'n'), ("bytes", 'c'), ("quiet", 'q'), ("silent", 'q'), ("verbose", 'v'),
      ("zero-terminated", 'z')] }

/-- The size of the part that is asked for, and whether it is counted in bytes. -/
def askedPart (g : Given) : Act (PartSize × Bool) := do
  match g.last? ['n', 'c'] with
  | none => return (⟨none, 10⟩, false)
  | some letter =>
      let text := (g.value? letter).getD []
      match partSize? text with
      | some size => return (size, letter == 'c')
      | none =>
          let unit := if letter = 'c' then "bytes" else "lines"
          stop 1 (ofText ("invalid number of " ++ unit ++ ": ") ++ inMarks text)

/-- The lines of a text with their ends. -/
def wholeLines (stop : Char) (text : List Char) : List (List Char) :=
  let (lines, ended) := piecesOf stop text
  let pieces := lines.map (· ++ [stop])
  if ended then pieces
  else
    match pieces.reverse with
    | last :: front => (last.dropLast :: front).reverse
    | [] => []

def head : Tool := fun _ words => do
  let g ← partOptions.take (spelledCount words)
  let (size, inBytes) ← askedPart g
  let stop := if g.has 'z' then '\x00' else '\n'
  let keep {α : Type} (xs : List α) : List α :=
    if size.sign = some '-' then xs.take (xs.length - size.count) else xs.take size.count
  let part (text : List Char) : List Char :=
    if inBytes then keep text else (keep (wholeLines stop text)).flatten
  -- What is behind the lines that are wanted stays in a file that is the input.
  let s ← get
  let isFile :=
    match (s.channel? 0).bind s.world.channel? with
    | some (.file _ _ _ _ _) => true
    | _ => false
  if isFile && g.arguments.isEmpty && !inBytes && size.sign.isNone && !g.has 'z' then
    if g.has 'v' then Act.print (fileTitle true ['-'])
    for _ in List.range size.count do
      Act.print (← Act.takeLine)
  else printParts g (inputNames g.arguments) part

def tail : Tool := fun _ words => do
  let words :=
    match words with
    | ('+' :: digits) :: rest =>
        if !digits.isEmpty && digits.all Char.isDigit then ['-', 'n'] :: ('+' :: digits) :: rest
        else words
    | words => spelledCount words
  let g ← partOptions.take words
  let (size, inBytes) ← askedPart g
  let stop := if g.has 'z' then '\x00' else '\n'
  let keep {α : Type} (xs : List α) : List α :=
    if size.sign = some '+' then xs.drop (size.count - 1) else xs.drop (xs.length - size.count)
  let part (text : List Char) : List Char :=
    if inBytes then keep text else (keep (wholeLines stop text)).flatten
  printParts g (inputNames g.arguments) part

/-! ## Counting -/

/-- What is counted in a text. -/
structure Counts where
  lines : Nat
  words : Nat
  chars : Nat
  bytes : Nat
  longest : Nat

namespace Counts

def zero : Counts := ⟨0, 0, 0, 0, 0⟩

def add (a b : Counts) : Counts :=
  ⟨a.lines + b.lines, a.words + b.words, a.chars + b.chars, a.bytes + b.bytes,
    max a.longest b.longest⟩

/-- The words of a text are what stands between white space. -/
def wordCount (cs : List Char) : Nat :=
  (cs.foldl (fun (n, inside) c =>
    if isSpaceChar c then (n, false) else (if inside then n else n + 1, true)) (0, false)).1

def ofText (cs : List Char) : Counts :=
  let lines := cs.foldl (fun n c => if c = '\n' then n + 1 else n) 0
  let longest := ((linesOf cs).1).foldl (fun n line => max n line.length) 0
  ⟨lines, wordCount cs, cs.length, cs.length, longest⟩

/-- The counts that are asked for, in their order. -/
def asked (g : Given) (c : Counts) : List Nat :=
  let all := g.options.isEmpty
  (if all || g.has 'l' then [c.lines] else []) ++ (if all || g.has 'w' then [c.words] else [])
    ++ (if g.has 'm' then [c.chars] else []) ++ (if all || g.has 'c' then [c.bytes] else [])
    ++ (if g.has 'L' then [c.longest] else [])

end Counts

def countOptions : Options :=
  { plain := "clmwL", withArgument := "", mixed := true, trouble := 1
    names := [("bytes", 'c'), ("chars", 'm'), ("lines", 'l'), ("words", 'w'),
      ("max-line-length", 'L')] }

/-- A row of counts. -/
def countRow (g : Given) (width : Nat) (c : Counts) (name : List Char) : List Char :=
  let cells := (c.asked g).map (column width)
  [' '].intercalate cells ++ (if name.isEmpty then [] else ' ' :: name) ++ ['\n']

/-- The width of the columns: that of all bytes together, or a fixed one if some are not counted
before they are read. -/
def countWidth (g : Given) (total : Nat) : Act Nat := do
  let s ← get
  let isWaiting :=
    match (s.channel? 0).bind s.world.channel? with
    | some (.file _ _ _ _ _) => false
    | _ => true
  let usesInput := g.arguments.isEmpty || g.arguments.contains ['-']
  let single := (Counts.zero.asked g).length = 1 && g.arguments.length ≤ 1
  let directory := g.arguments.any fun name => s.world.disk.isDirectory s.cwd (State.path name)
  let fixed := if (usesInput && isWaiting) || directory then 7 else 1
  return if single then 1 else max fixed (Nat.toDigits 10 total).length

def wc : Tool := fun _ words => do
  let g ← countOptions.take words
  let mut rows := []
  let mut total := Counts.zero
  for name in inputNames g.arguments do
    match ← readFile name with
    | .ok text =>
        let c := Counts.ofText text
        total := total.add c
        let shown := if g.arguments.isEmpty then [] else name
        rows := (some (c, shown), []) :: rows
    | .error e =>
        let row := if e = .system .isADirectory then some (Counts.zero, name) else none
        rows := (row, name ++ [':', ' '] ++ causeText e) :: rows
  let width ← countWidth g total.bytes
  for (row, message) in rows.reverse do
    if !message.isEmpty then fail message
    match row with
    | some (c, name) => Act.print (countRow g width c name)
    | none => pure ()
  if g.arguments.length > 1 then Act.print (countRow g width total (ofText "total"))

end PluginBundle.Tools
