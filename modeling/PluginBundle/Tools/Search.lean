import PluginBundle.Regex.Posix
import PluginBundle.Tools.Lines

/-!
# Searching lines

Lines are selected by patterns: regular expressions in one of the two notations, or plain texts.
What is printed is the lines, their number, the parts that match, or the names of the files.
-/

namespace PluginBundle.Tools

open PluginBundle.Shell

/-- The notation of patterns. -/
inductive PatternNotation where
  | basic
  | extended
  | fixed
  deriving DecidableEq, Repr

def searchOptions : Options :=
  { plain := "EFGPcilLnovqswxhHaUrRyzbI", withArgument := "efmABCd", mixed := true, trouble := 2
    names := [("extended-regexp", 'E'), ("fixed-strings", 'F'), ("basic-regexp", 'G'),
      ("regexp", 'e'), ("file", 'f'), ("ignore-case", 'i'), ("word-regexp", 'w'),
      ("line-regexp", 'x'), ("count", 'c'), ("files-with-matches", 'l'),
      ("files-without-match", 'L'), ("line-number", 'n'), ("only-matching", 'o'),
      ("invert-match", 'v'), ("quiet", 'q'), ("silent", 'q'), ("no-messages", 's'),
      ("max-count", 'm'), ("no-filename", 'h'), ("with-filename", 'H'), ("text", 'a'),
      ("after-context", 'A'), ("before-context", 'B'), ("context", 'C'), ("recursive", 'r'),
      ("color", 'U'), ("colour", 'U')] }

/-- The expression that is the text itself. -/
def plainExpression (ignoreCase : Bool) (cs : List Char) : Regex :=
  cs.foldl (fun r c =>
    .sequence r (.one fun d =>
      d == c || (ignoreCase && d.toLower == c.toLower))) .empty

/-- The expression of a pattern. -/
def searchExpression (kind : PatternNotation) (ignoreCase : Bool) (cs : List Char) :
    Except Regex.PosixFault Regex :=
  match kind with
  | .basic => Regex.ofPosix ⟨false, ignoreCase⟩ cs
  | .extended => Regex.ofPosix ⟨true, ignoreCase⟩ cs
  | .fixed => .ok (plainExpression ignoreCase cs)

/-- What is searched for. -/
structure Search where
  expressions : List Regex
  wholeWords : Bool
  wholeLines : Bool

namespace Search

/-- A match is bounded as it is wanted. -/
def accepts (s : Search) (c d : Regex.Cursor) : Bool :=
  let left := c.before.head?.any Regex.isWordChar
  let right := d.rest.head?.any Regex.isWordChar
  if s.wholeLines then c.before.isEmpty && d.rest.isEmpty
  else if s.wholeWords then !left && !right
  else true

/-- The longest accepted match of any expression from a place. -/
def at? (s : Search) (c : Regex.Cursor) : Option Regex.Cursor :=
  let all := s.expressions.flatMap fun r => (r.ends c).filter (s.accepts c)
  all.foldl (fun best d =>
    match best with
    | none => some d
    | some b => if b.place < d.place then some d else some b) none

/-- The matches in a line from a place on, one behind the other; empty ones are left out. Each round
takes a character, so `fuel` beyond the length of the line is never used up. -/
def all (s : Search) : Nat → Regex.Cursor → List (List Char)
  | 0, _ => []
  | fuel + 1, c =>
      match s.at? c with
      | some d =>
          if c.place < d.place then c.textTo d :: all s fuel { d with groups := [] }
          else if c.rest.isEmpty then [] else all s fuel (c.advance 1)
      | none => if c.rest.isEmpty then [] else all s fuel (c.advance 1)

/-- A line has a match from a place on. -/
def hitsFrom (s : Search) : Nat → Regex.Cursor → Bool
  | 0, _ => false
  | fuel + 1, c =>
      (s.at? c).isSome || (!c.rest.isEmpty && hitsFrom s fuel (c.advance 1))

def hits (s : Search) (line : List Char) : Bool := s.hitsFrom (line.length + 1) (.start line)

end Search

/-- Lines with their numbers, and whether they are selected. -/
abbrev SelectedLine := Nat × List Char × Bool

/-- The lines around the selected ones: each with a mark between groups in front, if it starts
one. -/
def withContext (before after : Nat) (lines : List SelectedLine) : List (Bool × SelectedLine) :=
  let chosen := (lines.filter (·.2.2)).map (·.1)
  let near (n : Nat) : Bool := chosen.any fun m => m ≤ n + before && n ≤ m + after
  let kept := lines.filter fun l => near l.1
  (kept.foldl (fun ((done : List (Bool × SelectedLine)), last) l =>
    let starts := match last with
      | some n => l.1 != n + 1
      | none => false
    ((starts, l) :: done, some l.1)) ([], (none : Option Nat))).1.reverse

/-- Searches a file, and says whether there was a line to select. -/
def searchText (g : Given) (s : Search) (titled : Bool) (name text : List Char) : Act Bool := do
  let stop := if g.has 'z' then '\x00' else '\n'
  let lines := (piecesOf stop text).1
  let shownName := if name = ['-'] then "(standard input)".toList else name
  let limit := (g.value? 'm').bind natural?
  let marked := (((List.range lines.length).zip lines).map fun p =>
    (p.1 + 1, p.2, s.hits p.2 != g.has 'v'))
  -- Behind the last line that may be selected nothing is looked at.
  let marked :=
    match limit with
    | none => marked
    | some n =>
        match ((marked.filter (·.2.2)).drop n).head? with
        | some first => marked.filter fun l => l.1 < first.1
        | none => marked
  let marked := if limit = some 0 then [] else marked
  let selected := marked.filter (·.2.2)
  let found := !selected.isEmpty
  let title (sign : Char) : List Char := if titled then shownName ++ [sign] else []
  if g.has 'q' then return found
  if g.has 'l' then
    if found then Act.print (shownName ++ ['\n'])
  else if g.has 'L' then
    if !found then Act.print (shownName ++ ['\n'])
  else if g.has 'c' then
    Act.print (title ':' ++ Nat.toDigits 10 selected.length ++ ['\n'])
  else if text.contains '\x00' && !g.has 'a' && !g.has 'z' then
    if found then
      let rest := shownName ++ ofText ": binary file matches\n"
      Act.print ((← get).name ++ [':', ' '] ++ rest)
  else
    let numbered (sign : Char) (n : Nat) : List Char :=
      title sign ++ if g.has 'n' then Nat.toDigits 10 n ++ [sign] else []
    let number (letter : Char) : Nat :=
      (((g.value? letter).or (g.value? 'C')).bind natural?).getD 0
    for (border, n, line, isSelected) in withContext (number 'B') (number 'A') marked do
      if border && (number 'A' + number 'B' > 0) then Act.print (ofText "--\n")
      let sign := if isSelected then ':' else '-'
      if g.has 'o' then
        if !g.has 'v' then
          for part in s.all (2 * line.length + 2) (.start line) do
            Act.print (numbered sign n ++ part ++ [stop])
      else Act.print (numbered sign n ++ line ++ [stop])
  return found

/-- The files below a directory, with their paths as text. -/
def filesBelow (d : Disk) (place : Place) (path : List Char) : List (List Char) :=
  let below := d.entries.filterMap fun e =>
    match e.2 with
    | .file _ _ =>
        if place.isPrefixOf e.1 then
          some (path ++ (e.1.drop place.length).flatMap fun n => '/' :: ofText n)
        else none
    | .directory => none
  below.mergeSort fun a b => lessBytes a b
where
  lessBytes : List Char → List Char → Bool
    | [], _ => true
    | _ :: _, [] => false
    | a :: as, b :: bs => a < b || (a == b && lessBytes as bs)

/-- The files that are searched. -/
def searchedNames (g : Given) (names : List (List Char)) : Act (List (List Char)) := do
  if !(g.has 'r' || g.has 'R') then return inputNames names
  let s ← get
  let tops := if names.isEmpty then [['.']] else names
  return tops.flatMap fun name =>
    match s.world.disk.resolve s.cwd (State.path name) with
    | .ok (place, .directory) =>
        let files := filesBelow s.world.disk place name
        if names.isEmpty then files.map (·.drop 2) else files
    | _ => [name]

def search (kind : PatternNotation) : Tool := fun _ words => do
  -- A number of lines around each match may be given by itself.
  let words := words.map fun w =>
    match w with
    | '-' :: c :: r => if c.isDigit && r.all Char.isDigit then '-' :: 'C' :: c :: r else w
    | w => w
  let g ← searchOptions.take words
  let kind :=
    match g.last? ['E', 'F', 'G', 'P'] with
    | some 'E' => .extended
    | some 'P' => .extended
    | some 'F' => .fixed
    | some _ => .basic
    | none => kind
  let mut texts := g.values 'e'
  for name in g.values 'f' do
    match ← readFile name with
    | .ok text => texts := texts ++ [ofLines (linesOf text).1 false]
    | .error e => stop 2 (name ++ [':', ' '] ++ causeText e)
  let hasPattern := !texts.isEmpty
  if !hasPattern && g.arguments.isEmpty then
    let name := (← get).name
    Act.printError (ofText "Usage: " ++ name ++ ofText " [OPTION]... PATTERNS [FILE]...\n")
    hint 2
  let given := if hasPattern then texts else g.arguments.take 1
  let names ← searchedNames g (if hasPattern then g.arguments else g.arguments.drop 1)
  let patterns := given.flatMap fun text =>
    let (lines, ended) := linesOf text
    if lines.isEmpty || (ended && text.getLast? == some '\n') then lines ++ [[]] else lines
  let ignoreCase := g.has 'i' || g.has 'y'
  let expressions ← patterns.mapM fun text =>
    match searchExpression kind ignoreCase text with
    | .ok r => return r
    | .error .openBracket =>
        if "[:".toList.isPrefixOf text && ":]".toList.isSuffixOf text then
          stop 2 (ofText "character class syntax is [[:space:]], not [:space:]")
        else stop 2 (ofText "Invalid regular expression")
    | .error f => stop 2 (ofText f.message)
  let s : Search := ⟨expressions, g.has 'w', g.has 'x'⟩
  let titled := (names.length > 1 || g.has 'H' || g.has 'r' || g.has 'R') && !g.has 'h'
  let mut found := false
  let mut failed := false
  for name in names do
    match ← readFile name with
    | .ok text =>
        if ← searchText g s titled name text then found := true
    | .error (.system .isADirectory) =>
        failed := true
        complain (name ++ ofText ": Is a directory")
    | .error e =>
        failed := true
        if !g.has 's' then complain (name ++ [':', ' '] ++ causeText e)
  Act.setStatus (if found && (g.has 'q' || !failed) then 0 else if failed then 2 else 1)

end PluginBundle.Tools
