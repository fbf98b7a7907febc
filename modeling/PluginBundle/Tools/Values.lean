import PluginBundle.Files.Path
import PluginBundle.Regex.Posix
import PluginBundle.Sha256
import PluginBundle.Shell.Builtin.Input
import PluginBundle.Tools.Lines

/-!
# Programs on values

Programs that print words and numbers, test and calculate, and make other texts of files.
-/

namespace PluginBundle.Tools

open PluginBundle.Shell

/-! ## Words -/

def succeed : Tool := fun _ _ => Act.setStatus 0

def failing : Tool := fun _ _ => Act.setStatus 1

def echo : Tool := fun _ words => Act.print (echoText false words)

/-- Prints arguments in a format. -/
def printFormat : Tool := fun _ words => do
  match words.dropWhile (· == ['-', '-']) with
  | [] => misuse 1 (ofText "missing operand")
  | format :: arguments =>
      let p := formatted false format arguments
      for message in p.messages do
        complain message
      Act.print p.text
      Act.setStatus (if p.failed then 1 else 0)

/-- What is wrong with a test. -/
def testFaultText : TestFault → List Char
  | .operandWanted operator => inMarks operator ++ ofText ": unary operator expected"
  | .unexpected word => inMarks word ++ ofText ": binary operator expected"
  | .tooMany word => ofText "extra argument " ++ inMarks word
  | .illegalNumber word => ofText "invalid integer " ++ inMarks word
  | .closeWanted => ofText "')' expected"
  | .wordWanted => ofText "argument expected"

/-- Tests conditions. The name tells whether they stand between brackets. -/
def testCondition (bracketed : Bool) : Tool := fun _ words => do
  if bracketed && words.getLast? != some [']'] then stop 2 (ofText "missing ']'")
  let words := if bracketed then words.dropLast else words
  match extendedTest (← get) words with
  | .ok holds => Act.setStatus (if holds then 0 else 1)
  | .error f => stop 2 (testFaultText f)

def printWorkingDirectory : Tool := fun _ _ => do
  Act.print (ofText (Path.ofNames true (← get).cwd).text ++ ['\n'])

/-- Copies the input to files and to the output. -/
def tee : Tool := fun _ words => do
  let g ← Options.take ⟨"aip", "", [("append", 'a')], true, 1⟩ words
  let text ← takeInput
  for name in g.arguments do
    let s ← get
    match specialFile? name with
    | some .sink => pure ()
    | some (.stream n) =>
        match s.write? n text with
        | some s => set s
        | none => fail (name ++ ofText ": No such file or directory")
    | none =>
        let path := State.path name
        let old := if g.has 'a' then (s.world.disk.read s.cwd path).toOption.getD ByteArray.empty
          else ByteArray.empty
        match s.world.disk.writeFile s.cwd path (old ++ toBytes text) with
        | .ok disk => set { s with world := { s.world with disk := disk } }
        | .error e => fail (name ++ [':', ' '] ++ causeText e)
  Act.print text

/-- Prints a line again and again, until nobody wants more of it. -/
def yes : Tool := fun _ words => do
  let line := (if words.isEmpty then ['y'] else [' '].intercalate words) ++ ['\n']
  Act.print (List.replicate 20000 line).flatten
  throw (.killed 13)

def systemName : Tool := fun _ words => do
  let g ← Options.take ⟨"asnrvmpio", "", [], true, 1⟩ words
  if g.options.isEmpty || g.has 's' || g.has 'a' then Act.print (ofText "Linux\n")
  else if g.has 'm' then Act.print (ofText "x86_64\n")
  else if g.has 'o' then Act.print (ofText "GNU/Linux\n")

def userName : Tool := fun _ _ => Act.print (ofText "root\n")

/-! ## Numbers -/

/-- A decimal number as a whole number and how many of its digits stand behind the point. -/
structure Scaled where
  value : Int
  places : Nat

namespace Scaled

def parse? (cs : List Char) : Option Scaled :=
  let (negative, body) :=
    match cs with
    | '-' :: r => (true, r)
    | '+' :: r => (false, r)
    | r => (false, r)
  let whole := body.takeWhile Char.isDigit
  let rest := body.drop whole.length
  let fraction? : Option (List Char) :=
    match rest with
    | [] => some []
    | '.' :: r => if r.all Char.isDigit then some r else none
    | _ => none
  match fraction? with
  | none => none
  | some fraction =>
      if whole.isEmpty && fraction.isEmpty then none
      else
        let n : Int := ((natural? (whole ++ fraction)).getD 0 : Nat)
        some ⟨if negative then -n else n, fraction.length⟩

/-- The value with so many places. -/
def atPlaces (s : Scaled) (places : Nat) : Int := s.value * (Nat.pow 10 (places - s.places) : Nat)

/-- The digits of a value with so many places. -/
def digits (value : Int) (places : Nat) : List Char :=
  let sign : List Char := if value < 0 then ['-'] else []
  let body := Nat.toDigits 10 value.natAbs
  let body := List.replicate (places + 1 - body.length) '0' ++ body
  let front := body.take (body.length - places)
  let back := body.drop (body.length - places)
  sign ++ front ++ if places = 0 then [] else '.' :: back

end Scaled

/-- Prints the numbers of a sequence. -/
def sequence : Tool := fun _ words => do
  -- A negative number is no option.
  let isNumber (w : List Char) : Bool := (Scaled.parse? w).isSome
  let front := words.takeWhile fun w => w.head? == some '-' && !isNumber w
  let valued := front.getLast?.any fun w => w == ['-', 's'] || w == ['-', 'f']
  let front := if valued then words.take (front.length + 1) else front
  let rest := words.drop front.length
  let options : Options :=
    { plain := "w", withArgument := "sf", mixed := true, trouble := 1
      names := [("separator", 's'), ("equal-width", 'w'), ("format", 'f')] }
  let g ← options.take front
  let given := g.arguments ++ rest
  let number (w : List Char) : Act Scaled := do
    match Scaled.parse? w with
    | some n => return n
    | none => misuse 1 (ofText "invalid floating point argument: " ++ inMarks w)
  let one : Scaled := ⟨1, 0⟩
  let (first, step, last) ←
    match given with
    | [] => misuse 1 (ofText "missing operand")
    | [last] => pure (one, one, ← number last)
    | [first, last] => pure (← number first, one, ← number last)
    | [first, step, last] => pure (← number first, ← number step, ← number last)
    | _ :: _ :: _ :: extra :: _ => misuse 1 (ofText "extra operand " ++ inMarks extra)
  if step.value = 0 then
    misuse 1 (ofText "invalid Zero increment value: " ++ inMarks (given.getD 1 []))
  let shownPlaces := max first.places step.places
  let places := max shownPlaces last.places
  let a := first.atPlaces places
  let d := step.atPlaces places
  let z := last.atPlaces places
  let count : Nat := if d > 0 then (if a > z then 0 else ((z - a) / d).toNat + 1)
    else if a < z then 0 else ((a - z) / (-d)).toNat + 1
  let texts := (List.range count).map fun (k : Nat) =>
    let value := a + d * (k : Int)
    Scaled.digits (value / (Nat.pow 10 (places - shownPlaces) : Nat)) shownPlaces
  let width := if g.has 'w' then texts.foldl (fun n t => max n t.length) 0 else 0
  let padded := texts.map fun t =>
    let gap := List.replicate (width - t.length) '0'
    match t with
    | '-' :: r => '-' :: gap ++ r
    | r => gap ++ r
  let padded :=
    match g.value? 'f' with
    | some format => padded.map fun t => (formatted false format [t]).text
    | none => padded
  if count > 0 then
    Act.print (((g.value? 's').getD ['\n']).intercalate padded ++ ['\n'])

/-! ## Calculating with words -/

/-- What is wrong with a calculation. -/
inductive WordFault where
  | missingBehind (word : List Char)
  | closeWanted (word : List Char)
  | unexpected (word : List Char)
  | notWhole
  | divisionByZero
  | expression (f : Regex.PosixFault)

/-- Reads a value from the front of words, given the last word that was read. -/
abbrev WordReader := StateT (List (List Char) × List Char) (Except WordFault)

namespace WordReader

def whole? (cs : List Char) : Option Int :=
  match cs with
  | '-' :: r => (natural? r).map fun n => -(n : Int)
  | r => (natural? r).map fun n => (n : Int)

def take : WordReader (List Char) := fun (words, last) =>
  match words with
  | [] => .error (.missingBehind last)
  | w :: rest => .ok (w, rest, w)

def peek? : WordReader (Option (List Char)) := fun s => .ok (s.1.head?, s)

/-- A value counts as missing if it is empty or zero. -/
def isNull (cs : List Char) : Bool := cs.isEmpty || whole? cs == some 0

def number (cs : List Char) : WordReader Int := do
  match whole? cs with
  | some n => return n
  | none => throw .notWhole

/-- What the front of a text has that matches: its first group, or else its length. -/
def matched (text pattern : List Char) : WordReader (List Char) := do
  match Regex.ofPosix ⟨false, false⟩ pattern with
  | .error f => throw (.expression f)
  | .ok r =>
      let start := Regex.Cursor.start text
      let hasGroup := pattern.length > 1 && (pattern.zip (pattern.drop 1)).contains ('\\', '(')
      match r.longestEnd? start with
      | none => return if hasGroup then [] else ['0']
      | some d =>
          let m : Regex.Match := ⟨start, d⟩
          return if hasGroup then m.group 1 else Nat.toDigits 10 d.place

/-- A value that no operator stands in front of. -/
def primary (again : WordReader (List Char)) : Nat → WordReader (List Char)
  | 0 => throw .notWhole
  | fuel + 1 => do
      let w ← take
      match String.ofList w with
      | "(" =>
          let v ← again
          match ← peek? with
          | some [')'] =>
              let _ ← take
              return v
          | some w => throw (.closeWanted w)
          | none => throw (.closeWanted (← get).2)
      | ")" => throw (.unexpected w)
      | "+" => take
      | "length" => return Nat.toDigits 10 (← primary again fuel).length
      | "match" =>
          let text ← primary again fuel
          matched text (← primary again fuel)
      | "index" =>
          let text ← primary again fuel
          let chars ← primary again fuel
          let found := text.findIdx? chars.contains
          return Nat.toDigits 10 (match found with
            | some n => n + 1
            | none => 0)
      | "substr" =>
          let text ← primary again fuel
          let start ← primary again fuel
          let count ← primary again fuel
          match whole? start, whole? count with
          | some n, some k =>
              return if n ≤ 0 || k ≤ 0 then [] else (text.drop (n.toNat - 1)).take k.toNat
          | _, _ => return []
      | _ => return w

/-- Values joined by operators, to the left. -/
def joined (operators : List String) (one : WordReader (List Char))
    (apply : String → List Char → List Char → WordReader (List Char)) :
    Nat → List Char → WordReader (List Char)
  | 0, v => return v
  | fuel + 1, v => do
      match ← peek? with
      | some w =>
          let operator := String.ofList w
          if operators.contains operator then
            let _ ← take
            joined operators one apply fuel (← apply operator v (← one))
          else return v
      | none => return v

def truth (b : Bool) : List Char := if b then ['1'] else ['0']

/-- Compares values as numbers if they both are some. -/
def compared (operator : String) (a b : List Char) : List Char :=
  let order :=
    match whole? a, whole? b with
    | some n, some m => compare n m
    | _, _ => compareText a b
  match operator with
  | "<" => truth (order == .lt)
  | "<=" => truth (order != .gt)
  | "=" => truth (order == .eq)
  | "==" => truth (order == .eq)
  | "!=" => truth (order != .eq)
  | ">=" => truth (order != .lt)
  | _ => truth (order == .gt)
where
  compareText : List Char → List Char → Ordering
    | [], [] => .eq
    | [], _ :: _ => .lt
    | _ :: _, [] => .gt
    | a :: as, b :: bs => if a < b then .lt else if b < a then .gt else compareText as bs

def calculated (operator : String) (a b : List Char) : WordReader (List Char) := do
  let n ← number a
  let m ← number b
  match operator with
  | "+" => return numberText (n + m)
  | "-" => return numberText (n - m)
  | "*" => return numberText (n * m)
  | _ =>
      if m = 0 then throw .divisionByZero
      return numberText (if operator = "/" then Int.tdiv n m else Int.tmod n m)

/-- A whole calculation, in brackets so deep. -/
def whole : Nat → WordReader (List Char)
  | 0 => throw .notWhole
  | depth + 1 => do
      let rounds := (← get).1.length + 1
      let level (operators : List String) (one : WordReader (List Char))
          (apply : String → List Char → List Char → WordReader (List Char)) :
          WordReader (List Char) := do
        joined operators one apply rounds (← one)
      let matching := level [":"] (primary (whole depth) rounds) fun _ a b => matched a b
      let products := level ["*", "/", "%"] matching calculated
      let sums := level ["+", "-"] products calculated
      let comparisons := level ["<", "<=", "=", "==", "!=", ">=", ">"] sums
        fun operator a b => return compared operator a b
      let both := level ["&"] comparisons
        fun _ a b => return if isNull a || isNull b then ['0'] else a
      level ["|"] both fun _ a b =>
        return if !isNull a then a else if isNull b then ['0'] else b

end WordReader

def WordFault.message : WordFault → List Char
  | .missingBehind word => ofText "syntax error: missing argument after " ++ inMarks word
  | .closeWanted word => ofText "syntax error: expecting ')' after " ++ inMarks word
  | .unexpected word => ofText "syntax error: unexpected argument " ++ inMarks word
  | .notWhole => ofText "non-integer argument"
  | .divisionByZero => ofText "division by zero"
  | .expression f => ofText f.message

/-- Calculates with words. -/
def expr : Tool := fun _ words => do
  let words := if words.head? == some ['-', '-'] then words.drop 1 else words
  if words.isEmpty then misuse 2 (ofText "missing operand")
  match (WordReader.whole (words.length + 1)).run (words, []) with
  | .error f => stop 2 f.message
  | .ok (v, rest, _) =>
      match rest with
      | w :: _ => stop 2 (WordFault.unexpected w).message
      | [] =>
          Act.print (v ++ ['\n'])
          Act.setStatus (if WordReader.isNull v then 1 else 0)

/-! ## Other texts of files -/

def base64Signs : List Char :=
  "ABCDEFGHIJKLMNOPQRSTUVWXYZabcdefghijklmnopqrstuvwxyz0123456789+/".toList

def base64Sign (n : Nat) : Char := (base64Signs[n % 64]?).getD 'A'

/-- The signs for each three bytes. -/
def toBase64 : List Char → List Char
  | a :: b :: c :: r =>
      let n := a.toNat * 65536 + b.toNat * 256 + c.toNat
      base64Sign (n / 262144) :: base64Sign (n / 4096) :: base64Sign (n / 64) :: base64Sign n
        :: toBase64 r
  | [a, b] =>
      let n := a.toNat * 1024 + b.toNat * 4
      [base64Sign (n / 4096), base64Sign (n / 64), base64Sign n, '=']
  | [a] =>
      let n := a.toNat * 16
      [base64Sign (n / 64), base64Sign n, '=', '=']
  | [] => []

/-- The bytes of signs; nothing if something else is among them. -/
def ofBase64? : List Char → Option (List Char)
  | [] => some []
  | [a, b, '=', '='] => do
      let n := (← base64Signs.idxOf? a) * 64 + (← base64Signs.idxOf? b)
      return [Char.ofNat (n / 16)]
  | [a, b, c, '='] => do
      let n := ((← base64Signs.idxOf? a) * 64 + (← base64Signs.idxOf? b)) * 64
        + (← base64Signs.idxOf? c)
      return [Char.ofNat (n / 1024), Char.ofNat (n / 4 % 256)]
  | a :: b :: c :: d :: r => do
      let n := (((← base64Signs.idxOf? a) * 64 + (← base64Signs.idxOf? b)) * 64
        + (← base64Signs.idxOf? c)) * 64 + (← base64Signs.idxOf? d)
      let rest ← ofBase64? r
      return Char.ofNat (n / 65536) :: Char.ofNat (n / 256 % 256) :: Char.ofNat (n % 256) :: rest
  | _ => none

/-- A text in lines of a width. Each round takes a line, so `fuel` beyond the length of the text is
never used up. -/
def inWidth (width : Nat) : Nat → List Char → List Char
  | 0, _ => []
  | _, [] => []
  | fuel + 1, cs => cs.take width ++ ['\n'] ++ inWidth width fuel (cs.drop width)

def base64 : Tool := fun _ words => do
  let options : Options :=
    { plain := "di", withArgument := "w", mixed := true, trouble := 1
      names := [("decode", 'd'), ("wrap", 'w'), ("ignore-garbage", 'i')] }
  let g ← options.take words
  let name := (g.arguments.head?).getD ['-']
  match ← readFile name with
  | .error e => stop 1 (name ++ [':', ' '] ++ causeText e)
  | .ok text =>
      if g.has 'd' then
        match ofBase64? (text.filter (· != '\n')) with
        | some bytes => Act.print bytes
        | none => stop 1 (ofText "invalid input")
      else
        let signs := toBase64 text
        let width := ((g.value? 'w').bind natural?).getD 76
        Act.print (if width = 0 then signs else inWidth width (signs.length + 1) signs)

def checksum : Tool := fun _ words => do
  let g ← Options.take ⟨"bt", "", [("binary", 'b'), ("text", 't')], true, 1⟩ words
  for name in inputNames g.arguments do
    match ← readFile name with
    | .error e => fail (name ++ [':', ' '] ++ causeText e)
    | .ok text =>
        let mark := if g.has 'b' then '*' else ' '
        Act.print (ofText (Sha256.hex (toBytes text)) ++ ' ' :: mark :: name ++ ['\n'])

/-- Compares two files byte by byte. -/
def compareFiles : Tool := fun _ words => do
  let g ← Options.take ⟨"sbl", "", [("silent", 's'), ("quiet", 's')], true, 2⟩ words
  match g.arguments with
  | first :: others =>
      let second := (others.head?).getD ['-']
      let read (name : List Char) : Act (List Char) := do
        match ← readFile name with
        | .ok text => return text
        | .error e =>
            if g.has 's' then
              Act.setStatus 2
              throw .exit
            else stop 2 (name ++ [':', ' '] ++ causeText e)
      let a ← read first
      let b ← read second
      let same := ((a.zip b).takeWhile fun p => p.1 == p.2).length
      if a == b then Act.setStatus 0
      else
        if !g.has 's' then
          let line := (a.take same).foldl (fun n c => if c = '\n' then n + 1 else n) 1
          if same < a.length && same < b.length then
            Act.print (first ++ ' ' :: second ++ ofText " differ: char "
              ++ Nat.toDigits 10 (same + 1) ++ ofText ", line " ++ Nat.toDigits 10 line ++ ['\n'])
          else
            let short := if a.length < b.length then first else second
            let text :=
              if same = 0 then ofText " which is empty"
              else
                ofText " after byte " ++ Nat.toDigits 10 same ++ ofText ", in line "
                  ++ Nat.toDigits 10 line
            complain (ofText "EOF on " ++ inMarks short ++ text)
        Act.setStatus 1
  | [] => misuse 2 (ofText "missing operand after 'cmp'")

end PluginBundle.Tools
