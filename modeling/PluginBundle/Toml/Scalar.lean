import PluginBundle.Toml.Moment
import PluginBundle.Toml.Value

/-!
# Scalars of TOML

Booleans, numbers, moments and the four kinds of string. A scalar that is not a string is first cut
out of the text as a run of characters and then read as a whole.
-/

namespace PluginBundle.Toml

/-! ## Numbers -/

/-- The digits of a run in which single underscores stand between digits. -/
def plainDigits? (isDigit : Char → Bool) : List Char → Option (List Char)
  | [] => none
  | [c] => if isDigit c then some [c] else none
  | c :: '_' :: rest =>
      if isDigit c then (plainDigits? isDigit rest).map (c :: ·) else none
  | c :: rest => if isDigit c then (plainDigits? isDigit rest).map (c :: ·) else none

/-- The value of a digit of any base up to sixteen. -/
def digitOf (c : Char) : Nat :=
  if c.isDigit then c.toNat - 48
  else if 'a' ≤ c ∧ c ≤ 'f' then c.toNat - 87
  else c.toNat - 55

def numberOf (base : Nat) (digits : List Char) : Nat :=
  digits.foldl (fun n c => n * base + digitOf c) 0

def isHexDigit (c : Char) : Bool := c.isDigit || ('a' ≤ c && c ≤ 'f') || ('A' ≤ c && c ≤ 'F')

/-- An integer of sixty-four bits with a sign. -/
def integer? (i : Int) : Option Value :=
  if h : -9223372036854775808 ≤ i ∧ i < 9223372036854775808 then
    some (.integer i ⟨h.1, by omega⟩)
  else none

/-- Decimal digits without a zero in front of others. -/
def decimalDigits? (cs : List Char) : Option (List Char) :=
  match plainDigits? Char.isDigit cs with
  | some ('0' :: _ :: _) => none
  | other => other

/-- An optional sign, and what follows it. -/
def splitSign (cs : List Char) : Bool × List Char :=
  match cs with
  | '+' :: cs => (false, cs)
  | '-' :: cs => (true, cs)
  | cs => (false, cs)

def readInteger? (cs : List Char) : Option Value :=
  match cs with
  | '0' :: 'x' :: cs => do integer? (numberOf 16 (← plainDigits? isHexDigit cs))
  | '0' :: 'o' :: cs => do integer? (numberOf 8 (← plainDigits? (fun c => '0' ≤ c && c ≤ '7') cs))
  | '0' :: 'b' :: cs => do integer? (numberOf 2 (← plainDigits? (fun c => c == '0' || c == '1') cs))
  | cs => do
      let (negative, cs) := splitSign cs
      let n : Int := numberOf 10 (← decimalDigits? cs)
      integer? (if negative then -n else n)

def isExponentMark (c : Char) : Bool := c == 'e' || c == 'E'

/-- The exponent after its mark; without a mark it is zero. -/
def readExponent? (cs : List Char) : Option Int :=
  match cs with
  | [] => some 0
  | _ :: cs => do
      let (negative, cs) := splitSign cs
      let n : Int := numberOf 10 (← plainDigits? Char.isDigit cs)
      return if negative then -n else n

/-- The double nearest to `digits * 10 ^ exponent`. Beyond ten thousand places it is zero or
infinite. -/
def nearestFloat (digits : Nat) (exponent : Int) : Float :=
  if digits = 0 then 0
  else if exponent < -10000 then 0
  else if exponent > 10000 then Float.ofScientific 1 false 400
  else Float.ofScientific digits (exponent < 0) exponent.natAbs

def readFloat? (cs : List Char) : Option Value := do
  let (negative, cs) := splitSign cs
  let signed (x : Float) := if negative then -x else x
  if cs = ['i', 'n', 'f'] then return .float (signed (1 / 0))
  else if cs = ['n', 'a', 'n'] then return .float (0 / 0)
  else
    let mantissa := cs.takeWhile (!isExponentMark ·)
    let tail := cs.dropWhile (!isExponentMark ·)
    let whole := mantissa.takeWhile (· != '.')
    let point := mantissa.dropWhile (· != '.')
    if point.isEmpty ∧ tail.isEmpty then none
    else
      let front ← decimalDigits? whole
      let fraction ← if point.isEmpty then some [] else plainDigits? Char.isDigit (point.drop 1)
      let exponent ← readExponent? tail
      let x := nearestFloat (numberOf 10 (front ++ fraction)) (exponent - fraction.length)
      if x.isInf then none else return .float (signed x)

/-- The value of a scalar that is no string. -/
def readScalar? (cs : List Char) : Option Value :=
  if cs = "true".toList then some (.boolean true)
  else if cs = "false".toList then some (.boolean false)
  else
    match readInteger? cs with
    | some v => some v
    | none =>
        match readFloat? cs with
        | some v => some v
        | none => (Moment.read? cs).map fun m => .moment m.text

/-- A character of such a scalar. -/
def isScalarChar (c : Char) : Bool :=
  c.isAlphanum || c == '+' || c == '-' || c == '_' || c == '.' || c == ':'

/-- Cuts a scalar off the text. A blank belongs to it only between a date and a time. -/
def spanScalar (cs : List Char) : List Char × List Char :=
  let run := cs.takeWhile isScalarChar
  let rest := cs.dropWhile isScalarChar
  match rest with
  | ' ' :: c :: more =>
      if c.isDigit && (readDate? run).any (·.2.isEmpty) then
        (run ++ ' ' :: (c :: more).takeWhile isScalarChar, (c :: more).dropWhile isScalarChar)
      else (run, rest)
  | _ => (run, rest)

/-! ## Strings -/

/-- A character that may stand in a text as it is. -/
def isTextChar (c : Char) : Bool := c == '\t' || (c.toNat ≥ 0x20 && c.toNat != 0x7F)

/-- The character with a number in hexadecimal digits, exactly so many. -/
def numbered? (count : Nat) (cs : List Char) : Option Char :=
  let digits := cs.take count
  if digits.length = count ∧ digits.all isHexDigit then
    let n := numberOf 16 digits
    if n < 0xD800 ∨ (0xDFFF < n ∧ n < 0x110000) then some (Char.ofNat n) else none
  else none

/-- The character that an escape stands for, and the number of characters after its backslash. -/
def readEscape? (cs : List Char) : Option (Char × Nat) :=
  match cs with
  | [] => none
  | c :: rest =>
      match c with
      | 'b' => some ('\x08', 1)
      | 't' => some ('\t', 1)
      | 'n' => some ('\n', 1)
      | 'f' => some ('\x0c', 1)
      | 'r' => some ('\r', 1)
      | 'e' => some ('\x1b', 1)
      | '"' => some ('"', 1)
      | '\\' => some ('\\', 1)
      | 'x' => (numbered? 2 rest).map (·, 3)
      | 'u' => (numbered? 4 rest).map (·, 5)
      | 'U' => (numbered? 8 rest).map (·, 9)
      | _ => none

/-- Puts a character in front of what was read. -/
def emit? (c : Char) (read : Option (List Char × List Char)) : Option (List Char × List Char) :=
  read.map fun p => (c :: p.1, p.2)

/-- A string on one line, after its quote. The number is that of characters which belong to an
escape that was understood already. -/
def readBasic : Nat → List Char → Option (List Char × List Char)
  | _, [] => none
  | known + 1, _ :: r => readBasic known r
  | 0, c :: r =>
      if c = '"' then some ([], r)
      else if c = '\\' then
        match readEscape? r with
        | some (e, length) => emit? e (readBasic length r)
        | none => none
      else if isTextChar c then emit? c (readBasic 0 r)
      else none

/-- A string without escapes on one line, after its quote. -/
def readLiteral : List Char → Option (List Char × List Char)
  | [] => none
  | c :: r =>
      if c = '\'' then some ([], r)
      else if isTextChar c then emit? c (readLiteral r)
      else none

/-- The quotes at the front of a text. -/
def quoteRun (quote : Char) (cs : List Char) : Nat := (cs.takeWhile (· == quote)).length

/-- The number of blanks and line breaks at the front. -/
def gapLength : List Char → Nat
  | ' ' :: r => gapLength r + 1
  | '\t' :: r => gapLength r + 1
  | '\n' :: r => gapLength r + 1
  | '\r' :: '\n' :: r => gapLength r + 2
  | _ => 0

/-- The number of characters up to the first one that is not blank, if a line ends before it. -/
def lineContinuation? (cs : List Char) : Option Nat :=
  match cs.dropWhile fun c => c == ' ' || c == '\t' with
  | '\n' :: _ => some (gapLength cs)
  | '\r' :: '\n' :: _ => some (gapLength cs)
  | _ => none

/-- A string over several lines, after its quotes and the line break that may follow them. Up to two
quotes may stand before the three that close it. -/
def readLines (escapes : Bool) (quote : Char) : Nat → List Char → Option (List Char × List Char)
  | _, [] => none
  | known + 1, _ :: r => readLines escapes quote known r
  | 0, c :: r =>
      if c = quote then
        -- Quotes in excess of three belong to the text, and the last three close it.
        let run := quoteRun quote (c :: r)
        if run ≥ 6 then none
        else if run ≥ 3 then some (List.replicate (run - 3) quote, r.drop (run - 1))
        else emit? c (readLines escapes quote 0 r)
      else if escapes && c == '\\' then
        match lineContinuation? r with
        | some length => readLines escapes quote length r
        | none =>
            match readEscape? r with
            | some (e, length) => emit? e (readLines escapes quote length r)
            | none => none
      else if c = '\n' ∨ (c = '\r' ∧ r.head? = some '\n') ∨ isTextChar c then
        emit? c (readLines escapes quote 0 r)
      else none

/-- Drops the line break at the front. -/
def dropLineBreak : List Char → List Char
  | '\n' :: r => r
  | '\r' :: '\n' :: r => r
  | r => r

/-- A string of any kind. -/
def readString? (cs : List Char) : Option (List Char × List Char) :=
  match cs with
  | '"' :: '"' :: '"' :: r => readLines true '"' 0 (dropLineBreak r)
  | '\'' :: '\'' :: '\'' :: r => readLines false '\'' 0 (dropLineBreak r)
  | '"' :: r => readBasic 0 r
  | '\'' :: r => readLiteral r
  | _ => none

end PluginBundle.Toml
