import PluginBundle.Json.Fault
import PluginBundle.Json.Value
import PluginBundle.Keyed

/-!
# Reading JSON

A reader takes what it needs from the front of the text and returns the rest. Objects keep the
first place and the last value of a key, nesting is bounded, and a number that is not whole is read
with at most sixty-four bits of digits. The fault of a bad text is the first one from the left.
-/

namespace PluginBundle.Json

/-- Reads from the front of a text and returns what was not read. -/
abbrev Reader (α : Type) := List Char → Except Fault (α × List Char)

/-- The blank characters between tokens. -/
def isSpace (c : Char) : Bool := c == ' ' || c == '\n' || c == '\t' || c == '\r'

def skipSpace (cs : List Char) : List Char := cs.dropWhile isSpace

/-- A fault at the next character, or at the end of the text. -/
def faultAt {α : Type} (problem : Problem) (cs : List Char) : Except Fault α :=
  .error ⟨problem, cs, 1⟩

/-- The letters of a word, one after the other. -/
def readWord : List Char → Reader Unit
  | [], cs => .ok ((), cs)
  | _ :: _, [] => faultAt .endInValue []
  | w :: ws, c :: cs => if c = w then readWord ws cs else faultAt .expectedIdent (c :: cs)

/-! ## Strings -/

/-- The value of a hexadecimal digit of either case. -/
def hexValue? (c : Char) : Option Nat :=
  if '0' ≤ c ∧ c ≤ '9' then some (c.toNat - 48)
  else if 'a' ≤ c ∧ c ≤ 'f' then some (c.toNat - 87)
  else if 'A' ≤ c ∧ c ≤ 'F' then some (c.toNat - 55)
  else none

/-- The code unit that the next four characters spell. They are looked at and not taken. -/
def codeUnit (cs : List Char) : Except Fault Nat :=
  match cs.take 4 |>.mapM hexValue? with
  | some [a, b, c, d] => .ok (((a * 16 + b) * 16 + c) * 16 + d)
  | _ =>
      -- Four bytes are wanted, so a text that ends before them ends inside the string.
      if (String.ofList cs).utf8ByteSize < 4 then .error ⟨.endInString, [], 0⟩
      else .error ⟨.invalidEscape, cs, 4⟩

def isLeadingSurrogate (u : Nat) : Bool := 0xD800 ≤ u && u ≤ 0xDBFF

def isTrailingSurrogate (u : Nat) : Bool := 0xDC00 ≤ u && u ≤ 0xDFFF

/-- The character of a surrogate pair. -/
def pairedChar (leading trailing : Nat) : Char :=
  Char.ofNat ((leading - 0xD800) * 0x400 + (trailing - 0xDC00) + 0x10000)

/-- The character after a backslash, where it stands for a single one. -/
def shortEscape? : Char → Option Char
  | '"' => some '"'
  | '\\' => some '\\'
  | '/' => some '/'
  | 'b' => some '\x08'
  | 'f' => some '\x0c'
  | 'n' => some '\n'
  | 'r' => some '\r'
  | 't' => some '\t'
  | _ => none

/-- The character that an escape stands for, and the number of characters after its backslash. -/
def readEscape (cs : List Char) : Except Fault (Char × Nat) :=
  match cs with
  | [] => .error ⟨.endInString, [], 0⟩
  | 'u' :: r =>
      match codeUnit r with
      | .error f => .error f
      | .ok u =>
          if isTrailingSurrogate u then .error ⟨.loneSurrogate, r, 4⟩
          else if isLeadingSurrogate u then
            match r.drop 4 with
            | [] => .error ⟨.endInString, [], 0⟩
            | '\\' :: [] => .error ⟨.endInString, [], 0⟩
            | '\\' :: 'u' :: r =>
                match codeUnit r with
                | .error f => .error f
                | .ok t =>
                    if isTrailingSurrogate t then .ok (pairedChar u t, 11)
                    else .error ⟨.loneSurrogate, r, 4⟩
            | '\\' :: r => faultAt .unpairedEscape r
            | r => faultAt .unpairedEscape r
          else .ok (Char.ofNat u, 5)
  | c :: _ =>
      match shortEscape? c with
      | some e => .ok (e, 1)
      | none => faultAt .invalidEscape cs

/-- Puts a character in front of what was read. -/
def emit (c : Char) : Except Fault (List Char × List Char) → Except Fault (List Char × List Char)
  | .ok (cs, rest) => .ok (c :: cs, rest)
  | .error f => .error f

/-- The characters of a string literal up to its closing quote. The number is that of characters
which belong to an escape that was understood already. -/
def readString : Nat → Reader (List Char)
  | _, [] => .error ⟨.endInString, [], 0⟩
  | known + 1, _ :: r => readString known r
  | 0, c :: r =>
      if c = '"' then .ok ([], r)
      else if c = '\\' then
        match readEscape r with
        | .error f => .error f
        | .ok (e, length) => emit e (readString length r)
      else if c.toNat < 0x20 then faultAt .controlCharacter (c :: r)
      else emit c (readString 0 r)

/-! ## Numbers -/

/-- The value of a run of decimal digits. -/
def digitValue (c : Char) : Nat := c.toNat - 48

/-- Significands have sixty-four bits. -/
def significandBound : Nat := 18446744073709551616

/-- Exponents have thirty-one bits and a sign. -/
def exponentBound : Nat := 2147483648

/-- Digits are taken into a significand as long as they fit; those that do not are returned. -/
def absorb : Nat → List Char → Nat × List Char
  | s, [] => (s, [])
  | s, c :: cs =>
      if s * 10 + digitValue c < significandBound then absorb (s * 10 + digitValue c) cs
      else (s, c :: cs)

/-- A power of ten as a double, correctly rounded. -/
def powerOfTen (n : Nat) : Float := Float.ofScientific 1 false n

/-- Division by `10 ^ n`, in steps of at most `10 ^ 308`. Sixty-four bits vanish after two steps. -/
def shrink (f : Float) (n : Nat) : Float :=
  if n ≤ 308 then f / powerOfTen n
  else if n ≤ 616 then f / powerOfTen 308 / powerOfTen (n - 308)
  else 0

/-- The double for `significand * 10 ^ exponent`; none where that is beyond the largest one. -/
def scale (significand : Nat) (exponent : Int) : Option Float :=
  let f := significand.toUInt64.toFloat
  match exponent with
  | .ofNat n =>
      if n ≤ 308 then some (f * powerOfTen n) else if significand = 0 then some f else none
  | .negSucc n => some (shrink f (n + 1))

/-- The number for a sign, digits and an exponent. -/
def floatNumber (negative : Bool) (significand : Nat) (exponent : Int) : Option Number :=
  match scale significand exponent with
  | none => none
  | some f =>
      let signed := if negative then -f else f
      if h : signed.isFinite = true then some (.float signed h) else none

/-- The number for a sign and digits alone. -/
def wholeNumber (negative : Bool) (significand : Nat) : Option Number :=
  let i : Int := if negative then -significand else significand
  if h : IsWhole i ∧ ¬(negative = true ∧ significand = 0) then some (.whole i h.1)
  else floatNumber negative significand 0

/-- The digits of an exponent. The second part is what follows the digit that takes the exponent
beyond thirty-two bits. -/
def absorbExponent : Nat → List Char → Nat × Option (List Char)
  | e, [] => (e, none)
  | e, c :: cs =>
      if c.isDigit then
        if e * 10 + digitValue c < exponentBound then absorbExponent (e * 10 + digitValue c) cs
        else (e, some cs)
      else (e, none)

def numberOr (rest : List Char) : Option Number → Except Fault (Number × List Char)
  | some n => .ok (n, rest)
  | none => .error ⟨.numberOutOfRange, rest, 0⟩

/-- What follows the `e` of a number whose digits are known. -/
def readExponent (negative : Bool) (significand : Nat) (exponent : Int) : Reader Number :=
  fun cs =>
    let (below, ds) :=
      match cs with
      | '+' :: r => (false, r)
      | '-' :: r => (true, r)
      | r => (false, r)
    match ds with
    | [] => faultAt .endInValue []
    | c :: _ =>
        if c.isDigit then
          let rest := ds.dropWhile Char.isDigit
          match absorbExponent 0 ds with
          | (e, none) =>
              numberOr rest
                (floatNumber negative significand (exponent + if below then -(e : Int) else e))
          | (_, some after) =>
              -- Beyond thirty-one bits zero stays zero, and a small number becomes it.
              if significand ≠ 0 ∧ below = false then .error ⟨.numberOutOfRange, after, 0⟩
              else numberOr rest (floatNumber negative 0 0)
        else faultAt .invalidNumber ds

/-- A number after its sign. -/
def readNumber (negative : Bool) : Reader Number := fun cs =>
  let whole := cs.takeWhile Char.isDigit
  let rest := cs.dropWhile Char.isDigit
  match whole with
  | [] => faultAt (if cs.isEmpty then .endInValue else .invalidNumber) cs
  | '0' :: d :: ds => faultAt .invalidNumber (d :: ds ++ rest)
  | _ =>
      let (significand, beyond) := absorb 0 whole
      match rest with
      | '.' :: r =>
          let fraction := r.takeWhile Char.isDigit
          let rest := r.dropWhile Char.isDigit
          if fraction.isEmpty then
            faultAt (if rest.isEmpty then .endInValue else .invalidNumber) rest
          else
            let (significand, dropped) := absorb significand fraction
            -- Digits that do not fit raise the exponent before the point and are lost behind it.
            let exponent : Int := beyond.length - (fraction.length - dropped.length : Nat)
            match rest with
            | 'e' :: r | 'E' :: r => readExponent negative significand exponent r
            | _ => numberOr rest (floatNumber negative significand exponent)
      | 'e' :: r | 'E' :: r => readExponent negative significand beyond.length r
      | _ =>
          numberOr rest
            (if beyond.isEmpty then wholeNumber negative significand
             else floatNumber negative significand beyond.length)

/-! ## Values -/

/-- The elements of an array after its bracket, or after an element when `first` is off. Each round
takes a character, so `fuel` beyond the length of the text is never used up. -/
def readItems (element : Reader Value) : Nat → Bool → Reader (List Value)
  | 0, _, _ => faultAt .endInList []
  | fuel + 1, first, cs =>
      let next (cs : List Char) := do
        let (v, cs) ← element cs
        let (vs, cs) ← readItems element fuel false cs
        return (v :: vs, cs)
      match skipSpace cs with
      | [] => faultAt .endInList []
      | ']' :: r => .ok ([], r)
      | c :: r =>
          if first then next (c :: r)
          else if c = ',' then
            match skipSpace r with
            | [] => faultAt .endInValue []
            | ']' :: r => faultAt .trailingComma (']' :: r)
            | r => next r
          else faultAt .expectedCommaOrBracket (c :: r)

/-- The members of an object after its brace, or after a member when `first` is off, in the order of
the text. -/
def readMembers (element : Reader Value) : Nat → Bool → Reader (List (String × Value))
  | 0, _, _ => faultAt .endInObject []
  | fuel + 1, first, cs =>
      let next (cs : List Char) := do
        let (key, cs) ← readString 0 cs
        match skipSpace cs with
        | [] => faultAt .endInObject []
        | ':' :: r =>
            let (v, cs) ← element r
            let (ms, cs) ← readMembers element fuel false cs
            return ((String.ofList key, v) :: ms, cs)
        | c :: r => faultAt .expectedColon (c :: r)
      match skipSpace cs with
      | [] => faultAt .endInObject []
      | '}' :: r => .ok ([], r)
      | c :: r =>
          if first then
            if c = '"' then next r else faultAt .keyNotString (c :: r)
          else if c = ',' then
            match skipSpace r with
            | [] => faultAt .endInValue []
            | '"' :: r => next r
            | '}' :: r => faultAt .trailingComma ('}' :: r)
            | c :: r => faultAt .keyNotString (c :: r)
          else faultAt .expectedCommaOrBrace (c :: r)

/-- A value that nests at most `depth` arrays and objects. -/
def readValue : Nat → Reader Value
  | depth, cs =>
      match skipSpace cs with
      | [] => faultAt .endInValue []
      | 'n' :: r => (readWord "ull".toList r).map fun p => (.null, p.2)
      | 't' :: r => (readWord "rue".toList r).map fun p => (.bool true, p.2)
      | 'f' :: r => (readWord "alse".toList r).map fun p => (.bool false, p.2)
      | '-' :: r => (readNumber true r).map fun p => (.number p.1, p.2)
      | '"' :: r => (readString 0 r).map fun p => (.string (String.ofList p.1), p.2)
      | '[' :: r =>
          match depth with
          | 0 => faultAt .tooDeep ('[' :: r)
          | depth + 1 =>
              (readItems (readValue depth) (r.length + 1) true r).map fun p => (.array p.1, p.2)
      | '{' :: r =>
          match depth with
          | 0 => faultAt .tooDeep ('{' :: r)
          | depth + 1 =>
              (readMembers (readValue depth) (r.length + 1) true r).map fun p =>
                (.object (Keyed.collect p.1), p.2)
      | c :: r =>
          if c.isDigit then (readNumber false (c :: r)).map fun p => (.number p.1, p.2)
          else faultAt .expectedValue (c :: r)

/-- The deepest nesting that is read. -/
def depthLimit : Nat := 127

/-- The value that a whole text spells, or its first fault. -/
def read (text : String) : Except Fault Value :=
  match readValue depthLimit text.toList with
  | .error f => .error f
  | .ok (v, rest) =>
      match skipSpace rest with
      | [] => .ok v
      | c :: r => faultAt .trailingCharacters (c :: r)

/-- The value that a text spells, or the message for its fault. -/
def parse (text : String) : Except String Value :=
  (read text).mapError (·.message text)

end PluginBundle.Json
