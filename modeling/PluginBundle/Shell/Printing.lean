import PluginBundle.Decimal.Rounded
import PluginBundle.Shell.Arithmetic

/-!
# Printing

What `echo` and `printf` print. Both know escapes; `printf` also knows directives with flags, a
width and a precision, and goes through its format until no argument is left.
-/

namespace PluginBundle.Shell

/-! ## Escapes -/

/-- The digits of an octal escape, up to so many. -/
def octalDigits (most : Nat) (cs : List Char) : List Char :=
  (cs.take most).takeWhile Reader.isOctalDigit

def octalChar (digits : List Char) : Char := Char.ofNat (Reader.numberIn 8 digits % 256)

/-- The character of a simple escape. -/
def printEscape? : Char → Option Char
  | 'a' => some '\x07'
  | 'b' => some '\x08'
  | 'e' => some '\x1b'
  | 'f' => some '\x0c'
  | 'n' => some '\n'
  | 'r' => some '\r'
  | 't' => some '\t'
  | 'v' => some '\x0b'
  | '\\' => some '\\'
  | _ => none

/-- The text of an escape after its backslash, and what follows it. -/
def printEscape (zeroFirst hex : Bool) (cs : List Char) : List Char × List Char :=
  let hexDigits := ((cs.drop 1).take 2).takeWhile Reader.isHexDigit
  match cs with
  | [] => (['\\'], [])
  | c :: r =>
      if c = 'x' && hex && !hexDigits.isEmpty then
        ([Char.ofNat (Reader.numberIn 16 hexDigits)], r.drop hexDigits.length)
      else if Reader.isOctalDigit c then
        let digits := octalDigits (if zeroFirst && c == '0' then 4 else 3) cs
        ([octalChar digits], cs.drop digits.length)
      else
        match printEscape? c with
        | some e => ([e], r)
        | none => (['\\', c], r)

/-- A text with its escapes replaced, and whether printing stops. Each round takes a character, so
`fuel` as long as the text is never used up. -/
def unescape (hex : Bool) : Nat → List Char → List Char × Bool
  | 0, cs => (cs, false)
  | _, [] => ([], false)
  | _, '\\' :: 'c' :: _ => ([], true)
  | fuel + 1, '\\' :: r =>
      let (text, r) := printEscape true hex r
      let (rest, stop) := unescape hex fuel r
      (text ++ rest, stop)
  | fuel + 1, c :: r =>
      let (rest, stop) := unescape hex fuel r
      (c :: rest, stop)

/-- The options of `echo` at the front: no line end, escapes, and no escapes. -/
def echoOptions : Bool → Bool → List (List Char) → Bool × Bool × List (List Char)
  | bare, escapes, ('-' :: c :: letters) :: rest =>
      if (c :: letters).all fun d => d == 'n' || d == 'e' || d == 'E' then
        let escapes := (c :: letters).foldl (fun e d =>
          if d = 'e' then true else if d = 'E' then false else e) escapes
        echoOptions (bare || (c :: letters).contains 'n') escapes rest
      else (bare, escapes, ('-' :: c :: letters) :: rest)
  | bare, escapes, words => (bare, escapes, words)

/-- What `echo` prints. In the plain dialect it always knows escapes, and a single option. -/
def echoText (plain : Bool) (arguments : List (List Char)) : List Char :=
  let (bare, escapes, words) :=
    if plain then
      match arguments with
      | ['-', 'n'] :: r => (true, true, r)
      | r => (false, true, r)
    else echoOptions false false arguments
  let joined := [' '].intercalate words
  let (text, stop) := if escapes then unescape (!plain) joined.length joined else (joined, false)
  if bare || stop then text else text ++ ['\n']

/-! ## Directives -/

/-- How a directive lays out its argument. -/
structure Directive where
  flags : List Char
  width : Nat
  precision : Option Nat
  conversion : Char
  deriving DecidableEq, Repr

def isFlag (c : Char) : Bool := c == '-' || c == '0' || c == '+' || c == ' ' || c == '#'

namespace Directive

/-- Fills a text up to the width. -/
def fill (d : Directive) (text : List Char) : List Char :=
  let blanks := List.replicate (d.width - text.length) ' '
  if d.flags.contains '-' then text ++ blanks else blanks ++ text

def cutTo (d : Directive) (text : List Char) : List Char :=
  match d.precision with
  | none => text
  | some n => text.take n

/-- A number with its sign, filled with zeros if asked. -/
def number (d : Directive) (front : List Char) (digits : List Char) : List Char :=
  let least :=
    match d.precision with
    | some n => n
    | none =>
        if d.flags.contains '0' && !d.flags.contains '-' then d.width - front.length else 0
  let digits := if d.precision = some 0 && digits = ['0'] then [] else digits
  d.fill (front ++ List.replicate (least - digits.length) '0' ++ digits)

/-- The sign of a number. -/
def sign (d : Directive) (negative : Bool) : List Char :=
  if negative then ['-'] else if d.flags.contains '+' then ['+']
  else if d.flags.contains ' ' then [' '] else []

/-- A number without a sign; a negative one counts from the end of sixty-four bits. -/
def unsigned (d : Directive) (base : Nat) (front : String) (n : Int) : List Char :=
  let digits := Nat.toDigits base (n % 18446744073709551616).toNat
  let front := if d.flags.contains '#' && n != 0 then front.toList else []
  d.number front digits

/-- A number with places or an exponent. -/
def real (d : Directive) (x : Float) : List Char :=
  let bits := x.toBits
  let negative := bits.toNat ≥ 9223372036854775808
  let exponent := bits.toNat / BinaryFloat.hiddenBit % 2048
  let front := d.sign negative
  let places := d.precision.getD 6
  let point := d.flags.contains '#'
  let upper := d.conversion.isUpper
  let plain := { d with precision := none }
  let body :=
    if exponent = 2047 then
      if bits.toNat % BinaryFloat.hiddenBit = 0 then "inf".toList else "nan".toList
    else
      let b := BinaryFloat.ofBits bits
      match d.conversion.toLower with
      | 'f' => Rounded.fixed b places point
      | 'e' => Rounded.exponential b places point
      | _ => Rounded.general b places point
  let body := if upper then body.map Char.toUpper else body
  if exponent = 2047 then plain.fill (front ++ body) else plain.number front body

end Directive

/-! ## Arguments -/

/-- What is printed, and the messages on the way, last one first. -/
structure Printed where
  text : List Char
  messages : List (List Char)
  /-- Printing stops, and whether that is a failure. -/
  stopped : Bool
  failed : Bool

/-- The messages of `printf` in one of the dialects. -/
structure PrintingWords where
  notNumber : String
  notAll : String
  outOfRange : String

def PrintingWords.plain : PrintingWords :=
  ⟨"expected numeric value", "not completely converted", "Numerical result out of range"⟩

def PrintingWords.extended : PrintingWords :=
  ⟨"invalid number", "invalid number", "Numerical result out of range"⟩

/-- A whole number at the front of a text that may be out of range. -/
def wholeAt? (cs : List Char) : Option (Int × List Char) :=
  match skipSpace cs with
  | '-' :: r => (unsignedAt? r).map fun p => (-(p.1 : Int), p.2)
  | '+' :: r => (unsignedAt? r).map fun p => ((p.1 : Int), p.2)
  | r => (unsignedAt? r).map fun p => ((p.1 : Int), p.2)

/-- The number of an argument, and the message for one that is not just a number. -/
def wholeArgument (w : PrintingWords) (signed : Bool) (argument : List Char) :
    Int × Option (List Char) :=
  let told (text : String) : Option (List Char) := some (argument ++ ofText (": " ++ text))
  match argument with
  | [] => (0, none)
  | ['\''] => (0, none)
  | ['"'] => (0, none)
  | '\'' :: c :: _ => (c.toNat, none)
  | '"' :: c :: _ => (c.toNat, none)
  | argument =>
      match wholeAt? argument with
      | none => (0, told w.notNumber)
      | some (n, rest) =>
          let top : Int := if signed then largest else 18446744073709551615
          let low : Int := if signed then smallest else -18446744073709551615
          if !rest.isEmpty then (max low (min top n), told w.notAll)
          else if n > top then (top, told w.outOfRange)
          else if n < low then (low, told w.outOfRange)
          else (n, none)

/-- A decimal number at the front of a text. -/
def realAt? (cs : List Char) : Option (Float × List Char) :=
  let (negative, cs) :=
    match skipSpace cs with
    | '-' :: r => (true, r)
    | '+' :: r => (false, r)
    | r => (false, r)
  let whole := cs.takeWhile Char.isDigit
  let afterWhole := cs.drop whole.length
  let (fraction, rest) :=
    match afterWhole with
    | '.' :: r => (r.takeWhile Char.isDigit, r.dropWhile Char.isDigit)
    | r => ([], r)
  if whole.isEmpty && fraction.isEmpty then none
  else
    let (exponent, rest) : Int × List Char :=
      match rest with
      | e :: r =>
          let (sign, digits) : Int × List Char :=
            match r with
            | '-' :: r => (-1, r)
            | '+' :: r => (1, r)
            | r => (1, r)
          if (e == 'e' || e == 'E') && digits.head?.any Char.isDigit then
            (sign * Reader.numberIn 10 (digits.takeWhile Char.isDigit),
              digits.dropWhile Char.isDigit)
          else (0, rest)
      | [] => (0, [])
    let x := exponent - fraction.length
    let x := max (-5000) (min 5000 x)
    let f := Float.ofScientific (Reader.numberIn 10 (whole ++ fraction)) (x < 0) x.natAbs
    some (if negative then -f else f, rest)

def realArgument (w : PrintingWords) (argument : List Char) : Float × Option (List Char) :=
  let told (text : String) : Option (List Char) := some (argument ++ ofText (": " ++ text))
  match argument with
  | [] => (0, none)
  | '\'' :: c :: _ => (Float.ofNat c.toNat, none)
  | '"' :: c :: _ => (Float.ofNat c.toNat, none)
  | argument =>
      match realAt? argument with
      | none => (0, told w.notNumber)
      | some (x, rest) => (x, if rest.isEmpty then none else told w.notAll)

/-- Text that the larger dialect reads back as the same word. -/
def quotedWord (cs : List Char) : List Char :=
  let plain (c : Char) := c.isAlphanum || "%+-./:=@_^,".toList.contains c
  if cs.isEmpty then "''".toList
  else if cs.any fun c => c.toNat < 32 || c.toNat ≥ 127 then
    let shown (c : Char) : List Char :=
      if c = '\n' then ['\\', 'n'] else if c = '\t' then ['\\', 't']
      else if c = '\'' then ['\\', '\''] else if c = '\\' then ['\\', '\\']
      else if c.toNat < 32 || c.toNat ≥ 127 then
        let digits := Nat.toDigits 8 c.toNat
        '\\' :: List.replicate (3 - digits.length) '0' ++ digits
      else [c]
    "$'".toList ++ cs.flatMap shown ++ ['\'']
  else cs.flatMap fun c => if plain c then [c] else ['\\', c]

/-- The text of an argument, the message for one that does not fit, and whether printing stops;
nothing if there is no such directive. -/
def Directive.text? (plain : Bool) (w : PrintingWords) (d : Directive) (argument : List Char) :
    Option (List Char × Option (List Char) × Bool) :=
  let whole (signed : Bool) (show_ : Int → List Char) :
      Option (List Char × Option (List Char) × Bool) :=
    let (n, message) := wholeArgument w signed argument
    some (show_ n, message, false)
  let real : Option (List Char × Option (List Char) × Bool) :=
    let (x, message) := realArgument w argument
    some (d.real x, message, false)
  match d.conversion with
  | 's' => some (d.fill (d.cutTo argument), none, false)
  | 'b' =>
      let (text, stop) := unescape (!plain) argument.length argument
      some (d.fill (d.cutTo text), none, stop)
  | 'c' => some (d.fill [argument.head?.getD '\x00'], none, false)
  | 'd' => whole true fun n => d.number (d.sign (n < 0)) (Nat.toDigits 10 n.natAbs)
  | 'i' => whole true fun n => d.number (d.sign (n < 0)) (Nat.toDigits 10 n.natAbs)
  | 'u' => whole false (d.unsigned 10 "")
  | 'x' => whole false (d.unsigned 16 "0x")
  | 'X' => whole false fun n => (d.unsigned 16 "0x" n).map Char.toUpper
  | 'o' => whole false (d.unsigned 8 "0")
  | 'f' => real
  | 'F' => real
  | 'e' => real
  | 'E' => real
  | 'g' => real
  | 'G' => real
  | 'q' => if plain then none else some (d.fill (quotedWord argument), none, false)
  | _ => none

/-! ## Formats -/

/-- A number that is written out or, for a star, taken from the arguments. -/
def directiveNumber (cs : List Char) (args : List (List Char)) :
    Int × List Char × List (List Char) :=
  match cs with
  | '*' :: r => (((args.head?.bind signedAt?).map (·.1)).getD 0, r, args.drop 1)
  | cs => (Reader.numberIn 10 (cs.takeWhile Char.isDigit), cs.dropWhile Char.isDigit, args)

/-- The directive after a percent sign, what follows it, and the arguments that are left. The larger
dialect leaves out letters for the sizes of numbers. -/
def directive? (plain : Bool) (cs : List Char) (args : List (List Char)) :
    Option (Directive × List Char × List (List Char)) :=
  let flags := cs.takeWhile isFlag
  let (width, rest, args) := directiveNumber (cs.dropWhile isFlag) args
  let flags := if width < 0 then '-' :: flags else flags
  let (precision, rest, args) : Option Nat × List Char × List (List Char) :=
    match rest with
    | '.' :: r =>
        let (n, r, args) := directiveNumber r args
        (if n < 0 then none else some n.toNat, r, args)
    | r => (none, r, args)
  match if plain then rest else rest.dropWhile "hjlLtz".toList.contains with
  | [] => none
  | c :: r => some (⟨flags, width.natAbs, precision, c⟩, r, args)

/-- One pass over a format. What is printed is kept last character first. Each round takes a
character, so `fuel` as long as the format is never used up. -/
def formatOnce (plain : Bool) (w : PrintingWords) :
    Nat → List Char → List (List Char) → Printed → Printed × List (List Char)
  | 0, _, args, p => (p, args)
  | _, [], args, p => (p, args)
  | fuel + 1, '\\' :: r, args, p =>
      let (text, rest) :=
        match r with
        | '"' :: r => if plain then (['\\', '"'], r) else (['"'], r)
        | r => printEscape false (!plain) r
      formatOnce plain w fuel rest args { p with text := text.reverse ++ p.text }
  | fuel + 1, '%' :: '%' :: r, args, p =>
      formatOnce plain w fuel r args { p with text := '%' :: p.text }
  | fuel + 1, '%' :: r, args, p =>
      let stopped (message : List Char) : Printed × List (List Char) :=
        ({ p with messages := message :: p.messages, stopped := true, failed := true }, args)
      match directive? plain r args with
      | none =>
          stopped (if plain then ofText "missing format character"
            else ofText "\x60%" ++ r ++ ofText "': missing format character")
      | some (d, rest, args) =>
          match d.text? plain w (args.head?.getD []) with
          | none =>
              let spelled := '%' :: r.take (r.length - rest.length)
              stopped (if plain then spelled ++ ofText ": invalid directive"
                else '\x60' :: d.conversion :: ofText "': invalid format character")
          | some (text, message, stop) =>
              let p := { p with
                text := text.reverse ++ p.text
                messages := message.toList ++ p.messages
                failed := p.failed || message.isSome
                stopped := stop }
              if stop then (p, args.drop 1) else formatOnce plain w fuel rest (args.drop 1) p
  | fuel + 1, c :: r, args, p => formatOnce plain w fuel r args { p with text := c :: p.text }

/-- Passes over the format until no argument is left. -/
def formatAll (plain : Bool) (w : PrintingWords) (format : List Char) :
    Nat → List (List Char) → Printed → Printed
  | 0, _, p => p
  | fuel + 1, args, p =>
      let (p, rest) := formatOnce plain w format.length format args p
      if p.stopped || rest.isEmpty || rest.length == args.length then p
      else formatAll plain w format fuel rest p

/-- What `printf` prints. -/
def formatted (plain : Bool) (format : List Char) (args : List (List Char)) : Printed :=
  let w := if plain then PrintingWords.plain else .extended
  let p := formatAll plain w format (args.length + 1) args ⟨[], [], false, false⟩
  { p with text := p.text.reverse, messages := p.messages.reverse }

end PluginBundle.Shell
