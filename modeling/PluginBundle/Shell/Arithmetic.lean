import PluginBundle.Shell.Reader.Words
import PluginBundle.Shell.State
import PluginBundle.Text.CharacterClass

/-!
# Calculations

Whole numbers of sixty-four bits, variables, brackets, signs, binary operators by their precedence,
choices and assignments. What is not looked at, as the other side of a choice, is read but changes
nothing.
-/

namespace PluginBundle.Shell

/-- The number of sixty-four bits that a number wraps to. -/
def wrapped (n : Int) : Int := Int.bmod n 18446744073709551616

def largest : Int := 9223372036854775807

def smallest : Int := -9223372036854775808

/-- The nearest number of sixty-four bits. -/
def clamped (n : Int) : Int := max smallest (min largest n)

def numberText (n : Int) : List Char :=
  match n with
  | .ofNat n => Nat.toDigits 10 n
  | .negSucc n => '-' :: Nat.toDigits 10 (n + 1)

def truth (b : Bool) : Int := if b then 1 else 0

/-- The digits of a number at the front: hexadecimal after `0x`, octal after `0`, else decimal. -/
def unsignedAt? (cs : List Char) : Option (Nat × List Char) :=
  let octal (c : Char) := '0' ≤ c && c ≤ '7'
  let isHex (cs : List Char) := cs.head?.any Reader.isHexDigit
  match cs with
  | '0' :: 'x' :: r =>
      if isHex r then
        some (Reader.numberIn 16 (r.takeWhile Reader.isHexDigit), r.dropWhile Reader.isHexDigit)
      else some (0, 'x' :: r)
  | '0' :: 'X' :: r =>
      if isHex r then
        some (Reader.numberIn 16 (r.takeWhile Reader.isHexDigit), r.dropWhile Reader.isHexDigit)
      else some (0, 'X' :: r)
  | '0' :: r => some (Reader.numberIn 8 (r.takeWhile octal), r.dropWhile octal)
  | c :: r =>
      if c.isDigit then
        some (Reader.numberIn 10 ((c :: r).takeWhile Char.isDigit), r.dropWhile Char.isDigit)
      else none
  | [] => none

def skipSpace (cs : List Char) : List Char := cs.dropWhile isSpaceChar

/-- A number with a sign at the front. -/
def signedAt? (cs : List Char) : Option (Int × List Char) :=
  match skipSpace cs with
  | '-' :: r => (unsignedAt? r).map fun p => (clamped (-(p.1 : Int)), p.2)
  | '+' :: r => (unsignedAt? r).map fun p => (clamped p.1, p.2)
  | r => (unsignedAt? r).map fun p => (clamped p.1, p.2)

/-- A number with nothing but space around it. -/
def number? (cs : List Char) : Option Int :=
  match signedAt? cs with
  | some (n, rest) => if (skipSpace rest).isEmpty then some n else none
  | none => none

/-- Why a calculation has no result. -/
inductive CalculationFault where
  | operandWanted
  | closeWanted
  | colonWanted
  | leftOver
  | divisionByZero
  | illegalNumber (text : List Char)
  | negativeExponent
  /-- A digit is too large for the base of a number. -/
  | digitTooLarge
  deriving DecidableEq, Repr

/-- A calculation under way: the text that is left, and the variables. -/
structure Calculating where
  rest : List Char
  /-- The text from the last sign or number on that was read. -/
  token : List Char
  state : State
  /-- What is read counts. -/
  live : Bool

/-- A calculation; a fault keeps the text that is left. -/
abbrev Calculation := StateT Calculating (Except (CalculationFault × List Char))

namespace Calculation

def fault {α : Type} (f : CalculationFault) : Calculation α := fun c =>
  .error (f, if (skipSpace c.rest).isEmpty then c.token else c.rest)

/-- A fault at the last token. -/
def tokenFault {α : Type} (f : CalculationFault) : Calculation α := fun c => .error (f, c.token)

/-- Leaves out space, and takes a sign if it comes next. -/
def takes (sign : String) : Calculation Bool := fun c =>
  let rest := skipSpace c.rest
  if sign.toList.isPrefixOf rest then
    .ok (true, { c with rest := rest.drop sign.length, token := rest })
  else .ok (false, { c with rest := rest })

def peek? : Calculation (Option Char) := fun c =>
  let rest := skipSpace c.rest
  .ok (rest.head?, { c with rest := rest })

/-- The binary operators that bind so tightly, longer ones first. -/
def operators (extended : Bool) : List (String × Nat) :=
  (if extended then [("**", 11)] else [])
    ++ [("||", 1), ("&&", 2), ("==", 6), ("!=", 6), ("<<", 8), (">>", 8), ("<=", 7), (">=", 7),
        ("|", 3), ("^", 4), ("&", 5), ("<", 7), (">", 7), ("+", 9), ("-", 9), ("*", 10),
        ("/", 10), ("%", 10)]

/-- The operators that an equals sign may follow to form an assignment. -/
def assigning : List String := ["<<", ">>", "|", "^", "&", "+", "-", "*", "/", "%"]

/-- The operator at the front of a text. -/
def operatorAt? (extended : Bool) (cs : List Char) : Option (String × Nat) :=
  match (operators extended).find? fun o => o.1.toList.isPrefixOf cs with
  | some (o, n) =>
      if assigning.contains o && (cs.drop o.length).head? == some '=' then none else some (o, n)
  | none => none

/-- The result of an operator. -/
def apply (operator : String) (a b : Int) : Calculation Int := do
  let live := (← get).live
  let bits (n : Int) : Nat := (n % 18446744073709551616).toNat
  let shift : Nat := (b % 64).toNat
  match operator with
  | "||" => return truth (a != 0 || b != 0)
  | "&&" => return truth (a != 0 && b != 0)
  | "==" => return truth (a == b)
  | "!=" => return truth (a != b)
  | "<=" => return truth (a ≤ b)
  | ">=" => return truth (a ≥ b)
  | "<" => return truth (a < b)
  | ">" => return truth (a > b)
  | "+" => return wrapped (a + b)
  | "-" => return wrapped (a - b)
  | "*" => return wrapped (a * b)
  | "**" =>
      if b < 0 then fault .negativeExponent
      else return wrapped ((List.replicate b.toNat a).foldl (fun n m => wrapped (n * m)) 1)
  | "<<" => return wrapped (a * (1 <<< shift : Nat))
  | ">>" => return a / (1 <<< shift : Nat)
  | "|" => return wrapped (bits a ||| bits b : Nat)
  | "^" => return wrapped (bits a ^^^ bits b : Nat)
  | "&" => return wrapped (bits a &&& bits b : Nat)
  | _ =>
      if b = 0 then if live then tokenFault .divisionByZero else return 0
      else if operator = "/" then return wrapped (Int.tdiv a b)
      else return Int.tmod a b

/-- How nested calculations are done. -/
structure Inner where
  extended : Bool
  /-- A calculation with choices and assignments, in the larger dialect with commas too. -/
  whole : Calculation Int
  /-- A calculation without commas. -/
  single : Calculation Int
  /-- The value of a text. -/
  ofText : List Char → Calculation Int
  /-- What binds at least so tightly. -/
  binary : Nat → Calculation Int
  unary : Calculation Int

/-- The value of a variable. In the larger dialect it may be a calculation in turn. -/
def variableValue (again : Inner) (name : List Char) (key : Option ElementKey) :
    Calculation Int := do
  let c ← get
  let text :=
    match c.state.binding? name, key with
    | some v, some key => (v.items.lookup key).getD []
    | some v, none => v.value?.getD []
    | none, _ => []
  match number? text with
  | some n => return n
  | none =>
      if (skipSpace text).isEmpty || !c.live then return 0
      else if again.extended then again.ofText text
      else fault (.illegalNumber text)

def assign (name : List Char) (key : Option ElementKey) (n : Int) : Calculation Unit := do
  let c ← get
  if c.live then
    let state :=
      match key with
      | none => c.state.setValue name (numberText n)
      | some key => c.state.setElement name key (numberText n)
    set { c with state := state }

/-- The assignment sign at the front of a text, with the operator in it. -/
def assignmentAt? (cs : List Char) : Option (String × List Char) :=
  match cs with
  | '=' :: '=' :: _ => none
  | '=' :: r => some ("", r)
  | cs =>
      (assigning.find? fun o => (o.toList ++ ['=']).isPrefixOf cs).map fun o =>
        (o, cs.drop (o.length + 1))

/-- The subscript behind the name of a variable, if there is one. That of a table is a text. -/
def subscript? (again : Inner) (name : List Char) : Calculation (Option ElementKey) := do
  if !again.extended || !(← takes "[") then return none
  else
    let c ← get
    let v := (c.state.binding? name).getD .missing
    if v.names = .texts then
      let text := c.rest.takeWhile (· != ']')
      set { c with rest := c.rest.drop (text.length + 1) }
      return some (.text text)
    else
      let n ← again.whole
      let _ ← takes "]"
      return some (.number (v.place n))

/-- A variable, or an assignment to one. -/
def variableOperand (again : Inner) : Calculation Int := do
  let c ← get
  let name := c.rest.takeWhile isNamePart
  set { c with rest := c.rest.drop name.length, token := c.rest }
  let index ← subscript? again name
  let rest := skipSpace (← get).rest
  match assignmentAt? rest with
  | some (operator, r) =>
      modify fun c => { c with rest := r, token := rest }
      let new ← again.single
      let n ←
        if operator.isEmpty then pure new
        else apply operator (← variableValue again name index) new
      assign name index n
      return n
  | none =>
      let old ← variableValue again name index
      if again.extended && (← takes "++") then
        assign name index (wrapped (old + 1))
        return old
      else if again.extended && (← takes "--") then
        assign name index (wrapped (old - 1))
        return old
      else return old

/-- A number of the larger dialect with its base. -/
def basedNumber? (cs : List Char) : Option (Int × List Char) :=
  let base := cs.takeWhile Char.isDigit
  match cs.drop base.length with
  | '#' :: r =>
      let digits := r.takeWhile Char.isAlphanum
      some (Reader.numberIn (Reader.numberIn 10 base) digits, r.drop digits.length)
  | _ => none

/-- A number, a variable, or a calculation in brackets. -/
def operand (again : Inner) : Calculation Int := do
  if ← takes "(" then
    let n ← again.whole
    if ← takes ")" then return n else fault .closeWanted
  else
    match ← peek? with
    | none => fault .operandWanted
    | some c =>
        let s ← get
        if isNameStart c then variableOperand again
        else
          let based := if again.extended && c.isDigit then basedNumber? s.rest else none
          match based <|> (unsignedAt? s.rest).map fun p => ((p.1 : Int), p.2) with
          | some (n, rest) =>
              set { s with rest := rest, token := s.rest }
              if again.extended && rest.head?.any isNamePart then tokenFault .digitTooLarge
              return clamped n
          | none => fault .operandWanted

/-- A step up or down of the variable that follows. -/
def stepBefore (again : Inner) (by_ : Int) : Calculation Int := do
  let c ← get
  let rest := skipSpace c.rest
  let name := rest.takeWhile isNamePart
  set { c with rest := rest.drop name.length }
  let index ← subscript? again name
  let n := wrapped ((← variableValue again name index) + by_)
  assign name index n
  return n

/-- An operand with the signs in front of it. -/
def unaryStep (again : Inner) : Calculation Int := do
  let stepping (sign : String) : Calculation Bool := do
    let c ← get
    let rest := (skipSpace c.rest).drop 2
    if again.extended && (skipSpace rest).head?.any isNameStart then takes sign else return false
  if ← stepping "++" then stepBefore again 1
  else if ← stepping "--" then stepBefore again (-1)
  else if ← takes "-" then return wrapped (-(← again.unary))
  else if ← takes "+" then again.unary
  else if ← takes "!" then return truth ((← again.unary) == 0)
  else if ← takes "~" then return -(← again.unary) - 1
  else operand again

/-- Reads on without counting what is read, unless a condition holds. -/
def onlyIf (condition : Bool) (inner : Calculation Int) : Calculation Int := do
  let live := (← get).live
  modify fun c => { c with live := live && condition }
  let n ← inner
  modify fun c => { c with live := live }
  return n

/-- Applies the operators that follow a number, as long as they bind tightly enough. -/
def climb (again : Inner) (least : Nat) : Nat → Int → Calculation Int
  | 0, n => return n
  | rounds + 1, n => do
      let _ ← peek?
      let c ← get
      match operatorAt? again.extended c.rest with
      | none => return n
      | some (operator, precedence) =>
          if precedence < least then return n
          else
            set { c with rest := c.rest.drop operator.length, token := c.rest }
            let inner := again.binary (if operator = "**" then precedence else precedence + 1)
            let m ←
              match operator with
              | "||" => onlyIf (n == 0) inner
              | "&&" => onlyIf (n != 0) inner
              | _ => inner
            climb again least rounds (← apply operator n m)

/-- A calculation of binary operators and the choice that may follow it. -/
def choice (again : Inner) : Calculation Int := do
  let n ← again.binary 1
  if ← takes "?" then
    let yes ← onlyIf (n != 0) again.whole
    if ← takes ":" then
      let no ← onlyIf (n == 0) again.whole
      return if n != 0 then yes else no
    else fault .colonWanted
  else return n

/-- Calculations with commas between them, of which the last one counts. -/
def commas (again : Inner) : Nat → Int → Calculation Int
  | 0, n => return n
  | rounds + 1, n => do
      if again.extended && (← takes ",") then commas again rounds (← choice again) else return n

/-- Calculates what is nested so deep. -/
def inner (extended : Bool) : Nat → Inner
  | 0 => ⟨extended, fault .operandWanted, fault .operandWanted, fun _ => fault .operandWanted,
      fun _ => fault .operandWanted, fault .operandWanted⟩
  | depth + 1 =>
      { extended := extended
        whole := do
          let again := inner extended depth
          let n ← choice again
          let rounds := (← get).rest.length
          commas again rounds n
        single := choice (inner extended depth)
        ofText := fun text => do
          let again := inner extended depth
          let outer := (← get).rest
          modify fun c => { c with rest := text, token := text }
          let n ← again.whole
          if (← peek?).isSome then fault .leftOver
          modify fun c => { c with rest := outer }
          return n
        binary := fun least => do
          let again := inner extended depth
          let n ← unaryStep again
          let rounds := (← get).rest.length + 1
          climb again least rounds n
        unary := unaryStep (inner extended depth) }

end Calculation

/-- The value of a whole calculation. An empty one is zero in the larger dialect. -/
def calculate (source : List Char) (s : State) :
    Except (CalculationFault × List Char) (Int × State) :=
  let extended := !s.isPlain
  if extended && (skipSpace source).isEmpty then .ok (0, s)
  else
    let whole := (Calculation.inner extended (4 * source.length + 64)).ofText source
    match whole ⟨[], [], s, true⟩ with
    | .error f => .error f
    | .ok (n, c) => .ok (n, c.state)

/-- The message for a fault of a calculation. -/
def CalculationFault.message (plain : Bool) (source rest : List Char) : CalculationFault → List Char
  | .illegalNumber text => ofText "Illegal number: " ++ text
  | f =>
      let rest := skipSpace rest
      if plain then
        let cause :=
          match f with
          | .closeWanted => "expecting ')'"
          | .colonWanted => "expecting ':'"
          | .leftOver => "expecting EOF"
          | .divisionByZero => "division by zero"
          | _ => "expecting primary"
        ofText "arithmetic expression: " ++ ofText cause ++ ofText ": \"" ++ source ++ ofText "\""
      else
        let cause :=
          match f with
          | .closeWanted => "missing \x60)'"
          | .colonWanted => "\x60:' expected for conditional expression"
          | .leftOver => "syntax error in expression"
          | .divisionByZero => "division by 0"
          | .negativeExponent => "exponent less than 0"
          | .digitTooLarge => "value too great for base"
          | _ => "syntax error: operand expected"
        source ++ ofText ": " ++ ofText cause ++ ofText " (error token is \"" ++ rest
          ++ ofText "\")"

namespace Act

/-- The value of a calculation. -/
def calculation (source : List Char) : Act Int := do
  let s ← get
  match calculate source s with
  | .ok (n, s) =>
      set s
      return n
  | .error (f, rest) => raise (f.message s.isPlain source rest)

end Act

end PluginBundle.Shell
