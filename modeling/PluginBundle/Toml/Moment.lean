/-!
# Dates and times

A moment is a date, a time, or both with or without an offset. Reading checks the ranges of its
parts, and its normal text has a capital `T` between date and time, seconds, and a fraction of at
most nine digits without zeros at its end.
-/

namespace PluginBundle.Toml

/-- A day of the calendar. -/
structure Date where
  year : Nat
  month : Nat
  day : Nat
  deriving DecidableEq, Repr

/-- A time of day, to the nanosecond. -/
structure Time where
  hour : Nat
  minute : Nat
  second : Nat
  nanosecond : Nat
  deriving DecidableEq, Repr

/-- A distance from universal time in minutes, or its name. -/
inductive Offset where
  | universal
  | minutes (value : Int)
  deriving DecidableEq, Repr

/-- A date, a time, or both. -/
structure Moment where
  date : Option Date
  time : Option Time
  offset : Option Offset
  deriving DecidableEq, Repr

def isLeapYear (year : Nat) : Bool :=
  year % 4 == 0 && (year % 100 != 0 || year % 400 == 0)

def daysInMonth (year month : Nat) : Nat :=
  if month = 2 then if isLeapYear year then 29 else 28
  else if month = 4 ∨ month = 6 ∨ month = 9 ∨ month = 11 then 30
  else 31

/-! ## Texts -/

/-- At least so many digits. -/
def paddedDigits (width n : Nat) : List Char :=
  let digits := Nat.toDigits 10 n
  List.replicate (width - digits.length) '0' ++ digits

def Date.chars (d : Date) : List Char :=
  paddedDigits 4 d.year ++ '-' :: paddedDigits 2 d.month ++ '-' :: paddedDigits 2 d.day

def Time.chars (t : Time) : List Char :=
  let fraction := ((paddedDigits 9 t.nanosecond).reverse.dropWhile (· == '0')).reverse
  paddedDigits 2 t.hour ++ ':' :: paddedDigits 2 t.minute ++ ':' :: paddedDigits 2 t.second
    ++ if fraction.isEmpty then [] else '.' :: fraction

def Offset.chars : Offset → List Char
  | .universal => ['Z']
  | .minutes m =>
      (if m < 0 then '-' else '+') :: paddedDigits 2 (m.natAbs / 60)
        ++ ':' :: paddedDigits 2 (m.natAbs % 60)

/-- The normal text of a moment. -/
def Moment.text (m : Moment) : String :=
  let date := (m.date.map Date.chars).getD []
  let time := (m.time.map Time.chars).getD []
  let offset := (m.offset.map Offset.chars).getD []
  String.ofList (date ++ (if m.date.isSome && m.time.isSome then ['T'] else []) ++ time ++ offset)

/-! ## Reading -/

/-- The number that exactly so many digits at the front spell. -/
def fixedDigits? (count : Nat) (cs : List Char) : Option (Nat × List Char) :=
  let digits := cs.take count
  if digits.length = count ∧ digits.all Char.isDigit then
    some (digits.foldl (fun n c => n * 10 + (c.toNat - 48)) 0, cs.drop count)
  else none

/-- What follows a character that must come first. -/
def after? (c : Char) : List Char → Option (List Char)
  | [] => none
  | d :: rest => if d = c then some rest else none

def readDate? (cs : List Char) : Option (Date × List Char) := do
  let (year, cs) ← fixedDigits? 4 cs
  let (month, cs) ← fixedDigits? 2 (← after? '-' cs)
  let (day, cs) ← fixedDigits? 2 (← after? '-' cs)
  if 1 ≤ month ∧ month ≤ 12 ∧ 1 ≤ day ∧ day ≤ daysInMonth year month then
    return (⟨year, month, day⟩, cs)
  else none

/-- The seconds of a time, which may be left out, with their fraction. -/
def readSeconds? (cs : List Char) : Option ((Nat × Nat) × List Char) :=
  match cs with
  | ':' :: cs => do
      let (second, cs) ← fixedDigits? 2 cs
      match cs with
      | '.' :: cs =>
          let fraction := cs.takeWhile Char.isDigit
          if fraction.isEmpty then none
          else
            let digits := (fraction ++ List.replicate 9 '0').take 9
            let nanos := digits.foldl (fun n c => n * 10 + (c.toNat - 48)) 0
            return ((second, nanos), cs.dropWhile Char.isDigit)
      | cs => return ((second, 0), cs)
  | cs => some ((0, 0), cs)

def readTime? (cs : List Char) : Option (Time × List Char) := do
  let (hour, cs) ← fixedDigits? 2 cs
  let (minute, cs) ← fixedDigits? 2 (← after? ':' cs)
  let ((second, nanosecond), cs) ← readSeconds? cs
  if hour ≤ 23 ∧ minute ≤ 59 ∧ second ≤ 60 then return (⟨hour, minute, second, nanosecond⟩, cs)
  else none

/-- The distance in hours and minutes after a sign. -/
def readDistance? (sign : Int) (cs : List Char) : Option Offset := do
  let (hours, cs) ← fixedDigits? 2 cs
  let (minutes, cs) ← fixedDigits? 2 (← after? ':' cs)
  if cs.isEmpty ∧ hours ≤ 23 ∧ minutes ≤ 59 then
    return .minutes (sign * ((hours * 60 + minutes : Nat) : Int))
  else none

/-- The offset that a whole text spells; an empty text spells none. -/
def readOffset? (cs : List Char) : Option (Option Offset) :=
  match cs with
  | [] => some none
  | ['Z'] => some (some .universal)
  | ['z'] => some (some .universal)
  | '+' :: cs => (readDistance? 1 cs).map some
  | '-' :: cs => (readDistance? (-1) cs).map some
  | _ => none

/-- The moment that a whole text spells. -/
def Moment.read? (cs : List Char) : Option Moment :=
  match readDate? cs with
  | some (date, []) => some ⟨some date, none, none⟩
  | some (date, c :: cs) =>
      if c = 'T' ∨ c = 't' ∨ c = ' ' then do
        let (time, cs) ← readTime? cs
        let offset ← readOffset? cs
        return ⟨some date, some time, offset⟩
      else none
  | none =>
      match readTime? cs with
      | some (time, []) => some ⟨none, some time, none⟩
      | _ => none

end PluginBundle.Toml
