import PluginBundle.Decimal.Shortest

/-!
# Decimals rounded to so many digits

A double is written with a fixed number of places, with a fixed number of digits and an exponent, or
with whichever of the two is shorter. A tie goes to the even digit.
-/

namespace PluginBundle

/-- The nearest multiple of `10 ^ e`, as a number of such multiples. -/
def Ratio.nearest (r : Ratio) (e : Int) : Nat :=
  let s := r.shift e
  let below := s.num / s.den
  let rest := 2 * (s.num % s.den)
  if rest < s.den || (rest == s.den && below % 2 == 0) then below else below + 1

namespace Rounded

/-- A number of units in the place `places` behind the point, with the point in it. -/
def placed (n places : Nat) (keepPoint : Bool) : List Char :=
  let digits := Nat.toDigits 10 n
  let digits := List.replicate (places + 1 - digits.length) '0' ++ digits
  let whole := digits.take (digits.length - places)
  if places = 0 && !keepPoint then whole
  else whole ++ '.' :: digits.drop (digits.length - places)

/-- A positive double with so many places. -/
def fixed (b : BinaryFloat) (places : Nat) (keepPoint : Bool) : List Char :=
  placed ((Ratio.ofBinary b.mantissa b.exponent).nearest (-(places : Int))) places keepPoint

/-- The digits of a positive double, one in front of the point and so many behind it, and its
exponent. -/
def scientific (b : BinaryFloat) (places : Nat) : Nat × Int :=
  if b.mantissa = 0 then (0, 0)
  else
    let r := Ratio.ofBinary b.mantissa b.exponent
    let x := r.decimalExponent
    let n := r.nearest (x - places)
    -- Rounding up may bring one more digit.
    if (Nat.toDigits 10 n).length > places + 1 then (n / 10, x + 1) else (n, x)

/-- An exponent with its sign and at least two digits. -/
def exponentText (x : Int) : List Char :=
  let digits := Nat.toDigits 10 x.natAbs
  'e' :: (if x < 0 then '-' else '+') :: List.replicate (2 - digits.length) '0' ++ digits

/-- A positive double with an exponent. -/
def exponential (b : BinaryFloat) (places : Nat) (keepPoint : Bool) : List Char :=
  let (n, x) := scientific b places
  placed n places keepPoint ++ exponentText x

/-- The text without zeros at the end of its places, and without a point that nothing follows. -/
def trimmed (cs : List Char) : List Char :=
  if cs.contains '.' then
    let kept := cs.reverse.dropWhile (· == '0')
    (if kept.head? == some '.' then kept.drop 1 else kept).reverse
  else cs

/-- A positive double with so many digits, in the shorter of the two ways. -/
def general (b : BinaryFloat) (digits : Nat) (keepZeros : Bool) : List Char :=
  let digits := max 1 digits
  let (n, x) := scientific b (digits - 1)
  let cut (cs : List Char) := if keepZeros then cs else trimmed cs
  if x < -4 || x ≥ digits then cut (placed n (digits - 1) keepZeros) ++ exponentText x
  else cut (fixed b ((digits : Int) - 1 - x).toNat keepZeros)

end Rounded

end PluginBundle
