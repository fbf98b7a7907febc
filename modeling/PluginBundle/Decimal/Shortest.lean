/-!
# The shortest decimal that reads back

A positive double is `mantissa * 2 ^ exponent`. The real numbers that round to it form an interval,
which holds its ends exactly when the mantissa is even. Of the decimals in that interval the one
with the fewest digits is chosen, and of those the one nearest to the double; an exact tie goes to
the even digit. All arithmetic is on natural numbers. How the digits are laid out as text is no
concern of this module.
-/

namespace PluginBundle

/-- The number `significand * 10 ^ exponent`. -/
structure Decimal where
  significand : Nat
  exponent : Int
  deriving DecidableEq, Repr

/-- A positive double as `mantissa * 2 ^ exponent`. -/
structure BinaryFloat where
  mantissa : Nat
  exponent : Int
  /-- The double below is half a step nearer than the one above. -/
  narrowBelow : Bool
  deriving DecidableEq, Repr

namespace BinaryFloat

/-- The bit above the fraction, which is one in all but the smallest doubles and is not stored. -/
def hiddenBit : Nat := 4503599627370496

/-- The fields of a finite double without its sign: a fraction of fifty-two bits and an exponent of
eleven. -/
def ofBits (bits : UInt64) : BinaryFloat :=
  let fraction : Nat := bits.toNat % hiddenBit
  let field : Nat := bits.toNat / hiddenBit % 2048
  -- The smallest doubles have no hidden bit and the step of the next larger ones.
  if field = 0 then ⟨fraction, -1074, false⟩
  else ⟨hiddenBit + fraction, (field : Int) - 1075, fraction == 0 && field != 1⟩

end BinaryFloat

/-- A positive rational number. -/
structure Ratio where
  num : Nat
  den : Nat

namespace Ratio

/-- `m * 2 ^ e`. -/
def ofBinary (m : Nat) (e : Int) : Ratio :=
  match e with
  | .ofNat k => ⟨m * Nat.pow 2 k, 1⟩
  | .negSucc k => ⟨m, Nat.pow 2 (k + 1)⟩

/-- The number divided by `10 ^ e`. -/
def shift (r : Ratio) (e : Int) : Ratio :=
  match e with
  | .ofNat k => ⟨r.num, r.den * Nat.pow 10 k⟩
  | .negSucc k => ⟨r.num * Nat.pow 10 (k + 1), r.den⟩

def lt (r s : Ratio) : Bool := r.num * s.den < s.num * r.den

def le (r s : Ratio) : Bool := r.num * s.den ≤ s.num * r.den

/-- The exponent `x` with `10 ^ x ≤ r < 10 ^ (x + 1)`. -/
def decimalExponent (r : Ratio) : Int :=
  -- The lengths give the exponent, or one more than it.
  let guess : Int := ((Nat.toDigits 10 r.num).length : Int) - (Nat.toDigits 10 r.den).length
  if lt (r.shift guess) ⟨1, 1⟩ then guess - 1 else guess

end Ratio

namespace Decimal

/-- The real numbers that round to a double. -/
structure Interval where
  lower : Ratio
  upper : Ratio
  closed : Bool

def Interval.contains (i : Interval) (r : Ratio) : Bool :=
  if i.closed then i.lower.le r && r.le i.upper else i.lower.lt r && r.lt i.upper

/-- Everything nearer to the double than to its neighbours. -/
def Interval.around (b : BinaryFloat) : Interval where
  -- Quarters of a step, so that half a step below a power of two is still whole.
  lower := .ofBinary (4 * b.mantissa - if b.narrowBelow then 1 else 2) (b.exponent - 2)
  upper := .ofBinary (4 * b.mantissa + 2) (b.exponent - 2)
  closed := b.mantissa % 2 == 0

/-- The neighbour of `r` on the grid of multiples of `10 ^ e` that lies in the interval: the nearer
one where both do, the even one where both are as near. -/
def onGrid (i : Interval) (r : Ratio) (e : Int) : Option Nat :=
  let s := r.shift e
  let below := s.num / s.den
  -- If any point of the grid lies in the interval, one of these two does.
  let inside (n : Nat) := i.contains (Ratio.shift ⟨n, 1⟩ (-e))
  let rest := 2 * (s.num % s.den)
  match inside below && below != 0, inside (below + 1) with
  | true, true =>
      if rest < s.den || (rest == s.den && below % 2 == 0) then some below else some (below + 1)
  | true, false => some below
  | false, true => some (below + 1)
  | false, false => none

/-- Tries `first` digits, then one more at a time. -/
def search (i : Interval) (r : Ratio) (top : Int) (first : Nat) : Nat → Decimal
  -- Not reached, since seventeen digits always suffice.
  | 0 => ⟨(r.shift (top - 16)).num / (r.shift (top - 16)).den, top - 16⟩
  | more + 1 =>
      let e := top - first + 1
      match onGrid i r e with
      | some n => ⟨n, e⟩
      | none => search i r top (first + 1) more

/-- The shortest decimal that reads back as the double; seventeen digits always suffice. -/
def shortest (b : BinaryFloat) : Decimal :=
  let r := Ratio.ofBinary b.mantissa b.exponent
  search (.around b) r r.decimalExponent 1 17

end Decimal

end PluginBundle
