import PluginBundle.Decimal.Shortest

/-!
# The text of a floating-point number

A finite double is written with the shortest digits that read back. Where its decimal exponent is
small the point stands at its place, and elsewhere behind the first digit with an exponent after it.
-/

namespace PluginBundle

/-- How a decimal is laid out as text. -/
structure FloatLayout where
  /-- The decimal exponents that are written with the point at its place. -/
  positionalFrom : Int
  positionalTo : Int
  /-- What stands before a positive exponent. -/
  positiveSign : String

/-- The layout of numbers in JSON: positional from `0.00001` to below `1e16`. -/
def FloatLayout.json : FloatLayout := ⟨-5, 15, "+"⟩

namespace Decimal

/-- The digits without zeros at the end, and the exponent of the first one. -/
def scientific (d : Decimal) : List Char × Int :=
  let digits := Nat.toDigits 10 d.significand
  let kept := (digits.reverse.dropWhile (· == '0')).reverse
  (kept, d.exponent + digits.length - 1)

/-- The decimal as text: digits, a point, and an exponent where the layout asks for one. -/
def layOut (layout : FloatLayout) (d : Decimal) : String :=
  let (digits, x) := d.scientific
  if layout.positionalFrom ≤ x && x ≤ layout.positionalTo then
    if x < 0 then
      "0." ++ String.ofList (List.replicate (-x - 1).toNat '0' ++ digits)
    else
      let whole := x.toNat + 1
      let front := digits.take whole
      let back := digits.drop whole
      String.ofList (front ++ List.replicate (whole - front.length) '0')
        ++ "." ++ (if back.isEmpty then "0" else String.ofList back)
  else
    let head := String.ofList (digits.take 1)
    let tail := digits.drop 1
    head ++ (if tail.isEmpty then "" else "." ++ String.ofList tail) ++ "e"
      ++ (if x < 0 then "-" else layout.positiveSign) ++ Nat.repr x.natAbs

end Decimal

/-- The highest bit of a double, which is set in negative ones. -/
def signBit : Nat := 9223372036854775808

/-- The text of a finite double. -/
def floatText (layout : FloatLayout) (x : Float) : String :=
  let bits := x.toBits
  let sign := if bits.toNat < signBit then "" else "-"
  let b := BinaryFloat.ofBits (bits &&& 0x7FFFFFFFFFFFFFFF)
  sign ++ if b.mantissa = 0 then "0.0" else (Decimal.shortest b).layOut layout

end PluginBundle
