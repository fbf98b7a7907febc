/-!
# Spans of time

A span is a number of nanoseconds. It is shown in the largest unit of which it holds at least one,
with the rest as a fraction without zeros at its end.
-/

namespace PluginBundle

/-- A span of time in nanoseconds. -/
structure Duration where
  nanos : Nat
  deriving DecidableEq, Repr

namespace Duration

def ofSeconds (n : Nat) : Duration := ⟨n * 1000000000⟩

def ofMillis (n : Nat) : Duration := ⟨n * 1000000⟩

instance : LE Duration := ⟨fun a b => a.nanos ≤ b.nanos⟩

instance (a b : Duration) : Decidable (a ≤ b) := inferInstanceAs (Decidable (a.nanos ≤ b.nanos))

/-- `n` in units of `10 ^ places`, with a fraction where it is not whole. -/
def decimalText (n places : Nat) : String :=
  let whole := n / Nat.pow 10 places
  let rest := n % Nat.pow 10 places
  if rest = 0 then Nat.repr whole
  else
    let digits := Nat.toDigits 10 rest
    let padded := List.replicate (places - digits.length) '0' ++ digits
    Nat.repr whole ++ "." ++ String.ofList (padded.reverse.dropWhile (· == '0')).reverse

/-- The span as messages show it. -/
def text (d : Duration) : String :=
  if d.nanos ≥ 1000000000 then decimalText d.nanos 9 ++ "s"
  else if d.nanos ≥ 1000000 then decimalText d.nanos 6 ++ "ms"
  else if d.nanos ≥ 1000 then decimalText d.nanos 3 ++ "µs"
  else Nat.repr d.nanos ++ "ns"

end Duration

end PluginBundle
