/-!
# Sets of code points

A property of characters is kept as the ascending list of the ranges that have it. Membership is
the only operation; the tables themselves stand in the modules named for their property.
-/

namespace PluginBundle

/-- A set of code points as closed ranges `(first, last)` in ascending order. -/
structure CodeRanges where
  ranges : List (Nat × Nat)

namespace CodeRanges

/-- Some range of the set holds the character. -/
def contains (s : CodeRanges) (c : Char) : Bool :=
  s.ranges.any fun r => r.1 ≤ c.toNat && c.toNat ≤ r.2

theorem contains_iff (s : CodeRanges) (c : Char) :
    s.contains c = true ↔ ∃ r ∈ s.ranges, r.1 ≤ c.toNat ∧ c.toNat ≤ r.2 := by
  simp [contains]

end CodeRanges

end PluginBundle
