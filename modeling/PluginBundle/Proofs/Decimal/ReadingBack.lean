import Mathlib.Algebra.Order.Floor.Semifield
import Mathlib.Tactic.FieldSimp
import PluginBundle.Proofs.Decimal.Doubles

/-!
# The shortest decimal reads back

`Decimal.shortest` looks for a decimal in the interval around a double, with one digit more in each
round.  This module proves that it finds one, and so that what is written for a double goes to that
double again: `nearestDouble_shortest`.

The search works on fractions of natural numbers.  `Ratio.value` gives these their meaning, and
`contains_around_iff` says that the interval is the set of numbers around the double, as
`BinaryFloat.Covers` has it.  That seventeen digits suffice is `exists_onGrid`: on the grid of the
seventeenth digit one of the two neighbours of the double is nearer than any bound of the interval.
-/

namespace PluginBundle

/-! ## Fractions -/

namespace Ratio

/-- The number that the fraction stands for. -/
def value (r : Ratio) : ℚ := r.num / r.den

variable {r s : Ratio}

theorem lt_iff (hr : 0 < r.den) (hs : 0 < s.den) : r.lt s = true ↔ r.value < s.value := by
  have hr' : (0 : ℚ) < r.den := by exact_mod_cast hr
  have hs' : (0 : ℚ) < s.den := by exact_mod_cast hs
  rw [lt, decide_eq_true_eq, value, value, div_lt_div_iff₀ hr' hs']
  exact_mod_cast Iff.rfl

theorem le_iff (hr : 0 < r.den) (hs : 0 < s.den) : r.le s = true ↔ r.value ≤ s.value := by
  have hr' : (0 : ℚ) < r.den := by exact_mod_cast hr
  have hs' : (0 : ℚ) < s.den := by exact_mod_cast hs
  rw [le, decide_eq_true_eq, value, value, div_le_div_iff₀ hr' hs']
  exact_mod_cast Iff.rfl

theorem value_ofBinary (m : ℕ) (e : ℤ) : (ofBinary m e).value = m * 2 ^ e := by
  cases e with
  | ofNat k => simp [ofBinary, value]
  | negSucc k => simp [ofBinary, value, zpow_negSucc, div_eq_mul_inv]

theorem den_ofBinary_pos (m : ℕ) (e : ℤ) : 0 < (ofBinary m e).den := by
  cases e with
  | ofNat k => exact Nat.one_pos
  | negSucc k => exact Nat.pow_pos (by decide)

theorem value_shift (r : Ratio) (e : ℤ) : (r.shift e).value = r.value / 10 ^ e := by
  cases e with
  | ofNat k => simp [shift, value, div_div]
  | negSucc k => simp [shift, value, zpow_negSucc, div_mul_eq_mul_div]

theorem den_shift_pos (hr : 0 < r.den) (e : ℤ) : 0 < (r.shift e).den := by
  cases e with
  | ofNat k => exact Nat.mul_pos hr (Nat.pow_pos (by decide))
  | negSucc k => exact hr

/-- A number of the grid, as a fraction. -/
theorem value_shift_neg (n : ℕ) (e : ℤ) : (shift ⟨n, 1⟩ (-e)).value = n * 10 ^ e := by
  rw [value_shift, zpow_neg, div_inv_eq_mul]
  simp [value]

/-- A number has the digits that its size asks for. -/
theorem ten_zpow_length_le {n : ℕ} (hn : 0 < n) :
    (10 : ℚ) ^ (((Nat.toDigits 10 n).length : ℤ) - 1) ≤ n := by
  obtain hone | ⟨k, hlength⟩ : (Nat.toDigits 10 n).length = 1 ∨
      ∃ k, (Nat.toDigits 10 n).length = k + 2 := by
    have hpos : 0 < (Nat.toDigits 10 n).length := Nat.length_toDigits_pos
    by_cases hone : (Nat.toDigits 10 n).length = 1
    · exact .inl hone
    · exact .inr ⟨(Nat.toDigits 10 n).length - 2, by omega⟩
  · rw [hone, Nat.cast_one, sub_self, zpow_zero]
    exact_mod_cast hn
  · have hle : 10 ^ (k + 1) ≤ n := by
      rw [← Nat.not_lt, ← Nat.length_toDigits_le_iff (by decide) (Nat.succ_pos k), hlength]
      omega
    have hexponent : ((k + 2 : ℕ) : ℤ) - 1 = (k + 1 : ℕ) := by omega
    rw [hlength, hexponent, zpow_natCast]
    exact_mod_cast hle

theorem lt_ten_zpow_length (n : ℕ) : (n : ℚ) < 10 ^ ((Nat.toDigits 10 n).length : ℤ) := by
  have hlt := (Nat.length_toDigits_le_iff (by decide) Nat.length_toDigits_pos).1
    (Nat.le_refl (Nat.toDigits 10 n).length)
  rw [zpow_natCast]
  exact_mod_cast hlt

/-- A number has at least the power of ten that its exponent says. -/
theorem ten_zpow_decimalExponent_le (hnum : 0 < r.num) (hden : 0 < r.den) :
    (10 : ℚ) ^ r.decimalExponent ≤ r.value := by
  unfold decimalExponent
  set guess : ℤ := ((Nat.toDigits 10 r.num).length : ℤ) - (Nat.toDigits 10 r.den).length with hguess
  have hone : lt (r.shift guess) ⟨1, 1⟩ = true ↔ r.value / 10 ^ guess < 1 := by
    rw [lt_iff (den_shift_pos hden guess) Nat.one_pos, value_shift]
    simp [value]
  have hpos : (0 : ℚ) < 10 ^ guess := zpow_pos (by norm_num) guess
  have hden' : (0 : ℚ) < r.den := by exact_mod_cast hden
  simp only [hone]
  -- The lengths of the two parts give the exponent, or one too many.
  split
  · have hexponent : guess - 1 = ((Nat.toDigits 10 r.num).length : ℤ) - 1
        - (Nat.toDigits 10 r.den).length := by omega
    rw [hexponent, zpow_sub₀ (by norm_num), value]
    exact div_le_div₀ (Nat.cast_nonneg _) (ten_zpow_length_le hnum) hden'
      (lt_ten_zpow_length r.den).le
  · rename_i hlarge
    rw [not_lt, le_div_iff₀ hpos, one_mul] at hlarge
    exact hlarge

end Ratio

/-! ## The interval -/

open BinaryFloat

variable {b : BinaryFloat}

namespace BinaryFloat

theorem size_pos (hm : b.mantissa ≠ 0) : 0 < b.size :=
  mul_pos (by exact_mod_cast Nat.pos_of_ne_zero hm) (two_zpow_pos b.exponent)

/-- A double has fifty-three bits, so the way to the next one is not much shorter. -/
theorem size_lt_gap (hb : b.Canonical) : b.size < 2 ^ 53 * 2 ^ b.exponent :=
  mul_lt_mul_of_pos_right (by exact_mod_cast hb.mantissa_lt) (two_zpow_pos b.exponent)

theorem size_le_gapBelow (hb : b.Canonical) : b.size ≤ 2 ^ 54 * b.gapBelow := by
  unfold gapBelow
  split
  · rename_i hnarrow
    rw [size, (hb.narrow_iff.1 hnarrow).1]
    push_cast
    linarith
  · linarith [size_lt_gap hb]

/-- A number that differs from the double in the seventeenth digit by at most a half goes to it. -/
theorem covers_of_near (hb : b.Canonical) (hm : b.mantissa ≠ 0) {q step : ℚ}
    (hstep : 10 ^ 16 * step ≤ b.size) (hnear : |q - b.size| ≤ step / 2) : b.Covers q := by
  have hpos := size_pos hm
  have habove := size_lt_gap hb
  have hbelow := size_le_gapBelow hb
  obtain ⟨hlow, hhigh⟩ := abs_le.1 hnear
  have hlow : b.size - b.gapBelow < q := by linarith
  have hhigh : q < b.size + 2 ^ b.exponent / 2 := by linarith
  exact ⟨hlow.le, hhigh.le, .inr ⟨hlow, hhigh⟩⟩

end BinaryFloat

namespace Decimal

/-- The number that the decimal stands for. -/
def value (d : Decimal) : ℚ := d.significand * 10 ^ d.exponent

/-- The bounds of the interval are counted in quarters of a step. -/
theorem two_zpow_sub_two (e : ℤ) : (2 : ℚ) ^ (e - 2) = 2 ^ e / 4 := by
  rw [zpow_sub₀ (by norm_num)]
  norm_num

theorem value_lower_around (hm : b.mantissa ≠ 0) :
    (Interval.around b).lower.value = b.size - b.gapBelow := by
  have hcast : ((4 * b.mantissa - if b.narrowBelow then 1 else 2 : ℕ) : ℚ) =
      4 * b.mantissa - if b.narrowBelow then 1 else 2 := by
    split
    · rw [Nat.cast_sub (by omega)]
      push_cast
      rfl
    · rw [Nat.cast_sub (by omega)]
      push_cast
      rfl
  rw [Interval.around, Ratio.value_ofBinary, two_zpow_sub_two, hcast, gapBelow, size]
  split <;> ring

theorem value_upper_around (b : BinaryFloat) :
    (Interval.around b).upper.value = b.size + 2 ^ b.exponent / 2 := by
  rw [Interval.around, Ratio.value_ofBinary, two_zpow_sub_two, size]
  push_cast
  ring

/-- **The interval around a double** holds the numbers that go to it. -/
theorem contains_around_iff (hm : b.mantissa ≠ 0) {r : Ratio} (hr : 0 < r.den) :
    (Interval.around b).contains r = true ↔ b.Covers r.value := by
  have hlower : 0 < (Interval.around b).lower.den := Ratio.den_ofBinary_pos _ _
  have hupper : 0 < (Interval.around b).upper.den := Ratio.den_ofBinary_pos _ _
  have hclosed : (Interval.around b).closed = true ↔ Even b.mantissa := by
    rw [Interval.around, beq_iff_eq, Nat.even_iff]
  by_cases heven : Even b.mantissa
  · rw [Interval.contains, if_pos (hclosed.2 heven), Bool.and_eq_true, Ratio.le_iff hlower hr,
      Ratio.le_iff hr hupper, value_lower_around hm, value_upper_around]
    exact ⟨fun h => ⟨h.1, h.2, .inl heven⟩, fun h => ⟨h.low, h.high⟩⟩
  · rw [Interval.contains, if_neg fun h => heven (hclosed.1 h), Bool.and_eq_true,
      Ratio.lt_iff hlower hr, Ratio.lt_iff hr hupper, value_lower_around hm, value_upper_around]
    exact ⟨fun h => ⟨h.1.le, h.2.le, .inr h⟩, fun h => h.ends.resolve_left heven⟩

/-! ## The search -/

variable {i : Interval} {r : Ratio} {e : ℤ}

/-- What is found on a grid lies in the interval. -/
theorem contains_of_onGrid {n : ℕ} (h : onGrid i r e = some n) :
    n ≠ 0 ∧ i.contains (Ratio.shift ⟨n, 1⟩ (-e)) = true := by
  simp only [onGrid] at h
  split at h
  · rename_i hbelow habove
    rw [Bool.and_eq_true, bne_iff_ne] at hbelow
    split at h
    · cases h
      exact ⟨hbelow.2, hbelow.1⟩
    · cases h
      exact ⟨Nat.succ_ne_zero _, habove⟩
  · rename_i hbelow _
    rw [Bool.and_eq_true, bne_iff_ne] at hbelow
    cases h
    exact ⟨hbelow.2, hbelow.1⟩
  · cases h
    exact ⟨Nat.succ_ne_zero _, ‹_›⟩
  · cases h

/-- If a neighbour on the grid lies in the interval, one is found. -/
theorem exists_onGrid {n : ℕ} (hn : n ≠ 0)
    (hneighbour : n = (r.shift e).num / (r.shift e).den ∨
      n = (r.shift e).num / (r.shift e).den + 1)
    (hinside : i.contains (Ratio.shift ⟨n, 1⟩ (-e)) = true) : ∃ k, onGrid i r e = some k := by
  simp only [onGrid]
  split
  · split <;> exact ⟨_, rfl⟩
  · exact ⟨_, rfl⟩
  · exact ⟨_, rfl⟩
  · rename_i hbelow habove
    obtain rfl | rfl := hneighbour
    · rw [Bool.and_eq_false_iff, hinside] at hbelow
      simp [hn] at hbelow
    · rw [hinside] at habove
      cases habove

/-- The grid of the seventeenth digit is fine enough. -/
theorem exists_onGrid_of_fine (hb : b.Canonical) (hm : b.mantissa ≠ 0)
    (hfine : 10 ^ 16 * (10 : ℚ) ^ e ≤ b.size) :
    ∃ n, onGrid (.around b) (.ofBinary b.mantissa b.exponent) e = some n := by
  set s := (Ratio.ofBinary b.mantissa b.exponent).shift e with hs
  have hpos : (0 : ℚ) < 10 ^ e := zpow_pos (by norm_num) e
  have hvalue : s.value = b.size / 10 ^ e := by
    rw [hs, Ratio.value_shift, Ratio.value_ofBinary, size]
  have hfloor : s.num / s.den = ⌊s.value⌋₊ := (Nat.floor_div_eq_div (K := ℚ) s.num s.den).symm
  have hlarge : (10 : ℚ) ^ 16 ≤ s.value := by rwa [hvalue, le_div_iff₀ hpos]
  have hlow : ((s.num / s.den : ℕ) : ℚ) * 10 ^ e ≤ b.size := by
    rw [← le_div_iff₀ hpos, ← hvalue, hfloor]
    exact Nat.floor_le (by linarith)
  have hhigh : b.size < ((s.num / s.den : ℕ) + 1 : ℚ) * 10 ^ e := by
    rw [← div_lt_iff₀ hpos, ← hvalue, hfloor]
    exact Nat.lt_floor_add_one _
  have hcovers {n : ℕ} (hnear : |(n : ℚ) * 10 ^ e - b.size| ≤ 10 ^ e / 2) :
      (Interval.around b).contains (Ratio.shift ⟨n, 1⟩ (-e)) = true := by
    rw [contains_around_iff hm (Ratio.den_shift_pos Nat.one_pos _), Ratio.value_shift_neg]
    exact covers_of_near hb hm hfine hnear
  -- One of the two neighbours is at most half a step away.
  by_cases hside : b.size - ((s.num / s.den : ℕ) : ℚ) * 10 ^ e ≤ 10 ^ e / 2
  · refine exists_onGrid ?_ (.inl rfl) (hcovers ?_)
    · rw [hfloor]
      exact (Nat.floor_pos.2 (by linarith)).ne'
    · rw [abs_sub_comm, abs_of_nonneg (by linarith)]
      exact hside
  · refine exists_onGrid (Nat.succ_ne_zero _) (.inr rfl) (hcovers ?_)
    push_cast
    rw [abs_of_nonneg (by linarith)]
    linarith

/-- The search ends with what is found on one of its grids. -/
theorem contains_search {top : ℤ} {first more : ℕ}
    (h : ∃ k < more, ∃ n, onGrid i r (top - (first + k : ℕ) + 1) = some n) :
    (search i r top first more).significand ≠ 0 ∧
      i.contains (Ratio.shift ⟨(search i r top first more).significand, 1⟩
        (-(search i r top first more).exponent)) = true := by
  -- The rounds that are over move into `first`, so the hit comes one round nearer.
  induction more generalizing first with
  | zero =>
      obtain ⟨k, hk, -⟩ := h
      exact absurd hk (Nat.not_lt_zero k)
  | succ more ih =>
      rw [search]
      split
      · rename_i n hfound
        exact contains_of_onGrid hfound
      · rename_i hnone
        obtain ⟨k, hk, n, hn⟩ := h
        cases k with
        | zero =>
            rw [Nat.add_zero, hnone] at hn
            cases hn
        | succ k =>
            refine ih ⟨k, by omega, n, ?_⟩
            have hround : first + 1 + k = first + (k + 1) := by omega
            rwa [hround]

/-- The shortest decimal lies around its double. -/
theorem covers_shortest (hb : b.Canonical) (hm : b.mantissa ≠ 0) :
    (shortest b).significand ≠ 0 ∧ b.Covers (shortest b).value := by
  set r := Ratio.ofBinary b.mantissa b.exponent with hr
  have hnum : 0 < r.num := by
    cases hexponent : b.exponent with
    | ofNat k => simpa [hr, hexponent, Ratio.ofBinary] using Nat.pos_of_ne_zero hm
    | negSucc k => simpa [hr, hexponent, Ratio.ofBinary] using Nat.pos_of_ne_zero hm
  have hden : 0 < r.den := Ratio.den_ofBinary_pos _ _
  have hsize : r.value = b.size := Ratio.value_ofBinary _ _
  have hfine : 10 ^ 16 * (10 : ℚ) ^ (r.decimalExponent - (1 + 16 : ℕ) + 1) ≤ b.size := by
    have hexponent : r.decimalExponent - (1 + 16 : ℕ) + 1 = r.decimalExponent - 16 := by
      push_cast
      ring
    rw [hexponent, zpow_sub₀ (by norm_num), ← hsize]
    refine le_of_eq_of_le ?_ (Ratio.ten_zpow_decimalExponent_le hnum hden)
    norm_cast
    field_simp
  have hfound : ∃ k < 17, ∃ n,
      onGrid (.around b) r (r.decimalExponent - (1 + k : ℕ) + 1) = some n :=
    ⟨16, by decide, exists_onGrid_of_fine hb hm hfine⟩
  obtain ⟨hsignificand, hinside⟩ := contains_search hfound
  rw [contains_around_iff hm (Ratio.den_shift_pos Nat.one_pos _), Ratio.value_shift_neg] at hinside
  exact ⟨hsignificand, hinside⟩

/-- **The shortest decimal of a double goes to that double.** -/
theorem nearestDouble_shortest (hb : b.Canonical) (hm : b.mantissa ≠ 0) :
    nearestDouble (shortest b).value = b.size :=
  nearestDouble_of_covers hb hm (covers_shortest hb hm).2

end Decimal

end PluginBundle
