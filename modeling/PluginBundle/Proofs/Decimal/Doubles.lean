import Mathlib.Algebra.Order.Field.Power
import Mathlib.Data.Int.Log
import Mathlib.Data.Rat.Floor
import Mathlib.Tactic.Linarith
import Mathlib.Tactic.NormNum
import Mathlib.Tactic.Positivity
import Mathlib.Tactic.Ring
import PluginBundle.Decimal.Shortest

/-!
# Doubles as rational numbers

What a numeral of the script comes to is the double nearest to it.  `nearestDouble` says which one
that is for a rational number that is not negative: `stepExponent` tells how far apart the doubles
lie there, and of two that are as near the one with the even mantissa is taken.  Exponents are not
bounded above; whether a number is too large for a double is asked by who uses it.

* `nearestDouble_eq_self_iff` – the numbers that are kept are the doubles.
* `nearestDouble_of_covers` – all numbers around a double, half of the way to its neighbours, go to
  that double.  What is around a double is said by its fields, as they are stored, and
  `nearestDouble` knows nothing of these, so this ties the two together.
-/

namespace PluginBundle

/-! ## Rounding -/

/-- The whole number nearest to `y`; of two that are as near, the even one. -/
def roundHalfEven (y : ℚ) : ℤ :=
  if y - ⌊y⌋ < 1 / 2 ∨ (y - ⌊y⌋ = 1 / 2 ∧ Even ⌊y⌋) then ⌊y⌋ else ⌊y⌋ + 1

/-- The doubles around `q` are the multiples of two to this power: fifty-three bits from the first
bit of `q` on, but none below the smallest double. -/
def stepExponent (q : ℚ) : ℤ := max (Int.log 2 q - 52) (-1074)

/-- The double nearest to a number that is not negative; of two that are as near, the even one. -/
def nearestDouble (q : ℚ) : ℚ := roundHalfEven (q / 2 ^ stepExponent q) * 2 ^ stepExponent q

/-- The number is a mantissa of fifty-three bits times a power of two. -/
def IsDouble (q : ℚ) : Prop := ∃ (m : ℕ) (e : ℤ), m < 2 ^ 53 ∧ -1074 ≤ e ∧ q = m * 2 ^ e

/-- A number within half of a whole one goes to that one, with its end if the whole one is even. -/
theorem roundHalfEven_eq {y : ℚ} {n : ℤ}
    (h : |y - n| < 1 / 2 ∨ (|y - n| = 1 / 2 ∧ Even n)) : roundHalfEven y = n := by
  have hnear : |y - n| ≤ 1 / 2 := h.elim le_of_lt fun h => h.1.le
  obtain ⟨hlow, hhigh⟩ := abs_le.1 hnear
  -- The whole number is the one below or the one above.
  by_cases hside : (n : ℚ) ≤ y
  · have hfloor : ⌊y⌋ = n := Int.floor_eq_iff.2 ⟨hside, by linarith⟩
    have hcond : y - n < 1 / 2 ∨ (y - n = 1 / 2 ∧ Even n) := by
      rwa [abs_of_nonneg (by linarith)] at h
    rw [roundHalfEven, hfloor, if_pos hcond]
  · have hbelow : y < n := not_le.1 hside
    have hfloor : ⌊y⌋ = n - 1 := Int.floor_eq_iff.2 ⟨by push_cast; linarith, by push_cast; linarith⟩
    have hcond : ¬(y - ((n - 1 : ℤ) : ℚ) < 1 / 2 ∨
        (y - ((n - 1 : ℤ) : ℚ) = 1 / 2 ∧ Even (n - 1))) := by
      push_cast
      rintro (hless | ⟨hhalf, heven⟩)
      · linarith
      · -- Half way to an odd number: then the number above must be even.
        have htie : |y - n| = 1 / 2 := by rw [abs_of_neg (by linarith)]; linarith
        have hn : Even n := h.elim (fun hlt => absurd htie hlt.ne) fun h => h.2
        exact (Int.even_sub_one.1 heven) hn
    rw [roundHalfEven, hfloor, if_neg hcond]
    omega

@[simp] theorem roundHalfEven_intCast (n : ℤ) : roundHalfEven n = n :=
  roundHalfEven_eq (.inl (by norm_num))

theorem roundHalfEven_le (y : ℚ) : (roundHalfEven y : ℚ) ≤ y + 1 / 2 := by
  have hfloor := Int.floor_le y
  unfold roundHalfEven
  split
  · linarith
  · rename_i hcond
    push_cast
    linarith [not_lt.1 (not_or.1 hcond).1]

theorem roundHalfEven_nonneg {y : ℚ} (hy : 0 ≤ y) : 0 ≤ roundHalfEven y := by
  have hfloor : 0 ≤ ⌊y⌋ := Int.floor_nonneg.2 hy
  unfold roundHalfEven
  split <;> omega

/-! ## The nearest double -/

theorem two_zpow_pos (e : ℤ) : (0 : ℚ) < 2 ^ e := zpow_pos (by norm_num) e

theorem le_stepExponent (q : ℚ) : -1074 ≤ stepExponent q := le_max_right _ _

/-- A number has at most fifty-three bits in front of its step. -/
theorem lt_two_zpow_stepExponent (q : ℚ) : q < 2 ^ (stepExponent q + 53) := by
  have hlog : q < 2 ^ (Int.log 2 q + 1) := by
    exact_mod_cast Int.lt_zpow_succ_log_self (b := 2) (by norm_num) q
  refine hlog.trans_le (zpow_le_zpow_right₀ (by norm_num) ?_)
  have hstep : Int.log 2 q - 52 ≤ stepExponent q := le_max_left _ _
  omega

/-- A number with fewer bits in front of a step has at most that step. -/
theorem stepExponent_le {q : ℚ} (hq : 0 < q) {e : ℤ} (he : -1074 ≤ e) (hlt : q < 2 ^ (e + 53)) :
    stepExponent q ≤ e := by
  have hlog : Int.log 2 q < e + 53 := by
    rw [← Int.lt_zpow_iff_log_lt (b := 2) (by norm_num) hq]
    exact_mod_cast hlt
  exact max_le (by omega) he

/-- A number of fifty-three bits in front of a step has at least that step. -/
theorem le_stepExponent_of_le {q : ℚ} (hq : 0 < q) {e : ℤ} (hle : 2 ^ (e + 52) ≤ q) :
    e ≤ stepExponent q := by
  have hlog : e + 52 ≤ Int.log 2 q := by
    rw [← Int.zpow_le_iff_le_log (b := 2) (by norm_num) hq]
    exact_mod_cast hle
  exact le_max_of_le_left (by omega)

/-- The nearest double of a number whose step is known, next to a multiple of that step. -/
theorem nearestDouble_of_step {q : ℚ} {n e : ℤ} (hstep : stepExponent q = e)
    (h : |q - n * 2 ^ e| < 2 ^ e / 2 ∨ (|q - n * 2 ^ e| = 2 ^ e / 2 ∧ Even n)) :
    nearestDouble q = n * 2 ^ e := by
  have hpos := two_zpow_pos e
  have hscale : |q / 2 ^ e - n| = |q - n * 2 ^ e| / 2 ^ e := by
    rw [← abs_of_pos hpos, ← abs_div, abs_of_pos hpos, sub_div, mul_div_cancel_right₀ _ hpos.ne']
  have hnear : |q / 2 ^ e - n| < 1 / 2 ∨ (|q / 2 ^ e - n| = 1 / 2 ∧ Even n) := by
    rw [hscale, div_lt_iff₀ hpos, div_eq_iff hpos.ne']
    have hhalf : (1 / 2 : ℚ) * 2 ^ e = 2 ^ e / 2 := by ring
    rwa [hhalf]
  rw [nearestDouble, hstep, roundHalfEven_eq hnear]

theorem nearestDouble_zero : nearestDouble 0 = 0 := by
  have hround : roundHalfEven 0 = 0 := roundHalfEven_intCast 0
  rw [nearestDouble, zero_div, hround, Int.cast_zero, zero_mul]

/-- A double is a multiple of the step around it. -/
theorem nearestDouble_of_isDouble {q : ℚ} (h : IsDouble q) : nearestDouble q = q := by
  obtain ⟨m, e, hm, he, rfl⟩ := h
  have hpos := two_zpow_pos e
  obtain rfl | hmpos := Nat.eq_zero_or_pos m
  · rw [Nat.cast_zero, zero_mul, nearestDouble_zero]
  · have hq : (0 : ℚ) < m * 2 ^ e := mul_pos (by exact_mod_cast hmpos) hpos
    have hlt : (m : ℚ) * 2 ^ e < 2 ^ (e + 53) := by
      rw [zpow_add₀ (by norm_num), mul_comm]
      exact mul_lt_mul_of_pos_left (by exact_mod_cast hm) hpos
    -- The step is at most the power of two that the double has, so it goes into the double.
    have hstep := stepExponent_le hq he hlt
    obtain ⟨k, hk⟩ := Int.le.dest hstep
    have hmultiple : (m : ℚ) * 2 ^ e =
        ((m * 2 ^ k : ℤ) : ℚ) * 2 ^ stepExponent ((m : ℚ) * 2 ^ e) := by
      conv_lhs => rw [← hk, zpow_add₀ (by norm_num), zpow_natCast]
      push_cast
      ring
    have hself := nearestDouble_of_step (q := (m : ℚ) * 2 ^ e) (n := m * 2 ^ k) rfl
      (.inl (by rw [← hmultiple, sub_self, abs_zero]; exact half_pos (two_zpow_pos _)))
    rw [hself, ← hmultiple]

/-- **The numbers that rounding keeps** are the doubles. -/
theorem nearestDouble_eq_self_iff {q : ℚ} (hq : 0 ≤ q) : nearestDouble q = q ↔ IsDouble q := by
  refine ⟨fun h => ?_, nearestDouble_of_isDouble⟩
  have hpos := two_zpow_pos (stepExponent q)
  have hnonneg : 0 ≤ roundHalfEven (q / 2 ^ stepExponent q) :=
    roundHalfEven_nonneg (div_nonneg hq hpos.le)
  obtain ⟨m, hm⟩ := Int.eq_ofNat_of_zero_le hnonneg
  have hvalue : q = m * 2 ^ stepExponent q := by
    conv_lhs => rw [← h]
    rw [nearestDouble, hm, Int.cast_natCast]
  refine ⟨m, stepExponent q, ?_, le_stepExponent q, hvalue⟩
  have hlt : (m : ℚ) * 2 ^ stepExponent q < 2 ^ (53 : ℤ) * 2 ^ stepExponent q := by
    rw [← hvalue, ← zpow_add₀ (by norm_num), add_comm]
    exact lt_two_zpow_stepExponent q
  exact_mod_cast lt_of_mul_lt_mul_right hlt hpos.le

/-- Rounding does not lead far up. -/
theorem nearestDouble_le {q : ℚ} (hq : 0 < q) : nearestDouble q ≤ 2 * q + 1 := by
  have hpos := two_zpow_pos (stepExponent q)
  -- The step is no longer than the number, or it is the least one.
  have hstep : (2 : ℚ) ^ stepExponent q ≤ q + 1 := by
    obtain hlog | hleast := max_choice (Int.log 2 q - 52) (-1074)
    · have hle : (2 : ℚ) ^ Int.log 2 q ≤ q := by
        exact_mod_cast Int.zpow_log_le_self (b := 2) (by norm_num) hq
      have hless : (2 : ℚ) ^ (Int.log 2 q - 52) ≤ 2 ^ Int.log 2 q :=
        zpow_le_zpow_right₀ (by norm_num) (by omega)
      rw [stepExponent, hlog]
      linarith
    · have hone : (2 : ℚ) ^ (-1074 : ℤ) ≤ 1 := zpow_le_one_of_nonpos₀ (by norm_num) (by norm_num)
      rw [stepExponent, hleast]
      linarith
  have hround := mul_le_mul_of_nonneg_right (roundHalfEven_le (q / 2 ^ stepExponent q)) hpos.le
  rw [add_mul, div_mul_cancel₀ _ hpos.ne'] at hround
  rw [nearestDouble]
  linarith

/-! ## The interval around a double -/

namespace BinaryFloat

/-- The number that the fields stand for. -/
def size (b : BinaryFloat) : ℚ := b.mantissa * 2 ^ b.exponent

/-- Fields as a double has them: the mantissa is as long as it can be, and half a step is nearer
below where the mantissa is the least of its length. -/
structure Canonical (b : BinaryFloat) : Prop where
  mantissa_lt : b.mantissa < 2 ^ 53
  exponent_ge : -1074 ≤ b.exponent
  full : b.exponent = -1074 ∨ 2 ^ 52 ≤ b.mantissa
  narrow_iff : b.narrowBelow = true ↔ b.mantissa = 2 ^ 52 ∧ -1074 < b.exponent

theorem canonical_ofBits (bits : UInt64) : (ofBits bits).Canonical := by
  have hfraction : bits.toNat % hiddenBit < 2 ^ 52 := Nat.mod_lt _ (by decide)
  have hhidden : hiddenBit = 2 ^ 52 := by decide
  unfold ofBits
  by_cases hfield : bits.toNat / hiddenBit % 2048 = 0
  · simp only [hfield, if_true]
    exact ⟨by simp only; omega, by simp, .inl rfl, by simp⟩
  · simp only [hfield, if_false]
    refine ⟨?_, ?_, .inr ?_, ?_⟩
    · simp only
      omega
    · simp only
      omega
    · simp only
      omega
    · simp only [Bool.and_eq_true, beq_iff_eq, bne_iff_ne]
      omega

variable {b : BinaryFloat}

theorem isDouble_size (hb : b.Canonical) : IsDouble b.size :=
  ⟨b.mantissa, b.exponent, hb.mantissa_lt, hb.exponent_ge, rfl⟩

/-- Half of the way down to the double below. -/
def gapBelow (b : BinaryFloat) : ℚ :=
  if b.narrowBelow then 2 ^ b.exponent / 4 else 2 ^ b.exponent / 2

theorem gapBelow_le (b : BinaryFloat) : b.gapBelow ≤ 2 ^ b.exponent / 2 := by
  have hpos := two_zpow_pos b.exponent
  unfold gapBelow
  split <;> linarith

/-- The numbers nearer to the double than to its neighbours; those half way to a neighbour are among
them if the mantissa is even. -/
structure Covers (b : BinaryFloat) (q : ℚ) : Prop where
  low : b.size - b.gapBelow ≤ q
  high : q ≤ b.size + 2 ^ b.exponent / 2
  ends : Even b.mantissa ∨ (b.size - b.gapBelow < q ∧ q < b.size + 2 ^ b.exponent / 2)

/-- Half a step is the bound, but below a double with a nearer neighbour there. -/
theorem Covers.near {q : ℚ} (h : b.Covers q) (hside : b.narrowBelow = false ∨ b.size ≤ q) :
    |q - b.size| < 2 ^ b.exponent / 2 ∨ (|q - b.size| = 2 ^ b.exponent / 2 ∧ Even b.mantissa) := by
  have hpos := two_zpow_pos b.exponent
  have hle : |q - b.size| ≤ 2 ^ b.exponent / 2 :=
    abs_le.2 ⟨by linarith [h.low, b.gapBelow_le], by linarith [h.high]⟩
  obtain heven | ⟨hlow, hhigh⟩ := h.ends
  · exact hle.lt_or_eq.imp id fun heq => ⟨heq, heven⟩
  · have hlow : b.size - 2 ^ b.exponent / 2 < q := by
      obtain hwide | habove := hside
      · simpa [gapBelow, hwide] using hlow
      · linarith
    exact .inl (abs_lt.2 ⟨by linarith, by linarith⟩)

/-- Below the least double of its length the step is half as long. -/
theorem nearestDouble_below (hb : b.Canonical) {q : ℚ} (h : b.Covers q)
    (hnarrow : b.narrowBelow = true) (hbelow : q < b.size) : nearestDouble q = b.size := by
  obtain ⟨hm, he⟩ := hb.narrow_iff.1 hnarrow
  have hpos := two_zpow_pos (b.exponent - 1)
  have hdouble : (2 : ℚ) ^ b.exponent = 2 * 2 ^ (b.exponent - 1) := by
    rw [zpow_sub_one₀ (by norm_num)]
    ring
  have hsize : b.size = 2 ^ (53 : ℤ) * 2 ^ (b.exponent - 1) := by
    rw [size, hm, hdouble]
    norm_num
    ring
  -- A quarter of the step of the double is half of the step below it.
  have hlow : b.size - 2 ^ (b.exponent - 1) / 2 ≤ q := by
    have hgap : b.gapBelow = 2 ^ (b.exponent - 1) / 2 := by
      rw [gapBelow, hnarrow, if_pos rfl, hdouble]
      ring
    rw [← hgap]
    exact h.low
  have hstep : stepExponent q = b.exponent - 1 := by
    have hq : 0 < q := by linarith
    refine le_antisymm (stepExponent_le hq (by omega) ?_) (le_stepExponent_of_le hq ?_)
    · rwa [add_comm, zpow_add₀ (by norm_num), ← hsize]
    · rw [add_comm, zpow_add₀ (by norm_num)]
      linarith
  have hmultiple : b.size = ((2 ^ 53 : ℤ) : ℚ) * 2 ^ (b.exponent - 1) := by
    rw [hsize]
    norm_cast
  have hnear : |q - ((2 ^ 53 : ℤ) : ℚ) * 2 ^ (b.exponent - 1)| ≤ 2 ^ (b.exponent - 1) / 2 := by
    rw [← hmultiple, abs_of_neg (by linarith)]
    linarith
  rw [nearestDouble_of_step hstep (hnear.lt_or_eq.imp id fun heq => ⟨heq, by decide⟩), hmultiple]

/-- Of the mantissas of full length only the least one has numbers below that are shorter. -/
theorem Canonical.le_of_covers (hb : b.Canonical) {q : ℚ} (h : b.Covers q)
    (hleast : b.exponent ≠ -1074) (hside : b.narrowBelow = false ∨ b.size ≤ q) :
    2 ^ (b.exponent + 52) ≤ q := by
  have hpos := two_zpow_pos b.exponent
  have hfull : 2 ^ 52 ≤ b.mantissa := hb.full.resolve_left hleast
  rw [add_comm, zpow_add₀ (by norm_num)]
  obtain hwide | habove := hside
  · have hmore : 2 ^ 52 + 1 ≤ b.mantissa := by
      have hnarrow := hb.narrow_iff
      have hexponent := hb.exponent_ge
      rw [hwide] at hnarrow
      have hother : b.mantissa ≠ 2 ^ 52 := fun hm => by
        simpa using hnarrow.2 ⟨hm, by omega⟩
      omega
    have hmantissa : (2 : ℚ) ^ (52 : ℤ) + 1 ≤ b.mantissa := by exact_mod_cast hmore
    have hbound := mul_le_mul_of_nonneg_right hmantissa hpos.le
    have hlow := h.low
    rw [size] at hlow
    linarith [b.gapBelow_le]
  · have hmantissa : (2 : ℚ) ^ (52 : ℤ) ≤ b.mantissa := by exact_mod_cast hfull
    exact (mul_le_mul_of_nonneg_right hmantissa hpos.le).trans habove

/-- **All numbers around a double go to it.** -/
theorem nearestDouble_of_covers (hb : b.Canonical) (hm : b.mantissa ≠ 0) {q : ℚ} (h : b.Covers q) :
    nearestDouble q = b.size := by
  by_cases hbelow : b.narrowBelow = true ∧ q < b.size
  · exact nearestDouble_below hb h hbelow.1 hbelow.2
  have hside : b.narrowBelow = false ∨ b.size ≤ q := by
    rwa [not_and_or, Bool.not_eq_true, not_lt] at hbelow
  have hpos := two_zpow_pos b.exponent
  have hnear := h.near hside
  have hone : 2 ^ b.exponent ≤ b.size :=
    le_mul_of_one_le_left hpos.le (by exact_mod_cast Nat.one_le_iff_ne_zero.2 hm)
  have hq : 0 < q := by linarith [h.low, b.gapBelow_le]
  have hstep : stepExponent q = b.exponent := by
    refine le_antisymm (stepExponent_le hq hb.exponent_ge ?_) ?_
    · have hmantissa : (b.mantissa : ℚ) + 1 ≤ 2 ^ (53 : ℤ) := by exact_mod_cast hb.mantissa_lt
      have hbound := mul_le_mul_of_nonneg_right hmantissa hpos.le
      have hhigh := h.high
      rw [size] at hhigh
      rw [add_comm, zpow_add₀ (by norm_num)]
      linarith
    · by_cases hleast : b.exponent = -1074
      · rw [hleast]
        exact le_stepExponent q
      · exact le_stepExponent_of_le hq (hb.le_of_covers h hleast hside)
  rw [nearestDouble_of_step (n := b.mantissa) hstep
    (by simpa only [size, Int.cast_natCast, Int.even_coe_nat] using hnear)]
  rw [Int.cast_natCast, size]

end BinaryFloat

end PluginBundle
