import Mathlib.Data.List.TakeWhile
import PluginBundle.Proofs.Decimal.ReadingBack
import PluginBundle.Proofs.Json.RoundTrip

/-!
# Numerals of the script

The text of a JSON number is a numeral of the script, and what it comes to is the double nearest to
what it spells.  `numeral?` says what a numeral spells: its sign, and the exact number of its
digits, its point and its exponent.

`exists_numeral?_text` reads the text of every JSON number.  A whole number is spelled exactly.  A
float is spelled by its shortest decimal, and this goes to the float: `nearestDouble_shortest`.

Numerals are read in the form that they have in JSON.  In the script they may also end in a point,
start with one, or have another base; such a text is not read here.
-/

namespace PluginBundle

/-! ## Reading numerals -/

namespace Numeral

/-- The digits in front of a text, of which there must be some, and the text behind them. -/
def spanDigits? (cs : List Char) : Option (List Char × List Char) :=
  if (cs.takeWhile Char.isDigit).isEmpty then none
  else some (cs.takeWhile Char.isDigit, cs.dropWhile Char.isDigit)

/-- The digits behind a point, if there is a point. -/
def spanFraction? : List Char → Option (List Char × List Char)
  | '.' :: cs => spanDigits? cs
  | cs => some ([], cs)

/-- The number of a text that is all digits. -/
def natural? (cs : List Char) : Option ℕ :=
  match spanDigits? cs with
  | some (digits, []) => some (Nat.ofDigitChars 10 digits 0)
  | _ => none

/-- An exponent at the end of a numeral, which may have a sign, or nothing. -/
def exponent? : List Char → Option ℤ
  | [] => some 0
  | c :: cs =>
      if c = 'e' ∨ c = 'E' then
        match cs with
        | '+' :: digits => (natural? digits).map Int.ofNat
        | '-' :: digits => (natural? digits).map fun n => -(n : ℤ)
        | digits => (natural? digits).map Int.ofNat
      else none

/-- What digits spell with a point in front of the last ones and an exponent. -/
def spelled (whole fraction : List Char) (exponent : ℤ) : ℚ :=
  Nat.ofDigitChars 10 (whole ++ fraction) 0 * 10 ^ (exponent - fraction.length)

/-- A numeral without a sign.  In front of the point a zero stands alone. -/
def decimal? (cs : List Char) : Option ℚ := do
  let (whole, cs) ← spanDigits? cs
  let (fraction, cs) ← spanFraction? cs
  let exponent ← exponent? cs
  if whole.head? = some '0' ∧ whole ≠ ['0'] then none else some (spelled whole fraction exponent)

end Numeral

/-- What a numeral spells: whether it has a minus, and the number behind it. -/
def numeral? : List Char → Option (Bool × ℚ)
  | '-' :: cs => (Numeral.decimal? cs).map fun q => (true, q)
  | cs => (Numeral.decimal? cs).map fun q => (false, q)

namespace Numeral

/-! ## The parts of a numeral -/

/-- A text that does not go on with a digit. -/
def NoDigit (cs : List Char) : Prop := ∀ c ∈ cs.head?, c.isDigit = false

theorem spanDigits?_append {digits rest : List Char} (hfull : digits ≠ [])
    (hdigits : ∀ c ∈ digits, c.isDigit = true) (hrest : NoDigit rest) :
    spanDigits? (digits ++ rest) = some (digits, rest) := by
  have hend : rest.takeWhile Char.isDigit = [] ∧ rest.dropWhile Char.isDigit = rest := by
    cases rest with
    | nil => exact ⟨rfl, rfl⟩
    | cons c more =>
        have hc : c.isDigit = false := hrest c rfl
        simp [hc]
  have htake : (digits ++ rest).takeWhile Char.isDigit = digits := by
    rw [List.takeWhile_append_of_pos hdigits, hend.1, List.append_nil]
  have hdrop : (digits ++ rest).dropWhile Char.isDigit = rest := by
    rw [List.dropWhile_append_of_pos hdigits, hend.2]
  rw [spanDigits?, htake, hdrop, if_neg (by simpa using hfull)]

theorem natural?_toDigits (n : ℕ) : natural? (Nat.toDigits 10 n) = some n := by
  have hspan : spanDigits? (Nat.toDigits 10 n ++ []) = some (Nat.toDigits 10 n, []) :=
    spanDigits?_append Nat.toDigits_ne_nil Json.isDigit_of_mem_toDigits (by simp [NoDigit])
  rw [List.append_nil] at hspan
  simp only [natural?, hspan, Nat.ofDigitChars_ten_toDigits]

/-- An exponent with its sign. -/
theorem exponent?_text (x : ℤ) :
    exponent? ('e' :: (if x < 0 then '-' else '+') :: Nat.toDigits 10 x.natAbs) = some x := by
  by_cases hx : x < 0
  · simp [exponent?, hx, natural?_toDigits, abs_of_neg hx]
  · simp [exponent?, hx, natural?_toDigits, not_lt.1 hx]

/-- How a numeral goes on behind its digits and its point. -/
inductive Tail : List Char → ℤ → Prop where
  | none : Tail [] 0
  | exponent (x : ℤ) : Tail ('e' :: (if x < 0 then '-' else '+') :: Nat.toDigits 10 x.natAbs) x

theorem Tail.exponent?_eq {cs : List Char} {x : ℤ} (h : Tail cs x) : exponent? cs = some x := by
  cases h with
  | none => rfl
  | exponent => exact exponent?_text x

theorem Tail.noDigit {cs : List Char} {x : ℤ} (h : Tail cs x) : NoDigit cs := by
  cases h <;> simp [NoDigit]

variable {whole fraction tail : List Char} {x : ℤ}

/-- A point and the digits behind it. -/
theorem spanFraction?_point (hfull : fraction ≠ []) (hdigits : ∀ c ∈ fraction, c.isDigit = true)
    (htail : NoDigit tail) : spanFraction? ('.' :: (fraction ++ tail)) = some (fraction, tail) :=
  spanDigits?_append hfull hdigits htail

theorem spanFraction?_none (htail : Tail tail x) : spanFraction? tail = some ([], tail) := by
  cases htail <;> rfl

/-- A zero in front of the point stands alone. -/
def Leading (whole : List Char) : Prop := whole ≠ [] ∧ (whole.head? = some '0' → whole = ['0'])

theorem Leading.not_refused (h : Leading whole) : ¬(whole.head? = some '0' ∧ whole ≠ ['0']) :=
  fun hzero => hzero.2 (h.2 hzero.1)

/-- **A numeral with a point** is read as its parts spell. -/
theorem decimal?_point (hwhole : Leading whole) (hdigits : ∀ c ∈ whole, c.isDigit = true)
    (hfull : fraction ≠ []) (hfraction : ∀ c ∈ fraction, c.isDigit = true) (htail : Tail tail x) :
    decimal? (whole ++ '.' :: (fraction ++ tail)) = some (spelled whole fraction x) := by
  have hpoint : NoDigit ('.' :: (fraction ++ tail)) := by simp [NoDigit]
  have hspan := spanDigits?_append hwhole.1 hdigits hpoint
  simp only [decimal?, hspan, spanFraction?_point hfull hfraction htail.noDigit,
    htail.exponent?_eq, Option.bind_eq_bind, Option.bind_some, if_neg hwhole.not_refused]

/-- A numeral without a point. -/
theorem decimal?_whole (hwhole : Leading whole) (hdigits : ∀ c ∈ whole, c.isDigit = true)
    (htail : Tail tail x) : decimal? (whole ++ tail) = some (spelled whole [] x) := by
  have hspan := spanDigits?_append hwhole.1 hdigits htail.noDigit
  simp only [decimal?, hspan, spanFraction?_none htail, htail.exponent?_eq, Option.bind_eq_bind,
    Option.bind_some, if_neg hwhole.not_refused]

/-! ## The text of a decimal -/

/-- The digits of a number have no zero in front. -/
theorem leading_toDigits (n : ℕ) : Leading (Nat.toDigits 10 n) := by
  refine ⟨Nat.toDigits_ne_nil, fun hzero => ?_⟩
  obtain rfl | hpos := Nat.eq_zero_or_pos n
  · rfl
  · obtain ⟨d, ds, hdigits, hd⟩ := Json.toDigits_first hpos
    rw [hdigits] at hzero
    exact absurd (Option.some.inj hzero) hd

end Numeral

namespace Decimal

open Numeral

/-- Digits are kept up to the last one that is no zero. -/
theorem exists_zeros (digits : List Char) :
    ∃ zeros, digits =
      (digits.reverse.dropWhile (· == '0')).reverse ++ List.replicate zeros '0' := by
  have hzeros : digits.reverse.takeWhile (· == '0') =
      List.replicate (digits.reverse.takeWhile (· == '0')).length '0' :=
    List.eq_replicate_of_mem fun c hc => eq_of_beq (List.mem_takeWhile_imp (p := (· == '0')) hc)
  refine ⟨(digits.reverse.takeWhile (· == '0')).length, ?_⟩
  calc
    digits = (digits.reverse.takeWhile (· == '0')
          ++ digits.reverse.dropWhile (· == '0')).reverse := by
      rw [List.takeWhile_append_dropWhile, List.reverse_reverse]
    _ = (digits.reverse.dropWhile (· == '0')).reverse
          ++ (digits.reverse.takeWhile (· == '0')).reverse := List.reverse_append
    _ = (digits.reverse.dropWhile (· == '0')).reverse
          ++ List.replicate (digits.reverse.takeWhile (· == '0')).length '0' := by
      conv_lhs => rw [hzeros, List.reverse_replicate]

/-- The digits and the exponent of the first one spell the decimal. -/
theorem scientific_spec {d : Decimal} (hd : d.significand ≠ 0) :
    ∃ first more, d.scientific.1 = first :: more ∧ first ≠ '0' ∧
      (∀ c ∈ first :: more, c.isDigit = true) ∧
      d.value = spelled [first] more d.scientific.2 := by
  obtain ⟨zeros, hzeros⟩ := exists_zeros (Nat.toDigits 10 d.significand)
  obtain ⟨first, others, hdigits, hfirst⟩ := Json.toDigits_first (Nat.pos_of_ne_zero hd)
  have hkept : d.scientific.1 =
      ((Nat.toDigits 10 d.significand).reverse.dropWhile (· == '0')).reverse := rfl
  rw [← hkept] at hzeros
  cases hshort : d.scientific.1 with
  | nil =>
      -- Then all digits are zeros, the first one too.
      rw [hshort, List.nil_append] at hzeros
      exact absurd (List.eq_of_mem_replicate (hzeros ▸ hdigits ▸ List.mem_cons_self)) hfirst
  | cons c more =>
      rw [hshort] at hzeros
      refine ⟨c, more, rfl, ?_, fun d hd => ?_, ?_⟩
      · rw [hdigits, List.cons_append] at hzeros
        exact (List.cons.inj hzeros).1 ▸ hfirst
      · exact Json.isDigit_of_mem_toDigits d (hzeros ▸ List.mem_append_left _ hd)
      · have hvalue : d.significand = 10 ^ zeros * Nat.ofDigitChars 10 (c :: more) 0 := by
          have hread : Nat.ofDigitChars 10 (Nat.toDigits 10 d.significand) 0 = d.significand :=
            Nat.ofDigitChars_ten_toDigits
          rw [hzeros, Nat.ofDigitChars_append, Nat.ofDigitChars_replicate_zero] at hread
          exact hread.symm
        have hexponent : d.scientific.2 - more.length = zeros + d.exponent := by
          have hlength : (Nat.toDigits 10 d.significand).length = more.length + 1 + zeros := by
            rw [hzeros, List.length_append, List.length_cons, List.length_replicate]
          have hlast : d.scientific.2 =
              d.exponent + (Nat.toDigits 10 d.significand).length - 1 := rfl
          rw [hlast, hlength]
          push_cast
          ring
        rw [value, hvalue, spelled, List.singleton_append, hexponent, zpow_add₀ (by norm_num),
          zpow_natCast]
        push_cast
        ring

section Layout

variable {first : Char} {more : List Char} {x : ℤ}

/-- Digits that do not start with a zero may stand in front of a point. -/
theorem leading_cons (hfirst : first ≠ '0') (more : List Char) : Leading (first :: more) :=
  ⟨List.cons_ne_nil _ _, fun h => absurd (Option.some.inj h) hfirst⟩

theorem isDigit_of_mem_zeros {n : ℕ} : ∀ c ∈ List.replicate n '0', c.isDigit = true :=
  fun _ hc => List.eq_of_mem_replicate hc ▸ rfl

variable (hfirst : first ≠ '0') (hdigits : ∀ c ∈ first :: more, c.isDigit = true)

include hdigits in
/-- Below one the digits stand behind a point and zeros. -/
theorem decimal?_small (hx : x < 0) :
    decimal? ('0' :: '.' :: (List.replicate (-x - 1).toNat '0' ++ first :: more)) =
      some (spelled [first] more x) := by
  have hfraction : ∀ c ∈ List.replicate (-x - 1).toNat '0' ++ first :: more, c.isDigit = true :=
    List.forall_mem_append.2 ⟨isDigit_of_mem_zeros, hdigits⟩
  have hzero : Leading ['0'] := ⟨List.cons_ne_nil _ _, fun _ => rfl⟩
  have hread := decimal?_point hzero (by simp) (by simp) hfraction .none
  rw [List.append_nil] at hread
  have hnumber : Nat.ofDigitChars 10
      ('0' :: (List.replicate (-x - 1).toNat '0' ++ first :: more)) 0 =
        Nat.ofDigitChars 10 (first :: more) 0 := by
    rw [Nat.ofDigitChars_cons, Nat.ofDigitChars_append, Nat.ofDigitChars_replicate_zero]
    rfl
  have hplace : (0 : ℤ) - (List.replicate (-x - 1).toNat '0' ++ first :: more).length =
      x - more.length := by
    rw [List.length_append, List.length_replicate, List.length_cons]
    omega
  refine hread.trans ?_
  rw [spelled, spelled, List.singleton_append, List.singleton_append, hnumber, hplace]

include hfirst hdigits in
/-- Where the point stands behind all digits, zeros fill the places up to it. -/
theorem decimal?_filled {whole : ℕ} (hwhole : more.length < whole) (hx : x = whole - 1) :
    decimal? (first :: more ++ List.replicate (whole - (more.length + 1)) '0' ++ ['.', '0']) =
      some (spelled [first] more x) := by
  have hzeros : ∀ c ∈ first :: more ++ List.replicate (whole - (more.length + 1)) '0',
      c.isDigit = true :=
    List.forall_mem_append.2 ⟨hdigits, isDigit_of_mem_zeros⟩
  have hleading : Leading (first :: more ++ List.replicate (whole - (more.length + 1)) '0') :=
    leading_cons hfirst _
  have hend : ['0'] ≠ [] ∧ ∀ c ∈ ['0'], c.isDigit = true := by simp
  have hread := decimal?_point hleading hzeros hend.1 hend.2 .none
  refine hread.trans ?_
  have hnumber : Nat.ofDigitChars 10
      (first :: more ++ List.replicate (whole - (more.length + 1)) '0' ++ ['0']) 0 =
        Nat.ofDigitChars 10 (first :: more) 0 * 10 ^ (whole - (more.length + 1)) * 10 := by
    have hlast : Nat.ofDigitChars 10 ['0'] (Nat.ofDigitChars 10
        (first :: more ++ List.replicate (whole - (more.length + 1)) '0') 0) = _ :=
      Nat.ofDigitChars_cons
    rw [Nat.ofDigitChars_append, hlast, Nat.ofDigitChars_append, Nat.ofDigitChars_replicate_zero,
      Nat.ofDigitChars_nil, Nat.sub_self, Nat.add_zero]
    ring
  have hplace : x - more.length = (whole - (more.length + 1) : ℕ) := by omega
  have hplaces : (10 : ℚ) ^ ((0 : ℤ) - (['0'].length : ℕ)) = 1 / 10 := by norm_num
  rw [spelled, spelled, hnumber, List.singleton_append, hplace, zpow_natCast, hplaces]
  push_cast
  rw [mul_assoc, mul_one_div, div_self (by norm_num), mul_one]

include hfirst hdigits in
/-- Elsewhere the point stands between two of the digits. -/
theorem decimal?_parted {whole : ℕ} (hwhole : whole ≤ more.length) (hpos : 0 < whole)
    (hx : x = whole - 1) :
    decimal? ((first :: more).take whole ++ '.' :: (first :: more).drop whole) =
      some (spelled [first] more x) := by
  have hfront : (first :: more).take whole = first :: more.take (whole - 1) := by
    cases whole with
    | zero => exact absurd hpos (Nat.lt_irrefl 0)
    | succ n => rfl
  have hfull : (first :: more).drop whole ≠ [] := by
    rw [Ne, List.drop_eq_nil_iff, List.length_cons]
    omega
  have hleading : Leading ((first :: more).take whole) := hfront ▸ leading_cons hfirst _
  have hread := decimal?_point hleading (fun c hc => hdigits c (List.mem_of_mem_take hc)) hfull
    (fun c hc => hdigits c (List.mem_of_mem_drop hc)) .none
  rw [List.append_nil] at hread
  refine hread.trans ?_
  have hplace : (0 : ℤ) - ((first :: more).drop whole).length = x - more.length := by
    rw [List.length_drop, List.length_cons]
    omega
  rw [spelled, spelled, List.take_append_drop, List.singleton_append, hplace]

include hfirst hdigits in
/-- With an exponent the point stands behind the first digit. -/
theorem decimal?_exponent {tail : List Char} (htail : Tail tail x) :
    decimal? (first :: (if more = [] then [] else '.' :: more) ++ tail) =
      some (spelled [first] more x) := by
  have hone : ∀ c ∈ [first], c.isDigit = true := by simpa using hdigits first List.mem_cons_self
  by_cases hshort : more = []
  · have hread := decimal?_whole (leading_cons hfirst []) hone htail
    rw [if_pos hshort, hshort]
    exact hread
  · have hread := decimal?_point (leading_cons hfirst []) hone hshort
      (fun c hc => hdigits c (List.mem_cons_of_mem _ hc)) htail
    rw [if_neg hshort]
    exact hread

end Layout

/-- The text of a decimal, by its digits and the exponent of the first one. -/
theorem toList_layOut {layout : FloatLayout} {d : Decimal} {digits : List Char} {x : ℤ}
    (hd : d.scientific = (digits, x)) :
    (d.layOut layout).toList =
      if layout.positionalFrom ≤ x ∧ x ≤ layout.positionalTo then
        if x < 0 then '0' :: '.' :: (List.replicate (-x - 1).toNat '0' ++ digits)
        else digits.take (x.toNat + 1)
          ++ List.replicate (x.toNat + 1 - (digits.take (x.toNat + 1)).length) '0'
          ++ '.' :: (if digits.drop (x.toNat + 1) = [] then ['0'] else digits.drop (x.toNat + 1))
      else digits.take 1 ++ (if digits.drop 1 = [] then [] else '.' :: digits.drop 1)
        ++ 'e' :: ((if x < 0 then ['-'] else layout.positiveSign.toList)
          ++ Nat.toDigits 10 x.natAbs) := by
  simp only [layOut, hd, Bool.and_eq_true, decide_eq_true_eq, List.isEmpty_iff]
  split
  · split
    · simp
    · split <;> simp
  · split <;> split <;> simp

/-- **The text of a decimal spells it.** -/
theorem decimal?_layOut {d : Decimal} (hd : d.significand ≠ 0) :
    decimal? (d.layOut .json).toList = some d.value := by
  obtain ⟨first, more, hkept, hfirst, hdigits, hvalue⟩ := scientific_spec hd
  cases hscientific : d.scientific with
  | mk digits x =>
      rw [hscientific] at hkept hvalue
      obtain rfl : digits = first :: more := hkept
      rw [toList_layOut hscientific, hvalue]
      -- A decimal is written with all its places, below one or from one on, or with an exponent.
      split
      · split
        · exact decimal?_small hdigits ‹_›
        · rename_i hx
          have hplace : x = ((x.toNat + 1 : ℕ) : ℤ) - 1 := by omega
          by_cases hwhole : more.length < x.toNat + 1
          · have hall : (first :: more).take (x.toNat + 1) = first :: more :=
              List.take_of_length_le (by rw [List.length_cons]; omega)
            have hnone : (first :: more).drop (x.toNat + 1) = [] :=
              List.drop_of_length_le (by rw [List.length_cons]; omega)
            rw [if_pos hnone, hall]
            exact decimal?_filled hfirst hdigits hwhole hplace
          · have hwhole : x.toNat + 1 ≤ more.length := Nat.le_of_not_lt hwhole
            have hsome : (first :: more).drop (x.toNat + 1) ≠ [] := by
              rw [Ne, List.drop_eq_nil_iff, List.length_cons]
              omega
            have hfull : x.toNat + 1 - ((first :: more).take (x.toNat + 1)).length = 0 := by
              rw [List.length_take, List.length_cons]
              omega
            rw [if_neg hsome, hfull, List.replicate_zero, List.append_nil]
            exact decimal?_parted hfirst hdigits hwhole (Nat.succ_pos _) hplace
      · have htail : (if x < 0 then ['-'] else FloatLayout.json.positiveSign.toList)
            ++ Nat.toDigits 10 x.natAbs =
              (if x < 0 then '-' else '+') :: Nat.toDigits 10 x.natAbs := by
          split <;> rfl
        rw [htail]
        exact decimal?_exponent hfirst hdigits (.exponent x)

end Decimal

/-! ## JSON numbers -/

/-- The fields of a double without its sign. -/
def floatFields (x : Float) : BinaryFloat := .ofBits (x.toBits &&& 0x7FFFFFFFFFFFFFFF)

section Fields

open Float.Model UnpackedFloat

/-- The last exponent stands for infinity, and for what is no number. -/
theorem unpack_of_last_exponent {b : BitVec 64} (h : @unpackExponent .binary64 b = -1#11) :
    unpack .binary64 b = if @unpackMantissa .binary64 b = 0#52
      then .infinity (Sign.ofBitVec (@unpackSign .binary64 b)) else .notANumber :=
  if_pos h

/-- A finite double does not have it. -/
theorem exponentField_ne {x : Float} (h : x.isFinite = true) :
    x.toBits.toNat / 2 ^ 52 % 2 ^ 11 ≠ 2047 := by
  intro hall
  have hfield : @unpackExponent .binary64 x.toBits.toBitVec = -1#11 := by
    apply BitVec.eq_of_toNat_eq
    simpa [unpackExponent, Nat.shiftRight_eq_div_pow] using hall
  have hmodel : x.isFinite = (unpack .binary64 x.toBits.toBitVec).isFinite := rfl
  rw [hmodel, unpack_of_last_exponent hfield] at h
  split at h <;> cases h

end Fields

/-- So its exponent is bounded. -/
theorem exponent_floatFields_le {x : Float} (h : x.isFinite = true) :
    (floatFields x).exponent ≤ 971 := by
  have hbits : (x.toBits &&& 0x7FFFFFFFFFFFFFFF).toNat = x.toBits.toNat % 2 ^ 63 := by
    rw [UInt64.toNat_and]
    exact Nat.and_two_pow_sub_one_eq_mod _ 63
  have hfield := exponentField_ne h
  have hhidden : BinaryFloat.hiddenBit = 2 ^ 52 := by decide
  simp only [floatFields, BinaryFloat.ofBits, hbits, hhidden]
  split
  · simp
  · simp only
    omega

namespace Json.Number

/-- The number has a minus.  A zero that is a double may have one, too. -/
def negative : Number → Bool
  | .whole i _ => i < 0
  | .float x _ => signBit ≤ x.toBits.toNat

/-- The number without its sign. -/
def size : Number → ℚ
  | .whole i _ => i.natAbs
  | .float x _ => (floatFields x).size

theorem size_nonneg (n : Number) : 0 ≤ n.size := by
  cases n with
  | whole i fits => exact Nat.cast_nonneg _
  | float x finite => exact mul_nonneg (Nat.cast_nonneg _) (two_zpow_pos _).le

/-- A float is a double. -/
theorem isDouble_float (x : Float) (finite : x.isFinite = true) :
    IsDouble (Number.float x finite).size :=
  BinaryFloat.isDouble_size (BinaryFloat.canonical_ofBits _)

/-- No number without a sign starts with a minus. -/
theorem numeral?_of_decimal? {cs : List Char} {q : ℚ} (h : Numeral.decimal? cs = some q) :
    numeral? cs = some (false, q) := by
  unfold numeral?
  split
  · simp [Numeral.decimal?, Numeral.spanDigits?] at h
  · rw [h, Option.map_some]

theorem numeral?_minus {cs : List Char} {q : ℚ} (h : Numeral.decimal? cs = some q) :
    numeral? ('-' :: cs) = some (true, q) := by
  rw [numeral?, h, Option.map_some]

/-- A whole number is spelled as it is. -/
theorem numeral?_whole (i : ℤ) (fits : IsWhole i) :
    numeral? (Number.whole i fits).text.toList =
      some ((Number.whole i fits).negative, (Number.whole i fits).size) := by
  have hread (n : ℕ) : Numeral.decimal? (Nat.toDigits 10 n) = some (n : ℚ) := by
    have hwhole := Numeral.decimal?_whole (Numeral.leading_toDigits n) isDigit_of_mem_toDigits .none
    rw [List.append_nil] at hwhole
    simpa [Numeral.spelled] using hwhole
  cases i with
  | ofNat n =>
      have hsign : (Number.whole (.ofNat n) fits).negative = false := by simp [negative]
      rw [hsign]
      simpa [text, wholeText, size] using numeral?_of_decimal? (hread n)
  | negSucc n => simpa [text, wholeText, negative, size] using numeral?_minus (hread (n + 1))

/-- What spells a double without its sign. -/
def unsignedText (b : BinaryFloat) : String :=
  if b.mantissa = 0 then "0.0" else (Decimal.shortest b).layOut .json

theorem text_float (x : Float) (finite : x.isFinite = true) :
    (Number.float x finite).text.toList =
      if (Number.float x finite).negative = true then '-' :: (unsignedText (floatFields x)).toList
      else (unsignedText (floatFields x)).toList := by
  have htext : (Number.float x finite).text =
      (if x.toBits.toNat < signBit then "" else "-") ++ unsignedText (floatFields x) := rfl
  by_cases hsign : x.toBits.toNat < signBit
  · simp [htext, negative, hsign]
  · simp [htext, negative, hsign, Nat.le_of_not_lt hsign]

/-- The shortest decimal of a double spells a number that goes to it. -/
theorem exists_decimal?_unsignedText {b : BinaryFloat} (hb : b.Canonical) :
    ∃ q, Numeral.decimal? (unsignedText b).toList = some q ∧ nearestDouble q = b.size := by
  by_cases hzero : b.mantissa = 0
  · have hdigits : Numeral.Leading ['0'] ∧ ∀ c ∈ ['0'], c.isDigit = true := by
      simp [Numeral.Leading]
    have hread := Numeral.decimal?_point hdigits.1 hdigits.2 hdigits.1.1 hdigits.2 .none
    have hspelled : Numeral.spelled ['0'] ['0'] 0 = 0 := by
      simp [Numeral.spelled, Nat.ofDigitChars_cons]
    refine ⟨0, ?_, ?_⟩
    · rw [unsignedText, if_pos hzero, ← hspelled]
      exact hread
    · rw [nearestDouble_zero, BinaryFloat.size, hzero, Nat.cast_zero, zero_mul]
  · refine ⟨_, ?_, Decimal.nearestDouble_shortest hb hzero⟩
    rw [unsignedText, if_neg hzero]
    exact Decimal.decimal?_layOut (Decimal.covers_shortest hb hzero).1

/-- **The text of a number spells the number**, if it is rounded. -/
theorem exists_numeral?_text (n : Number) :
    ∃ q, numeral? n.text.toList = some (n.negative, q) ∧
      nearestDouble q = nearestDouble n.size := by
  cases n with
  | whole i fits => exact ⟨_, numeral?_whole i fits, rfl⟩
  | float x finite =>
      have hcanonical : (floatFields x).Canonical := BinaryFloat.canonical_ofBits _
      obtain ⟨q, hread, hnearest⟩ := exists_decimal?_unsignedText hcanonical
      refine ⟨q, ?_, ?_⟩
      · rw [text_float]
        cases hsign : (Number.float x finite).negative with
        | false => exact numeral?_of_decimal? hread
        | true => exact numeral?_minus hread
      · rw [nearestDouble_of_isDouble (isDouble_float x finite)]
        exact hnearest

/-- No number is too large for a double. -/
theorem nearestDouble_size_lt (n : Number) : nearestDouble n.size < 2 ^ 1024 := by
  cases n with
  | whole i fits =>
      obtain hzero | hpos := (size_nonneg (.whole i fits)).eq_or_lt
      · rw [← hzero, nearestDouble_zero]
        norm_num
      · refine (nearestDouble_le hpos).trans_lt ?_
        have hsize : ((i.natAbs : ℕ) : ℚ) ≤ 2 ^ 64 := by
          have hbounds := fits
          have hnat : i.natAbs ≤ 2 ^ 64 := by
            unfold IsWhole at hbounds
            omega
          exact_mod_cast hnat
        calc
          2 * (Number.whole i fits).size + 1 ≤ 2 * 2 ^ 64 + 1 := by
            rw [size]
            linarith
          _ < 2 ^ 66 := by norm_num
          _ ≤ 2 ^ 1024 := pow_le_pow_right₀ (by norm_num) (by norm_num)
  | float x finite =>
      rw [nearestDouble_of_isDouble (isDouble_float x finite), size]
      have hcanonical : (floatFields x).Canonical := BinaryFloat.canonical_ofBits _
      have hexponent : (2 : ℚ) ^ (floatFields x).exponent ≤ 2 ^ (971 : ℤ) :=
        zpow_le_zpow_right₀ (by norm_num) (exponent_floatFields_le finite)
      calc
        (floatFields x).size < 2 ^ 53 * 2 ^ (floatFields x).exponent :=
          BinaryFloat.size_lt_gap hcanonical
        _ ≤ 2 ^ 53 * 2 ^ (971 : ℤ) := mul_le_mul_of_nonneg_left hexponent (by norm_num)
        _ = 2 ^ 1024 := by rw [zpow_ofNat, ← pow_add]

end Json.Number

end PluginBundle
