import Mathlib
import SampleTypes.Proofs.Decimal.Shortest

set_option autoImplicit false

/-! # How many digits a format keeps

Decimals with few digits lie farther apart than the numbers of a format, so that no two of them round
to the same number and each is the shortest for the number it rounds to (`keeps_of_digitCount_le`).
That needs all the bits of the mantissa, and fails below the least number that has them. In the other
direction a grid just finer than the format has a decimal for each number, which bounds the digits
of the shortest one (`digitCount_le_of_keeps`). -/

namespace SampleTypes

open Decimal (digitCount)

namespace Decimal

variable {c d : Decimal}

/-- Decimals differ by a unit in the last place of the finer one. -/
theorem le_abs_sub_of_exponent_le (h : c.exponent ≤ d.exponent) (hne : c.magnitude ≠ d.magnitude) :
    (10 : ℚ) ^ c.exponent ≤ |c.magnitude - d.magnitude| := by
  have hten : (0 : ℚ) < 10 ^ c.exponent := by positivity
  obtain ⟨t, ht⟩ := Int.exists_add_of_le h
  have hunits : c.magnitude - d.magnitude =
      ((c.coefficient - d.coefficient * 10 ^ t : ℤ) : ℚ) * 10 ^ c.exponent := by
    rw [magnitude, magnitude, ht, zpow_add₀ (by norm_num), zpow_natCast]
    push_cast
    ring
  have hinteger : (c.coefficient - d.coefficient * 10 ^ t : ℤ) ≠ 0 := by
    intro hzero
    rw [hzero, Int.cast_zero, zero_mul, sub_eq_zero] at hunits
    exact hne hunits
  have hone : (1 : ℚ) ≤ |((c.coefficient - d.coefficient * 10 ^ t : ℤ) : ℚ)| := by
    exact_mod_cast Int.one_le_abs hinteger
  rw [hunits, abs_mul, abs_of_pos hten]
  exact le_mul_of_one_le_left hten.le hone

/-- Relative to its own size, a decimal with few digits is far from every coarser one. -/
theorem magnitude_lt_mul_abs_sub {s : Nat} (hs : s ≠ 0) (hc : digitCount c.coefficient ≤ s)
    (h : c.exponent ≤ d.exponent) (hne : c.magnitude ≠ d.magnitude) :
    c.magnitude < 10 ^ s * |c.magnitude - d.magnitude| := by
  have hten : (0 : ℚ) < 10 ^ c.exponent := by positivity
  have hcoefficient : (c.coefficient : ℚ) < 10 ^ s := by
    exact_mod_cast (digitCount_le_iff hs).mp hc
  calc c.magnitude = c.coefficient * 10 ^ c.exponent := rfl
    _ < 10 ^ s * 10 ^ c.exponent := mul_lt_mul_of_pos_right hcoefficient hten
    _ ≤ 10 ^ s * |c.magnitude - d.magnitude| :=
      mul_le_mul_of_nonneg_left (le_abs_sub_of_exponent_le h hne) (by positivity)

end Decimal

namespace BinaryFormat

variable {f : BinaryFormat} {b c : Dyadic} {x : ℚ}

/-! ## The range in which a format has all its bits -/

/-- The greatest number of the format. -/
def greatest (f : BinaryFormat) : Dyadic := ⟨2 ^ f.precision - 1, f.maxExponent⟩

/-- The least number of the format whose mantissa has all its bits. -/
def leastFull (f : BinaryFormat) : Dyadic := ⟨2 ^ (f.precision - 1), f.minExponent⟩

theorem greatest_isFinite (hf : f.WithinDouble) : f.IsFinite f.greatest := by
  have hpow := two_pow_precision hf.two_le_precision
  have hpos : 0 < 2 ^ (f.precision - 1) := by positivity
  refine ⟨⟨?_, hf.minExponent_le, fun _ => ?_⟩, le_rfl⟩
  · dsimp only [greatest]
    omega
  · dsimp only [greatest]
    omega

theorem leastFull_isFinite (hf : f.WithinDouble) : f.IsFinite f.leastFull := by
  have hpow := two_pow_precision hf.two_le_precision
  have hpos : 0 < 2 ^ (f.precision - 1) := by positivity
  refine ⟨⟨?_, le_rfl, fun _ => le_rfl⟩, hf.minExponent_le⟩
  dsimp only [leastFull]
  omega

theorem leastFull_value (f : BinaryFormat) :
    f.leastFull.value = 2 ^ (((f.precision - 1 : Nat) : ℤ) + f.minExponent) := by
  rw [leastFull, Dyadic.value, zpow_add₀ (by norm_num), zpow_natCast]
  push_cast
  rfl

theorem leastFull_value_pos (f : BinaryFormat) : 0 < f.leastFull.value := by
  rw [leastFull_value]
  positivity

/-- Rounding does not go past a number of the format. -/
theorem IsNearest.value_le (hx : f.IsNearest x b) (hc : f.Holds c) (h : x ≤ c.value) :
    b.value ≤ c.value := by
  by_contra hlt
  rw [not_le] at hlt
  have hle := (abs_sub_le_abs_sub_iff' hlt x).mp (hx.nearest c hc)
  linarith

theorem IsNearest.le_value (hx : f.IsNearest x b) (hc : f.Holds c) (h : c.value ≤ x) :
    c.value ≤ b.value := by
  by_contra hlt
  rw [not_le] at hlt
  have hle := (abs_sub_le_abs_sub_iff hlt x).mp (hx.nearest c hc)
  linarith

/-- What is not beyond the greatest number is rounded to a number of the format. -/
theorem IsNearest.isFinite (hf : f.WithinDouble) (hx : f.IsNearest x b) (h : x ≤ f.greatest.value) :
    f.IsFinite b := by
  have hgreatest := greatest_isFinite hf
  exact ⟨hx.holds, exponent_le_of_value_le hf.two_le_precision hx.holds hgreatest.toHolds
    (hx.value_le hgreatest.toHolds h)⟩

/-- What is not below the least number with all its bits is rounded to a number that has them. -/
theorem IsNearest.two_pow_le_mantissa (hf : f.WithinDouble) (hx : f.IsNearest x b)
    (h : f.leastFull.value ≤ x) : 2 ^ (f.precision - 1) ≤ b.mantissa := by
  obtain heq | hlt := hx.holds.min_le.eq_or_lt
  · have hle := hx.le_value (leastFull_isFinite hf).toHolds h
    rw [leastFull, Dyadic.value, Dyadic.value, heq] at hle
    exact_mod_cast le_of_mul_le_mul_right hle b.ulp_pos
  · exact hx.holds.leading hlt

/-- Every decimal but zero has a nearest number. -/
theorem exists_isNearest (hf : 2 ≤ f.precision) {d : Decimal} (hd : d.coefficient ≠ 0) :
    ∃ b, f.IsNearest d.magnitude b := by
  obtain ⟨b, hb, -⟩ := f.round_spec hf
    (Nat.mul_pos (Nat.pos_of_ne_zero hd) (pow10_pos d.exponent.toNat))
    (pow10_pos (-d.exponent).toNat)
  exact ⟨b, by rwa [magnitude_eq_div]⟩

/-! ## Few digits are kept -/

theorem gapBelow_le_ulp (f : BinaryFormat) (b : Dyadic) : f.gapBelow b ≤ b.ulp := by
  have hulp := b.ulp_pos
  unfold gapBelow
  split <;> linarith

/-- What rounds to the same number lies within the weight of its last bit. -/
theorem InInterval.abs_sub_le {y : ℚ} (hx : f.InInterval x b) (hy : f.InInterval y b) :
    |x - y| ≤ b.ulp := by
  have hgap := f.gapBelow_le_ulp b
  rw [abs_sub_le_iff]
  constructor
  · linarith [hx.le_high, hy.low_le]
  · linarith [hx.low_le, hy.le_high]

/-- No two decimals with few digits round to the same number. -/
theorem magnitude_eq_of_inInterval {s : Nat} (hs : s ≠ 0) (hfew : 10 ^ s < 2 ^ (f.precision - 1))
    (hb : 2 ^ (f.precision - 1) ≤ b.mantissa) {c d : Decimal} (hc : digitCount c.coefficient ≤ s)
    (hd : digitCount d.coefficient ≤ s) (hcb : f.InInterval c.magnitude b)
    (hdb : f.InInterval d.magnitude b) : c.magnitude = d.magnitude := by
  wlog hle : c.exponent ≤ d.exponent generalizing c d
  · exact (this hd hc hdb hcb (le_of_not_ge hle)).symm
  by_contra hne
  have hulp := b.ulp_pos
  have hgap := f.gapBelow_le_ulp b
  have hpow : (0 : ℚ) < 10 ^ s := by positivity
  have hmantissa : (10 : ℚ) ^ s + 1 ≤ b.mantissa := by exact_mod_cast hfew.trans_le hb
  -- the mantissa has more bits than the decimal has digits to go with them
  apply lt_irrefl c.magnitude
  calc c.magnitude < 10 ^ s * |c.magnitude - d.magnitude| :=
        Decimal.magnitude_lt_mul_abs_sub hs hc hle hne
    _ ≤ 10 ^ s * b.ulp := mul_le_mul_of_nonneg_left (hcb.abs_sub_le hdb) hpow.le
    _ ≤ (10 ^ s + 1) * b.ulp - b.ulp / 2 := by linarith
    _ ≤ b.mantissa * b.ulp - b.ulp / 2 :=
      sub_le_sub_right (mul_le_mul_of_nonneg_right hmantissa hulp.le) _
    _ ≤ b.value - f.gapBelow b / 2 := by rw [b.value_eq]; linarith
    _ ≤ c.magnitude := hcb.low_le

/-- A format keeps every decimal with few digits in the range in which it has all its bits. -/
theorem keeps_of_digitCount_le (hf : f.WithinDouble) {s : Nat} (hs : s ≠ 0)
    (hfew : 10 ^ s < 2 ^ (f.precision - 1)) {d : Decimal} (hd : d.IsNormal)
    (hcount : digitCount d.coefficient ≤ s) (hlow : f.leastFull.value ≤ d.magnitude)
    (hhigh : d.magnitude ≤ f.greatest.value) : f.keeps d = true := by
  have hprecision := hf.two_le_precision
  have hne : d.coefficient ≠ 0 := by
    intro hzero
    rw [Decimal.magnitude_eq_zero_iff.mpr hzero] at hlow
    exact absurd hlow (not_le.mpr f.leastFull_value_pos)
  obtain ⟨b, hb⟩ := exists_isNearest hprecision hne
  have hfinite := hb.isFinite hf hhigh
  have hmantissa := hb.two_pow_le_mantissa hf hlow
  have hpos : 0 < 2 ^ (f.precision - 1) := by positivity
  have hshortest := shortest_spec hf hfinite (by omega)
  -- the shortest decimal for the number has no more digits, so that it is no other one
  have hsame : d.magnitude = (f.shortest .greater b).magnitude :=
    magnitude_eq_of_inInterval hs hfew hmantissa hcount ((hshortest.fewest d hd hb).trans hcount)
      (inInterval_of_isNearest hprecision d.magnitude_nonneg hb)
      (inInterval_of_isNearest hprecision (Decimal.magnitude_nonneg _) hshortest.rounds)
  obtain ⟨hcoefficient, hexponent⟩ := hd.digits_eq hshortest.isNormal hsame
  have heq : { d with negative := false } = f.shortest .greater b := by
    rw [hcoefficient, hexponent, ← hshortest.nonneg]
  exact (keeps_iff hf hd).mpr ⟨b, hfinite, heq ▸ hshortest⟩

/-! ## What is kept has few digits -/

/-- The shortest decimal has at most one digit more than it takes to divide the leading digit more
    finely than the format does. -/
theorem IsShortest.digitCount_le (hf : f.WithinDouble) (hb : f.IsFinite b) (hne : b.mantissa ≠ 0)
    {s : Nat} (hs : 2 ^ f.precision < 10 ^ s) {d : Decimal} (h : f.IsShortest b d) :
    digitCount d.coefficient ≤ s + 1 := by
  obtain ⟨hlow, hhigh⟩ := floorLog10_spec hne (by linarith [hf.le_minExponent, hb.min_le])
    (by linarith [hf.maxExponent_le, hb.le_max])
    (hb.mantissa_lt.trans_le (Nat.pow_le_pow_right (by norm_num) hf.precision_le))
  generalize htop : floorLog10 b = top at *
  obtain ⟨n, a, hbest, hfirst, heq⟩ := exists_shortest_eq hf hb.toHolds hne htop hlow
  obtain ⟨c, hc⟩ := exists_inInterval_grid hf.two_le_precision hb.toHolds hs hlow
  have hn : n ≤ s := hfirst s c hc
  rw [h.unique (shortest_spec hf hb hne), heq]
  calc digitCount (Decimal.normal false a (top - n)).coefficient ≤ n + 1 :=
        Decimal.digitCount_normal_le (Nat.succ_ne_zero n) (hbest.le_pow hhigh) _ _
    _ ≤ s + 1 := Nat.succ_le_succ hn

/-- A decimal that a format keeps has at most so many digits. -/
theorem digitCount_le_of_keeps (hf : f.WithinDouble) {s : Nat} (hs : 2 ^ f.precision < 10 ^ s)
    {d : Decimal} (hd : d.IsNormal) (hne : d.coefficient ≠ 0) (h : f.keeps d = true) :
    digitCount d.coefficient ≤ s + 1 := by
  obtain ⟨b, hb, hshortest⟩ := (keeps_iff hf hd).mp h
  exact hshortest.digitCount_le hf hb (hshortest.mantissa_ne_zero hf.two_le_precision hne) hs

end BinaryFormat

end SampleTypes
