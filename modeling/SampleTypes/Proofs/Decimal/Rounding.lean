import Mathlib
import SampleTypes.Decimal.Coarse
import SampleTypes.Proofs.Decimal.Nearest
import SampleTypes.Proofs.Decimal.Value

set_option autoImplicit false

/-! # Rounding decimals

Rounding works on a fraction: the exponent is that of the power of two below it, or the least one of
the format, and the mantissa is rounded half to even. The result is the nearest number of the format
(`roundDecimal_eq_some_iff`), and there is none exactly where that number is beyond the greatest
exponent. -/

namespace SampleTypes

theorem pow2_cast (n : Nat) : ((pow2 n : Nat) : ℚ) = 2 ^ n :=
  Nat.cast_pow 2 n

/-! ## Powers of two and of ten

The logarithm of two to base ten lies between 59 / 196 and 28 / 93. -/

theorem ten_zpow_le_of_nonneg {k e : ℤ} (he : 0 ≤ e) (h : 196 * k ≤ 59 * e) :
    (10 : ℚ) ^ k ≤ 2 ^ e := by
  refine (pow_le_pow_iff_left₀ (by positivity) (by positivity) (show 196 ≠ 0 by norm_num)).mp ?_
  calc ((10 : ℚ) ^ k) ^ 196 = 10 ^ (196 * k) := by rw [mul_comm, zpow_mul, zpow_ofNat]
    _ ≤ 10 ^ (59 * e) := zpow_le_zpow_right₀ (by norm_num) h
    _ = ((10 : ℚ) ^ 59) ^ e := by rw [zpow_mul, zpow_ofNat]
    _ ≤ ((2 : ℚ) ^ 196) ^ e := zpow_le_zpow_left₀ he (by norm_num) (by norm_num)
    _ = (2 ^ e) ^ 196 := by rw [← zpow_ofNat, ← zpow_mul, mul_comm, zpow_mul, zpow_ofNat]

theorem two_zpow_le_of_nonneg {e k : ℤ} (he : 0 ≤ e) (h : 28 * e ≤ 93 * k) :
    (2 : ℚ) ^ e ≤ 10 ^ k := by
  refine (pow_le_pow_iff_left₀ (by positivity) (by positivity) (show 93 ≠ 0 by norm_num)).mp ?_
  calc ((2 : ℚ) ^ e) ^ 93 = ((2 : ℚ) ^ 93) ^ e := by
        rw [← zpow_ofNat, ← zpow_mul, mul_comm, zpow_mul, zpow_ofNat]
    _ ≤ ((10 : ℚ) ^ 28) ^ e := zpow_le_zpow_left₀ he (by norm_num) (by norm_num)
    _ = 10 ^ (28 * e) := by rw [zpow_mul, zpow_ofNat]
    _ ≤ 10 ^ (93 * k) := zpow_le_zpow_right₀ (by norm_num) h
    _ = (10 ^ k) ^ 93 := by rw [mul_comm, zpow_mul, zpow_ofNat]

theorem ten_zpow_le_two_zpow {k e : ℤ} (hpos : 0 ≤ e → 196 * k ≤ 59 * e)
    (hneg : e < 0 → 93 * k ≤ 28 * e) : (10 : ℚ) ^ k ≤ 2 ^ e := by
  obtain he | he := le_or_gt 0 e
  · exact ten_zpow_le_of_nonneg he (hpos he)
  · have hle := hneg he
    have hinv := inv_anti₀ (by positivity)
      (two_zpow_le_of_nonneg (e := -e) (k := -k) (by omega) (by omega))
    rwa [← zpow_neg, ← zpow_neg, neg_neg, neg_neg] at hinv

theorem two_zpow_le_ten_zpow {e k : ℤ} (hpos : 0 ≤ e → 28 * e ≤ 93 * k)
    (hneg : e < 0 → 59 * e ≤ 196 * k) : (2 : ℚ) ^ e ≤ 10 ^ k := by
  obtain he | he := le_or_gt 0 e
  · exact two_zpow_le_of_nonneg he (hpos he)
  · have hle := hneg he
    have hinv := inv_anti₀ (by positivity)
      (ten_zpow_le_of_nonneg (e := -e) (k := -k) (by omega) (by omega))
    rwa [← zpow_neg, ← zpow_neg, neg_neg, neg_neg] at hinv

/-! ## Fractions -/

/-- Rounding to an integer goes to one that is at most a half away, and to the even one if it is just
    a half. -/
theorem roundHalfEven_spec (num : Nat) {den : Nat} (hden : 0 < den) :
    ((roundHalfEven num den : Nat) : ℚ) - 1 / 2 ≤ num / den ∧
      (num : ℚ) / den ≤ roundHalfEven num den + 1 / 2 ∧
      ((num : ℚ) / den = roundHalfEven num den - 1 / 2 → Even (roundHalfEven num den)) ∧
      ((num : ℚ) / den = roundHalfEven num den + 1 / 2 → Even (roundHalfEven num den)) := by
  have hpos : (0 : ℚ) < den := by exact_mod_cast hden
  have hsplit : (num : ℚ) = den * (num / den : Nat) + (num % den : Nat) := by
    exact_mod_cast (Nat.div_add_mod num den).symm
  have hlt : num % den < den := Nat.mod_lt num hden
  rw [Nat.even_iff, le_div_iff₀ hpos, div_le_iff₀ hpos, div_eq_iff hpos.ne', div_eq_iff hpos.ne']
  unfold roundHalfEven
  dsimp only
  generalize num / den = q at *
  generalize num % den = r at *
  have hltq : (r : ℚ) < den := by exact_mod_cast hlt
  have hr : (0 : ℚ) ≤ r := Nat.cast_nonneg r
  rw [hsplit]
  split
  · next hup =>
    have hhalf : (den : ℚ) ≤ 2 * r := by
      exact_mod_cast hup.elim le_of_lt fun h => h.1.ge
    push_cast
    refine ⟨by linarith, by linarith, fun heq => ?_, fun heq => by linarith⟩
    have htie : 2 * r = den := by
      have htieq : (2 : ℚ) * r = den := by linarith
      exact_mod_cast htieq
    omega
  · next hdown =>
    rw [not_or, not_lt, not_and] at hdown
    have hhalf : (2 : ℚ) * r ≤ den := by exact_mod_cast hdown.1
    refine ⟨by linarith, by linarith, fun heq => by linarith, fun heq => ?_⟩
    have htie : 2 * r = den := by
      have htieq : (2 : ℚ) * r = den := by linarith
      exact_mod_cast htieq
    have hodd := hdown.2 htie
    omega

theorem le_roundHalfEven (num : Nat) {den : Nat} (hden : 0 < den) {n : Nat} (h : (n : ℚ) ≤ num / den) :
    n ≤ roundHalfEven num den := by
  have hle := (roundHalfEven_spec num hden).2.1
  by_contra hlt
  have hcast : ((roundHalfEven num den : Nat) : ℚ) + 1 ≤ n := by exact_mod_cast not_le.mp hlt
  linarith

theorem roundHalfEven_le (num : Nat) {den : Nat} (hden : 0 < den) {n : Nat} (h : (num : ℚ) / den < n) :
    roundHalfEven num den ≤ n := by
  have hle := (roundHalfEven_spec num hden).1
  by_contra hlt
  have hcast : (n : ℚ) + 1 ≤ roundHalfEven num den := by exact_mod_cast not_le.mp hlt
  linarith

/-- A power of two is taken out of a fraction by a shift of one of its parts. -/
theorem shifted_eq (num den : Nat) (e : ℤ) :
    ((num * pow2 (-e).toNat : Nat) : ℚ) / (den * pow2 e.toNat : Nat) = num / den / 2 ^ e := by
  rw [zpow_eq_div_toNat (by norm_num)]
  push_cast [pow2_cast]
  rw [div_div_div_eq]

theorem floorLog2_spec {num den : Nat} (hnum : 0 < num) (hden : 0 < den) :
    (2 : ℚ) ^ floorLog2 num den ≤ num / den ∧ (num : ℚ) / den < 2 ^ (floorLog2 num den + 1) := by
  have hposNum : (0 : ℚ) < num := by exact_mod_cast hnum
  have hposDen : (0 : ℚ) < den := by exact_mod_cast hden
  have hnumLow : (2 : ℚ) ^ (Nat.log2 num : ℤ) ≤ num := by
    rw [zpow_natCast]
    exact_mod_cast Nat.log2_self_le hnum.ne'
  have hnumHigh : (num : ℚ) < 2 ^ ((Nat.log2 num : ℤ) + 1) := by
    exact_mod_cast Nat.lt_log2_self (n := num)
  have hdenLow : (2 : ℚ) ^ (Nat.log2 den : ℤ) ≤ den := by
    rw [zpow_natCast]
    exact_mod_cast Nat.log2_self_le hden.ne'
  have hdenHigh : (den : ℚ) < 2 ^ ((Nat.log2 den : ℤ) + 1) := by
    exact_mod_cast Nat.lt_log2_self (n := den)
  have hlow : (2 : ℚ) ^ ((Nat.log2 num : ℤ) - Nat.log2 den - 1) ≤ num / den := by
    rw [sub_sub, zpow_sub₀ (by norm_num)]
    exact div_le_div₀ hposNum.le hnumLow hposDen hdenHigh.le
  have hhigh : (num : ℚ) / den < 2 ^ ((Nat.log2 num : ℤ) - Nat.log2 den + 1) := by
    rw [sub_add_eq_add_sub, zpow_sub₀ (by norm_num)]
    exact div_lt_div₀ hnumHigh hdenLow (by positivity) (by positivity)
  have hcompare (e : ℤ) : den * pow2 e.toNat ≤ num * pow2 (-e).toNat ↔ (2 : ℚ) ^ e ≤ num / den := by
    have hpow : (0 : ℚ) < 2 ^ (-e).toNat := by positivity
    rw [zpow_eq_div_toNat (by norm_num), div_le_div_iff₀ hpow hposDen, ← pow2_cast, ← pow2_cast,
      mul_comm]
    exact_mod_cast Iff.rfl
  unfold floorLog2
  dsimp only
  split
  · next hle => exact ⟨(hcompare _).mp hle, hhigh⟩
  · next hlt =>
    rw [hcompare, not_le] at hlt
    exact ⟨hlow, by rwa [sub_add_cancel]⟩

namespace BinaryFormat

variable {f : BinaryFormat} {b : Dyadic} {x : ℚ}

/-! ## Rounding to a format -/

/-- A mantissa that is rounded to the right of the least bit makes the nearest number. -/
theorem inInterval_of_mantissa {m : Nat} {e : ℤ}
    (hlow : (m : ℚ) - 1 / 2 ≤ x / 2 ^ e) (hhigh : x / 2 ^ e ≤ m + 1 / 2)
    (hevenLow : x / 2 ^ e = m - 1 / 2 → Even m) (hevenHigh : x / 2 ^ e = m + 1 / 2 → Even m)
    (hleading : f.minExponent < e → (2 : ℚ) ^ (f.precision - 1) ≤ x / 2 ^ e) :
    f.InInterval x ⟨m, e⟩ := by
  have hpos : (0 : ℚ) < 2 ^ e := by positivity
  obtain ⟨y, rfl⟩ : ∃ y, x = y * 2 ^ e := ⟨x / 2 ^ e, (div_mul_cancel₀ _ hpos.ne').symm⟩
  rw [mul_div_cancel_right₀ _ hpos.ne'] at *
  have hhigh' : y * 2 ^ e ≤ m * 2 ^ e + 2 ^ e / 2 := by nlinarith
  have heven' : y * 2 ^ e = m * 2 ^ e + 2 ^ e / 2 → Even m := by
    intro heq
    apply hevenHigh
    apply mul_right_cancel₀ hpos.ne'
    linarith
  by_cases hpower : m = 2 ^ (f.precision - 1) ∧ f.minExponent < e
  · have hgap : f.gapBelow ⟨m, e⟩ = 2 ^ e / 2 := if_pos hpower
    have hle : (m : ℚ) * 2 ^ e ≤ y * 2 ^ e := by
      apply mul_le_mul_of_nonneg_right _ hpos.le
      rw [hpower.1]
      exact_mod_cast hleading hpower.2
    constructor <;> simp only [Dyadic.value, Dyadic.ulp, hgap]
    · linarith
    · exact hhigh'
    · exact fun heq => by linarith
    · exact heven'
  · have hgap : f.gapBelow ⟨m, e⟩ = 2 ^ e := if_neg hpower
    constructor <;> simp only [Dyadic.value, Dyadic.ulp, hgap]
    · nlinarith
    · exact hhigh'
    · intro heq
      apply hevenLow
      apply mul_right_cancel₀ hpos.ne'
      linarith
    · exact heven'

/-- A mantissa that is rounded up to a power of two belongs to the next exponent. -/
theorem inInterval_of_carry (hf : 2 ≤ f.precision) {e : ℤ} (hmin : f.minExponent ≤ e)
    (hlow : (2 : ℚ) ^ f.precision - 1 / 2 ≤ x / 2 ^ e) (hhigh : x / 2 ^ e < 2 ^ f.precision) :
    f.InInterval x ⟨pow2 (f.precision - 1), e + 1⟩ := by
  have hpos : (0 : ℚ) < 2 ^ e := by positivity
  have hulp : (2 : ℚ) ^ (e + 1) = 2 * 2 ^ e := by
    rw [zpow_add_one₀ (by norm_num), mul_comm]
  have hgap : f.gapBelow ⟨pow2 (f.precision - 1), e + 1⟩ = 2 ^ e := by
    rw [gapBelow, if_pos ⟨rfl, Int.lt_add_one_iff.mpr hmin⟩, Dyadic.ulp, hulp]
    ring
  have hvalue : Dyadic.value ⟨pow2 (f.precision - 1), e + 1⟩ = 2 ^ f.precision * 2 ^ e := by
    have hpow : (2 : ℚ) ^ f.precision = 2 * 2 ^ (f.precision - 1) := by
      exact_mod_cast two_pow_precision hf
    rw [Dyadic.value, pow2_cast, hulp, hpow]
    ring
  rw [le_div_iff₀ hpos, sub_mul] at hlow
  rw [div_lt_iff₀ hpos] at hhigh
  constructor <;> rw [hvalue]
  · linarith
  · rw [Dyadic.ulp, hulp]
    linarith
  · exact fun _ => even_two_pow hf
  · exact fun _ => even_two_pow hf

/-- The exponent is chosen so that the mantissa has as many bits as the format, unless the exponent
    would be too small for that. -/
theorem scaled_bounds (hf : 2 ≤ f.precision) {log e : ℤ} (hlow : 2 ^ log ≤ x)
    (hhigh : x < 2 ^ (log + 1)) (he : max (log - (f.precision - 1 : Nat)) f.minExponent = e) :
    x / 2 ^ e < 2 ^ f.precision ∧
      (f.minExponent < e → (2 : ℚ) ^ (f.precision - 1) ≤ x / 2 ^ e) := by
  have hpos : (0 : ℚ) < 2 ^ e := by positivity
  constructor
  · rw [div_lt_iff₀ hpos, ← zpow_natCast, ← zpow_add₀ (by norm_num)]
    exact hhigh.trans_le (zpow_le_zpow_right₀ (by norm_num) (by omega))
  · intro hlt
    rw [le_div_iff₀ hpos, ← zpow_natCast, ← zpow_add₀ (by norm_num)]
    exact le_trans (zpow_le_zpow_right₀ (by norm_num) (by omega)) hlow

/-- Rounding finds the nearest number, and only then looks at the greatest exponent. -/
theorem round_spec (hf : 2 ≤ f.precision) {num den : Nat} (hnum : 0 < num) (hden : 0 < den) :
    ∃ b, f.IsNearest (num / den) b ∧
      f.round num den = if f.maxExponent < b.exponent then none else some b := by
  obtain ⟨hlogLow, hlogHigh⟩ := floorLog2_spec hnum hden
  unfold round
  dsimp only
  generalize floorLog2 num den = log at *
  generalize he : max (log - (f.precision - 1 : Nat)) f.minExponent = e
  generalize hm : roundHalfEven (num * pow2 (-e).toNat) (den * pow2 e.toNat) = m
  have hmin : f.minExponent ≤ e := he ▸ le_max_right _ _
  have hden' : 0 < den * pow2 e.toNat := Nat.mul_pos hden (pow2_pos _)
  have hround := roundHalfEven_spec (num * pow2 (-e).toNat) hden'
  have hge {n : Nat} := le_roundHalfEven (num * pow2 (-e).toNat) hden' (n := n)
  have hle {n : Nat} := roundHalfEven_le (num * pow2 (-e).toNat) hden' (n := n)
  rw [shifted_eq, hm] at *
  obtain ⟨hupper, hlower⟩ := scaled_bounds hf hlogLow hlogHigh he
  have hmantissa : m ≤ 2 ^ f.precision := hle (by exact_mod_cast hupper)
  have hleading : f.minExponent < e → 2 ^ (f.precision - 1) ≤ m := fun hlt =>
    hge (by exact_mod_cast hlower hlt)
  have hinterval : f.InInterval (num / den) ⟨m, e⟩ :=
    inInterval_of_mantissa hround.1 hround.2.1 hround.2.2.1 hround.2.2.2 hlower
  by_cases hcarry : m = pow2 f.precision
  · -- the bits that are rounded up carry into one more bit, which the next exponent makes room for
    rw [if_pos hcarry]
    refine ⟨⟨pow2 (f.precision - 1), e + 1⟩, isNearest_of_inInterval hf ⟨?_, ?_, ?_⟩ ?_, rfl⟩
    · exact Nat.pow_lt_pow_right (by norm_num) (by omega)
    · dsimp only
      omega
    · exact fun _ => le_rfl
    · have hlow := hround.1
      rw [hcarry, pow2_cast] at hlow
      exact inInterval_of_carry hf hmin hlow hupper
  · refine ⟨⟨m, e⟩, isNearest_of_inInterval hf ⟨?_, hmin, hleading⟩ hinterval, ?_⟩
    · exact lt_of_le_of_ne hmantissa hcarry
    · rw [if_neg hcarry]

/-! ## Rounding a decimal -/

/-- A format whose numbers are numbers of double precision. -/
structure WithinDouble (f : BinaryFormat) : Prop where
  two_le_precision : 2 ≤ f.precision
  precision_le : f.precision ≤ 53
  le_minExponent : -1074 ≤ f.minExponent
  minExponent_le : f.minExponent ≤ f.maxExponent
  maxExponent_le : f.maxExponent ≤ 971

theorem binary32_withinDouble : binary32.WithinDouble := by
  constructor <;> decide

theorem binary64_withinDouble : binary64.WithinDouble := by
  constructor <;> decide

theorem value_zero (f : BinaryFormat) : f.zero.value = 0 := by
  simp [zero, Dyadic.value]

theorem zero_isFinite (hf : f.WithinDouble) : f.IsFinite f.zero :=
  ⟨⟨by rw [zero]; positivity, le_rfl, fun h => absurd h (lt_irrefl _)⟩, hf.minExponent_le⟩

/-- Up to half of the least number everything is rounded to zero. -/
theorem isNearest_zero (hf : f.WithinDouble) (hx : 0 ≤ x) (h : x ≤ 2 ^ (-1075 : ℤ)) :
    f.IsNearest x f.zero := by
  have hgap := gapBelow_pos f f.zero
  have heven : Even f.zero.mantissa := Even.zero
  have hulp : 2 ^ (-1075 : ℤ) ≤ f.zero.ulp / 2 := by
    have hle : (2 : ℚ) ^ (-1074 : ℤ) ≤ f.zero.ulp :=
      zpow_le_zpow_right₀ (by norm_num) hf.le_minExponent
    have hsplit : (2 : ℚ) ^ (-1075 : ℤ) = 2 ^ (-1074 : ℤ) / 2 := by
      rw [div_eq_mul_inv, ← zpow_sub_one₀ (by norm_num)]
      norm_num
    linarith
  apply isNearest_of_inInterval hf.two_le_precision (zero_isFinite hf).toHolds
  refine ⟨?_, ?_, fun _ => heven, fun _ => heven⟩ <;> rw [value_zero] <;> linarith

/-- What is rounded to a number within the greatest exponent is less than the power of two
    beyond it. -/
theorem lt_of_isNearest (hf : f.WithinDouble) (hx : 0 ≤ x) (h : f.IsNearest x b)
    (hmax : b.exponent ≤ f.maxExponent) : x < 2 ^ (1024 : ℤ) := by
  have hhigh := (inInterval_of_isNearest hf.two_le_precision hx h).le_high
  have hmantissa : (b.mantissa : ℚ) + 1 ≤ 2 ^ f.precision := by
    exact_mod_cast h.holds.mantissa_lt
  have hulp := b.ulp_pos
  calc x ≤ b.mantissa * b.ulp + b.ulp / 2 := by rwa [← b.value_eq]
    _ < (b.mantissa + 1) * b.ulp := by linarith
    _ ≤ 2 ^ f.precision * b.ulp := mul_le_mul_of_nonneg_right hmantissa hulp.le
    _ = 2 ^ ((f.precision : ℤ) + b.exponent) := by
      rw [zpow_add₀ (by norm_num), zpow_natCast, Dyadic.ulp]
    _ ≤ 2 ^ (1024 : ℤ) := by
      have hprecision := hf.precision_le
      have hmaxExponent := hf.maxExponent_le
      exact zpow_le_zpow_right₀ (by norm_num) (by omega)

/-- Zero and what has too many zeros behind the point. -/
theorem isNearest_zero_of_small (hf : f.WithinDouble) {d : Decimal}
    (h : d.isZero = true ∨ d.pointPlace < -digitLimit) : f.IsNearest d.magnitude f.zero := by
  apply isNearest_zero hf d.magnitude_nonneg
  obtain hzero | htiny := h
  · have hcoefficient : d.coefficient = 0 := by simpa [Decimal.isZero] using hzero
    rw [Decimal.magnitude_eq_zero_iff.mpr hcoefficient]
    positivity
  · rw [digitLimit] at htiny
    calc d.magnitude ≤ 10 ^ d.pointPlace := d.magnitude_lt_pow.le
      _ ≤ 10 ^ (-400 : ℤ) := zpow_le_zpow_right₀ (by norm_num) htiny.le
      _ ≤ 2 ^ (-1075 : ℤ) := ten_zpow_le_two_zpow (by norm_num) (by norm_num)

/-- What has too many digits in front of the point. -/
theorem lt_exponent_of_huge (hf : f.WithinDouble) {d : Decimal} (hne : d.coefficient ≠ 0)
    (h : digitLimit < d.pointPlace) (hb : f.IsNearest d.magnitude b) :
    f.maxExponent < b.exponent := by
  rw [digitLimit] at h
  by_contra hmax
  apply (lt_of_isNearest hf d.magnitude_nonneg hb (not_lt.mp hmax)).not_ge
  calc (2 : ℚ) ^ (1024 : ℤ) ≤ 10 ^ (400 : ℤ) := two_zpow_le_ten_zpow (by norm_num) (by norm_num)
    _ ≤ 10 ^ (d.pointPlace - 1) := zpow_le_zpow_right₀ (by norm_num) (by omega)
    _ ≤ d.magnitude := Decimal.pow_le_magnitude hne

theorem magnitude_eq_div (d : Decimal) : d.magnitude =
    (d.coefficient * pow10 d.exponent.toNat : Nat) / (pow10 (-d.exponent).toNat : Nat) := by
  rw [Decimal.magnitude, zpow_eq_div_toNat (by norm_num)]
  push_cast [pow10_cast]
  rw [mul_div_assoc]

/-- What a number is rounded to is left out where its exponent is too great. -/
theorem IsNearest.eq_some_iff (hf : 2 ≤ f.precision) {c : Dyadic} (hc : f.IsNearest x c) :
    (if f.maxExponent < c.exponent then none else some c) = some b ↔
      f.IsNearest x b ∧ b.exponent ≤ f.maxExponent := by
  split
  · next hover =>
    refine iff_of_false (by simp) fun ⟨hb, hmax⟩ => ?_
    rw [hc.unique hf hb] at hover
    exact absurd hover (not_lt.mpr hmax)
  · next hwithin =>
    rw [Option.some_inj]
    constructor
    · rintro rfl
      exact ⟨hc, not_lt.mp hwithin⟩
    · rintro ⟨hb, -⟩
      exact hc.unique hf hb

/-- Rounding a decimal gives the nearest number of the format, and there is no result exactly where
    that is beyond the greatest exponent. -/
theorem roundDecimal_eq_some_iff (hf : f.WithinDouble) (d : Decimal) :
    f.roundDecimal d = some b ↔ f.IsNearest d.magnitude b ∧ b.exponent ≤ f.maxExponent := by
  have hprecision := hf.two_le_precision
  unfold roundDecimal
  split
  · next hsmall =>
    have hzero := isNearest_zero_of_small hf hsmall
    rw [← hzero.eq_some_iff hprecision, if_neg (not_lt.mpr (zero_isFinite hf).le_max), zero]
  · next hsmall =>
    rw [not_or] at hsmall
    have hne : d.coefficient ≠ 0 := by simpa [Decimal.isZero] using hsmall.1
    split
    · next hhuge =>
      refine iff_of_false (by simp) fun ⟨hb, hmax⟩ => ?_
      exact absurd (lt_exponent_of_huge hf hne hhuge hb) (not_lt.mpr hmax)
    · obtain ⟨c, hc, hround⟩ := f.round_spec hprecision
        (Nat.mul_pos (Nat.pos_of_ne_zero hne) (pow10_pos d.exponent.toNat))
        (pow10_pos (-d.exponent).toNat)
      rw [← magnitude_eq_div] at hc
      rw [hround, hc.eq_some_iff hprecision]

end BinaryFormat

end SampleTypes
