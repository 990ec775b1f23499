import Mathlib
import SampleTypes.Decimal.Basic

set_option autoImplicit false

/-! # Values of decimal numbers

What a decimal denotes is a rational number. Each rational number that has a decimal has exactly one
in normal form (`IsNormal.eq_of_value_eq`), and its digits left of the point place it between two
powers of ten, which is why the comparison with a bound may count digits first. -/

namespace SampleTypes

/-- A power as the quotient that integer arithmetic works with. -/
theorem zpow_eq_div_toNat {b : ℚ} (hb : b ≠ 0) (k : ℤ) :
    b ^ k = b ^ k.toNat / b ^ (-k).toNat := by
  rw [eq_div_iff (pow_ne_zero _ hb), ← zpow_natCast, ← zpow_natCast, ← zpow_add₀ hb]
  congr 1
  omega

theorem pow10_cast (n : Nat) : ((pow10 n : Nat) : ℚ) = 10 ^ n :=
  Nat.cast_pow 10 n

namespace Decimal

/-- The number without its sign. -/
def magnitude (d : Decimal) : ℚ := d.coefficient * 10 ^ d.exponent

/-- The number that is denoted. -/
def value (d : Decimal) : ℚ := if d.negative then -d.magnitude else d.magnitude

theorem magnitude_nonneg (d : Decimal) : 0 ≤ d.magnitude := by
  unfold magnitude
  positivity

theorem abs_value (d : Decimal) : |d.value| = d.magnitude := by
  unfold value
  split
  · rw [abs_neg, abs_of_nonneg d.magnitude_nonneg]
  · rw [abs_of_nonneg d.magnitude_nonneg]

/-! ## The normal form -/

/-- Whether the coefficient has no trailing zero; of all zeros, the one without sign and scale. -/
def IsNormal (d : Decimal) : Prop :=
  d.coefficient % 10 ≠ 0 ∨ d = ⟨false, 0, 0⟩

theorem stripZeros_zero (e : ℤ) : stripZeros 0 e = (0, 0) := by
  simp [stripZeros]

/-- The zeros that are dropped are counted by the exponent. -/
theorem stripZeros_spec {n : Nat} (hn : n ≠ 0) (e : ℤ) :
    ∃ m k : Nat, stripZeros n e = (m, e + k) ∧ n = m * 10 ^ k ∧ m % 10 ≠ 0 := by
  fun_induction stripZeros n e with
  | case1 => exact absurd rfl hn
  | case2 n e _ hzero ih =>
    obtain ⟨m, k, hstrip, hm, hlast⟩ := ih (by omega)
    refine ⟨m, k + 1, ?_, ?_, hlast⟩
    · rw [hstrip]
      push_cast
      ring_nf
    · rw [pow_succ, ← mul_assoc, ← hm]
      omega
  | case3 n e _ hlast => exact ⟨n, 0, by simp, by simp, hlast⟩

theorem normal_zero (negative : Bool) (e : ℤ) : normal negative 0 e = ⟨false, 0, 0⟩ := by
  simp [normal, stripZeros_zero]

/-- The normal form of a number that is not zero. -/
theorem normal_spec (negative : Bool) {n : Nat} (hn : n ≠ 0) (e : ℤ) :
    ∃ m k : Nat, normal negative n e = ⟨negative, m, e + k⟩ ∧ n = m * 10 ^ k ∧ m % 10 ≠ 0 := by
  obtain ⟨m, k, hstrip, hm, hlast⟩ := stripZeros_spec hn e
  have hne : m ≠ 0 := by
    rintro rfl
    exact hlast rfl
  exact ⟨m, k, by simp [normal, hstrip, hne], hm, hlast⟩

theorem normal_isNormal (negative : Bool) (n : Nat) (e : ℤ) : (normal negative n e).IsNormal := by
  by_cases hn : n = 0
  · rw [hn, normal_zero]
    exact .inr rfl
  · obtain ⟨m, k, heq, -, hlast⟩ := normal_spec negative hn e
    rw [heq]
    exact .inl hlast

theorem magnitude_normal (negative : Bool) (n : Nat) (e : ℤ) :
    (normal negative n e).magnitude = n * 10 ^ e := by
  by_cases hn : n = 0
  · simp [hn, normal_zero, magnitude]
  · obtain ⟨m, k, heq, hm, -⟩ := normal_spec negative hn e
    rw [heq, magnitude, hm]
    push_cast
    rw [zpow_add₀ (by norm_num), zpow_natCast]
    ring

theorem value_normal (negative : Bool) (n : Nat) (e : ℤ) :
    (normal negative n e).value = if negative then -((n : ℚ) * 10 ^ e) else n * 10 ^ e := by
  by_cases hn : n = 0
  · simp [hn, normal_zero, value, magnitude]
  · obtain ⟨m, k, heq, -, -⟩ := normal_spec negative hn e
    rw [value, magnitude_normal, heq]

variable {d d' : Decimal}

theorem magnitude_eq_zero_iff : d.magnitude = 0 ↔ d.coefficient = 0 := by
  have hpow : (10 : ℚ) ^ d.exponent ≠ 0 := by positivity
  rw [magnitude, mul_eq_zero, or_iff_left hpow, Nat.cast_eq_zero]

theorem IsNormal.eq_zero (h : d.IsNormal) (hzero : d.coefficient = 0) : d = ⟨false, 0, 0⟩ :=
  h.resolve_left (by simp [hzero])

/-- Of two equal numbers the one with the smaller exponent has the trailing zeros. -/
theorem exponent_le_of_magnitude_eq (h : d.magnitude = d'.magnitude) (hd : d.coefficient % 10 ≠ 0) :
    d'.exponent ≤ d.exponent := by
  by_contra hlt
  rw [not_le] at hlt
  -- the difference of the exponents would be the trailing zeros of the first coefficient
  obtain ⟨k, hk⟩ := Int.exists_add_of_le (Int.add_one_le_iff.mpr hlt)
  have hsplit : (10 : ℚ) ^ d'.exponent = 10 ^ d.exponent * (10 ^ k * 10) := by
    rw [hk, zpow_add₀ (by norm_num), zpow_add₀ (by norm_num), zpow_natCast, zpow_one]
    ring
  have hpow : (10 : ℚ) ^ d.exponent ≠ 0 := by positivity
  have hcoefficient : (d.coefficient : ℚ) = d'.coefficient * 10 ^ k * 10 := by
    apply mul_right_cancel₀ hpow
    rw [← magnitude, h, magnitude, hsplit]
    ring
  have hnat : d.coefficient = d'.coefficient * 10 ^ k * 10 := by exact_mod_cast hcoefficient
  omega

theorem IsNormal.digits_eq (h : d.IsNormal) (h' : d'.IsNormal) (heq : d.magnitude = d'.magnitude) :
    d.coefficient = d'.coefficient ∧ d.exponent = d'.exponent := by
  by_cases hzero : d.coefficient = 0
  · have hzero' : d'.coefficient = 0 := by
      rwa [← magnitude_eq_zero_iff, ← heq, magnitude_eq_zero_iff]
    rw [h.eq_zero hzero, h'.eq_zero hzero']
    exact ⟨rfl, rfl⟩
  · have hzero' : d'.coefficient ≠ 0 := by
      rwa [Ne, ← magnitude_eq_zero_iff, ← heq, magnitude_eq_zero_iff]
    have hlast : d.coefficient % 10 ≠ 0 := h.resolve_right fun h => hzero (by rw [h])
    have hlast' : d'.coefficient % 10 ≠ 0 := h'.resolve_right fun h => hzero' (by rw [h])
    have hexponent : d.exponent = d'.exponent :=
      le_antisymm (exponent_le_of_magnitude_eq heq.symm hlast')
        (exponent_le_of_magnitude_eq heq hlast)
    have hpow : (10 : ℚ) ^ d'.exponent ≠ 0 := by positivity
    rw [magnitude, magnitude, hexponent] at heq
    exact ⟨by exact_mod_cast mul_right_cancel₀ hpow heq, hexponent⟩

/-- Each number has one normal form. -/
theorem IsNormal.eq_of_value_eq (h : d.IsNormal) (h' : d'.IsNormal) (heq : d.value = d'.value) :
    d = d' := by
  have hmagnitude : d.magnitude = d'.magnitude := by rw [← abs_value, heq, abs_value]
  obtain ⟨hcoefficient, hexponent⟩ := h.digits_eq h' hmagnitude
  by_cases hzero : d.coefficient = 0
  · rw [h.eq_zero hzero, h'.eq_zero (hcoefficient ▸ hzero)]
  · have hpos : d'.magnitude ≠ 0 := by
      rwa [Ne, ← hmagnitude, magnitude_eq_zero_iff]
    have hsign : d.negative = d'.negative := by
      rw [value, value, hmagnitude] at heq
      cases hneg : d.negative <;> cases hneg' : d'.negative <;> simp [hneg, hneg'] at heq ⊢
      · exact hpos (by linarith)
      · exact hpos (by linarith)
    cases d
    cases d'
    simp_all

/-! ## Digits left of the point -/

theorem digitCount_eq_log (n : Nat) : digitCount n = Nat.log 10 n + 1 := by
  fun_induction digitCount n with
  | case1 n hn => rw [Nat.log_of_lt hn]
  | case2 n hn ih => rw [ih, Nat.log_of_one_lt_of_le (by norm_num) (Nat.le_of_not_lt hn)]

theorem pow_digitCount_le {n : Nat} (hn : n ≠ 0) : 10 ^ (digitCount n - 1) ≤ n := by
  rw [digitCount_eq_log, Nat.add_sub_cancel]
  exact Nat.pow_log_le_self 10 hn

theorem lt_pow_digitCount (n : Nat) : n < 10 ^ digitCount n := by
  rw [digitCount_eq_log]
  exact Nat.lt_pow_succ_log_self (by norm_num) n

theorem digitCount_pos (n : Nat) : 0 < digitCount n := by
  rw [digitCount_eq_log]
  exact Nat.succ_pos _

theorem digitCount_zero : digitCount 0 = 1 := by
  rw [digitCount_eq_log, Nat.log_zero_right]

theorem digitCount_le_iff {n k : Nat} (hk : k ≠ 0) : digitCount n ≤ k ↔ n < 10 ^ k := by
  rw [digitCount_eq_log, Nat.add_one_le_iff]
  exact ⟨Nat.lt_pow_of_log_lt (by norm_num), Nat.log_lt_of_lt_pow' hk⟩

/-- A power of ten has one digit in normal form, like the digits it is carried from. -/
theorem digitCount_normal_le {n k : Nat} (hk : k ≠ 0) (h : n ≤ 10 ^ k) (negative : Bool) (e : ℤ) :
    digitCount (normal negative n e).coefficient ≤ k := by
  rw [digitCount_le_iff hk]
  obtain rfl | hlt := h.eq_or_lt
  · have hone : (⟨false, 1, k + e⟩ : Decimal).IsNormal := .inl (by norm_num)
    have hsame : (normal negative (10 ^ k) e).magnitude = (⟨false, 1, k + e⟩ : Decimal).magnitude := by
      rw [magnitude_normal, magnitude, zpow_add₀ (by norm_num), zpow_natCast]
      push_cast
      ring
    rw [((normal_isNormal _ _ _).digits_eq hone hsame).1]
    exact Nat.one_lt_pow hk (by norm_num)
  · by_cases hn : n = 0
    · rw [hn, normal_zero]
      positivity
    · obtain ⟨m, t, heq, hm, -⟩ := normal_spec negative hn e
      rw [heq]
      have hle : m ≤ n := hm ▸ Nat.le_mul_of_pos_right m (by positivity)
      exact hle.trans_lt hlt

/-- The number of digits left of the point tells between which powers of ten a number lies. -/
theorem magnitude_lt_pow (d : Decimal) : d.magnitude < 10 ^ d.pointPlace := by
  have hpow : (0 : ℚ) < 10 ^ d.exponent := by positivity
  have hlt : (d.coefficient : ℚ) < 10 ^ digitCount d.coefficient := by
    exact_mod_cast lt_pow_digitCount d.coefficient
  rw [magnitude, pointPlace, zpow_add₀ (by norm_num), zpow_natCast]
  exact mul_lt_mul_of_pos_right hlt hpow

theorem pow_le_magnitude (hd : d.coefficient ≠ 0) : 10 ^ (d.pointPlace - 1) ≤ d.magnitude := by
  have hpow : (0 : ℚ) < 10 ^ d.exponent := by positivity
  have hle : (10 : ℚ) ^ (digitCount d.coefficient - 1) ≤ d.coefficient := by
    exact_mod_cast pow_digitCount_le hd
  have hexponent : d.pointPlace - 1 = ((digitCount d.coefficient - 1 : Nat) : ℤ) + d.exponent := by
    rw [pointPlace, Nat.cast_sub (digitCount_pos _)]
    push_cast
    ring
  rw [magnitude, hexponent, zpow_add₀ (by norm_num), zpow_natCast]
  exact mul_le_mul_of_nonneg_right hle hpow.le

/-- The point of a number stands as many digits from the front as were written in front of it. -/
theorem pointPlace_normal_le (negative : Bool) {n k : Nat} (hn : n ≠ 0) (h : n < 10 ^ k) (e : ℤ) :
    (normal negative n e).pointPlace ≤ k + e := by
  have hmagnitude := magnitude_normal negative n e
  have hne : (normal negative n e).coefficient ≠ 0 := by
    rw [Ne, ← magnitude_eq_zero_iff, hmagnitude]
    positivity
  have hlt : (10 : ℚ) ^ ((normal negative n e).pointPlace - 1) < 10 ^ (k + e) := by
    calc (10 : ℚ) ^ ((normal negative n e).pointPlace - 1) ≤ n * 10 ^ e :=
          hmagnitude ▸ pow_le_magnitude hne
      _ < 10 ^ k * 10 ^ e := mul_lt_mul_of_pos_right (by exact_mod_cast h) (by positivity)
      _ = 10 ^ (k + e) := by rw [zpow_add₀ (by norm_num), zpow_natCast]
  have hplace := (zpow_lt_zpow_iff_right₀ (by norm_num)).mp hlt
  omega

/-- The point never stands below the last digit. -/
theorem exponent_lt_pointPlace (d : Decimal) : d.exponent < d.pointPlace := by
  have hpos := digitCount_pos d.coefficient
  rw [pointPlace]
  omega

theorem isWord_iff (e : ℤ) : isWord e = true ↔ -2 ^ 63 ≤ e ∧ e < 2 ^ 63 := by
  rw [isWord, Bool.and_eq_true, decide_eq_true_eq, decide_eq_true_eq]
  norm_num

/-- Within 64 bits the sum is the place of the point. -/
theorem integerDigits_eq (h : isWord d.pointPlace = true) : d.integerDigits = d.pointPlace := by
  obtain ⟨hlow, hhigh⟩ := (isWord_iff _).mp h
  exact Int.bmod_eq_of_le (by omega) (by omega)

/-- A number is compared with a bound by its digits left of the point, as far as they can be counted,
    and where it has as many as the bound, by its value. -/
theorem magnitudeLe_iff (hd : d.IsNormal) (hcounted : isWord d.pointPlace = true) {bound : Nat}
    (hbound : bound ≠ 0) : d.magnitudeLe bound = true ↔ d.magnitude ≤ bound := by
  have hlow : (10 : ℚ) ^ ((digitCount bound : ℤ) - 1) ≤ bound := by
    have hpos := digitCount_pos bound
    have hcast : (digitCount bound : ℤ) - 1 = ((digitCount bound - 1 : Nat) : ℤ) := by omega
    rw [hcast, zpow_natCast]
    exact_mod_cast pow_digitCount_le hbound
  have hhigh : (bound : ℚ) < 10 ^ (digitCount bound : ℤ) := by
    rw [zpow_natCast]
    exact_mod_cast lt_pow_digitCount bound
  rw [magnitudeLe, integerDigits_eq hcounted]
  split
  · next hless =>
    refine iff_of_true rfl ?_
    calc d.magnitude ≤ 10 ^ d.pointPlace := (magnitude_lt_pow d).le
      _ ≤ 10 ^ ((digitCount bound : ℤ) - 1) := zpow_le_zpow_right₀ (by norm_num) (by omega)
      _ ≤ bound := hlow
  · split
    · next hmore =>
      refine iff_of_false (by simp) (not_le.mpr ?_)
      have hne : d.coefficient ≠ 0 := by
        intro hzero
        have hpos := digitCount_pos bound
        simp only [hd.eq_zero hzero, pointPlace, digitCount_zero] at hmore
        omega
      calc (bound : ℚ) < 10 ^ (digitCount bound : ℤ) := hhigh
        _ ≤ 10 ^ (d.pointPlace - 1) := zpow_le_zpow_right₀ (by norm_num) (by omega)
        _ ≤ d.magnitude := pow_le_magnitude hne
    · have hpow : (0 : ℚ) < 10 ^ (-d.exponent).toNat := by positivity
      rw [decide_eq_true_eq, magnitude, zpow_eq_div_toNat (by norm_num), ← mul_div_assoc,
        div_le_iff₀ hpow, ← pow10_cast, ← pow10_cast]
      exact_mod_cast Iff.rfl

end Decimal

end SampleTypes
