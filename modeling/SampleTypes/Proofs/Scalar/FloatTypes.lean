import Mathlib
import SampleTypes.Proofs.Decimal.Precision
import SampleTypes.Proofs.Scalar.FractionalTypes

set_option autoImplicit false

/-! # Float types by the number of digits

The number of significant digits of a literal with a fraction or an exponent bounds the float type
from both sides: with few digits it takes the type wherever the format has all its bits, and a
literal of that type never has many. -/

namespace SampleTypes

/-! ## Significant digits -/

namespace Digits

/-- The digits without leading and trailing zeros. -/
def significant (ds : Digits) : Digits :=
  (ds.dropWhile fun d => d == 0).rdropWhile fun d => d == 0

theorem number_concat (ds : Digits) (d : Fin 10) : number (ds ++ [d]) = number ds * 10 + d.val := by
  simp [number_append, number]

theorem number_dropWhile (ds : Digits) : number (ds.dropWhile fun d => d == 0) = number ds := by
  induction ds with
  | nil => rfl
  | cons d ds ih =>
    rw [List.dropWhile_cons]
    split
    · next hzero =>
      rw [beq_iff_eq] at hzero
      rw [ih, number, hzero]
      simp
    · rfl

/-- Trailing zeros are factors of ten. -/
theorem exists_number_rdropWhile (ds : Digits) :
    ∃ k, number ds = number (ds.rdropWhile fun d => d == 0) * 10 ^ k := by
  induction ds using List.reverseRecOn with
  | nil => exact ⟨0, rfl⟩
  | append_singleton ds d ih =>
    rw [List.rdropWhile_concat]
    split
    · next hzero =>
      rw [beq_iff_eq] at hzero
      obtain ⟨k, hk⟩ := ih
      refine ⟨k + 1, ?_⟩
      rw [number_concat, hk, hzero, pow_succ, Fin.val_zero, Nat.add_zero, mul_assoc]
    · exact ⟨0, by rw [pow_zero, mul_one]⟩

theorem exists_number_significant (ds : Digits) :
    ∃ k, number ds = number ds.significant * 10 ^ k := by
  rw [← number_dropWhile]
  exact exists_number_rdropWhile _

variable {ds : Digits}

/-- The last significant digit is not zero. -/
theorem number_significant_mod_ten (h : ds.significant ≠ []) : number ds.significant % 10 ≠ 0 := by
  have hlast := List.rdropWhile_last_not _ _ h
  have hsplit : ds.significant.dropLast ++ [ds.significant.getLast h] = ds.significant :=
    List.dropLast_append_getLast h
  rw [beq_iff_eq] at hlast
  change ds.significant.getLast h ≠ 0 at hlast
  rw [← hsplit, number_concat]
  have hlt := (ds.significant.getLast h).isLt
  have hne : (ds.significant.getLast h).val ≠ 0 := fun hzero => hlast (Fin.ext hzero)
  omega

/-- The first significant digit is not zero. -/
theorem head?_significant (ds : Digits) : ds.significant.head? ≠ some 0 := by
  intro hhead
  obtain ⟨rest, hrest⟩ := List.head?_eq_some_iff.mp hhead
  obtain ⟨tail, htail⟩ : ds.significant <+: ds.dropWhile fun d => d == 0 :=
    List.rdropWhile_prefix _ _
  have hfirst : (ds.dropWhile fun d => d == 0).head? = some 0 := by
    rw [← htail, hrest]
    rfl
  have hnot := List.head?_dropWhile_not (fun d => d == 0) ds
  rw [hfirst] at hnot
  simp at hnot

theorem pow_le_number {d : Fin 10} (hd : d ≠ 0) (ds : Digits) :
    10 ^ ds.length ≤ number (d :: ds) := by
  have hpos : 0 < d.val := Nat.pos_of_ne_zero fun hzero => hd (Fin.ext hzero)
  calc 10 ^ ds.length ≤ d.val * 10 ^ ds.length := Nat.le_mul_of_pos_left _ hpos
    _ ≤ number (d :: ds) := Nat.le_add_right _ _

/-- All significant digits are digits of the number they write. -/
theorem digitCount_number_significant (h : ds.significant ≠ []) :
    Decimal.digitCount (number ds.significant) = ds.significant.length := by
  have hhead := ds.head?_significant
  obtain ⟨d, rest, heq⟩ := List.exists_cons_of_ne_nil h
  rw [heq] at hhead ⊢
  have hd : d ≠ 0 := fun hzero => hhead (by rw [hzero, List.head?_cons])
  rw [Decimal.digitCount_eq_log,
    Nat.log_eq_of_pow_le_of_lt_pow (pow_le_number hd rest) (number_lt (d :: rest)),
    List.length_cons]

end Digits

namespace NumberLiteral

/-- The digits of the literal, those of the exponent aside, without leading and trailing zeros. -/
def significantDigits (l : NumberLiteral) : Digits :=
  Digits.significant (l.whole ++ l.fractionDigits)

variable {l : NumberLiteral}

theorem abs_value_eq (l : NumberLiteral) : |l.value| = l.decimal.magnitude := by
  rw [← l.value_decimal, Decimal.abs_value]

theorem coefficient_ne_zero (h : l.value ≠ 0) : l.decimal.coefficient ≠ 0 := by
  rwa [Ne, ← Decimal.magnitude_eq_zero_iff, ← l.abs_value_eq, abs_eq_zero]

/-- The coefficient in normal form has just the significant digits. -/
theorem digitCount_decimal (h : l.value ≠ 0) :
    Decimal.digitCount l.decimal.coefficient = l.significantDigits.length := by
  obtain ⟨k, hk⟩ := Digits.exists_number_significant (l.whole ++ l.fractionDigits)
  have hne : l.significantDigits ≠ [] := by
    intro hnil
    rw [← significantDigits, hnil, Digits.number, zero_mul] at hk
    apply coefficient_ne_zero h
    rw [decimal, hk, Decimal.normal_zero]
  have hnormal : (⟨false, l.significantDigits.number,
      k + (l.written - l.fractionDigits.length)⟩ : Decimal).IsNormal :=
    .inl (Digits.number_significant_mod_ten hne)
  have hsame : l.decimal.magnitude = (⟨false, l.significantDigits.number,
      k + (l.written - l.fractionDigits.length)⟩ : Decimal).magnitude := by
    rw [decimal, Decimal.magnitude_normal, Decimal.magnitude, hk, ← significantDigits,
      zpow_add₀ (by norm_num), zpow_natCast]
    push_cast
    ring
  rw [(l.decimal_isNormal.digits_eq hnormal hsame).1]
  exact Digits.digitCount_number_significant hne

end NumberLiteral

/-! ## The two formats -/

theorem fractionalType?_eq_float32_iff (d : Decimal) :
    fractionalType? d = some .float32 ↔ BinaryFormat.binary32.keeps d = true := by
  unfold fractionalType?
  split_ifs <;> simp_all

theorem fractionalType?_eq_float64_iff (d : Decimal) :
    fractionalType? d = some .float64 ↔
      BinaryFormat.binary32.keeps d = false ∧ BinaryFormat.binary64.keeps d = true := by
  unfold fractionalType?
  split_ifs <;> simp_all

theorem leastFull_binary32 : BinaryFormat.binary32.leastFull.value = 2 ^ (-126 : ℤ) := by
  rw [BinaryFormat.leastFull_value]
  norm_num [BinaryFormat.binary32]

theorem leastFull_binary64 : BinaryFormat.binary64.leastFull.value = 2 ^ (-1022 : ℤ) := by
  rw [BinaryFormat.leastFull_value]
  norm_num [BinaryFormat.binary64]

theorem greatest_binary32 :
    BinaryFormat.binary32.greatest.value = (2 ^ 24 - 1) * 2 ^ (104 : ℤ) := by
  norm_num [BinaryFormat.greatest, BinaryFormat.binary32, Dyadic.value]

theorem greatest_binary64 :
    BinaryFormat.binary64.greatest.value = (2 ^ 53 - 1) * 2 ^ (971 : ℤ) := by
  norm_num [BinaryFormat.greatest, BinaryFormat.binary64, Dyadic.value]

/-- The float types of literals with a fraction or an exponent, by the significant digits. Up to 6
    give single precision between the least number with all its bits and the greatest one, and up to
    15 single or double precision. What is of single precision has no more than 9 digits, and what is
    of double precision no more than 17. -/
theorem numberType?_float_of_significantDigits (l : NumberLiteral) (hfits : l.Fits)
    (hfraction : ¬ l.IsInteger) (hne : l.value ≠ 0) :
    (l.significantDigits.length ≤ 6 → 2 ^ (-126 : ℤ) ≤ |l.value| →
      |l.value| ≤ (2 ^ 24 - 1) * 2 ^ (104 : ℤ) → numberType? l.text = some .float32) ∧
    (l.significantDigits.length ≤ 15 → 2 ^ (-1022 : ℤ) ≤ |l.value| →
      |l.value| ≤ (2 ^ 53 - 1) * 2 ^ (971 : ℤ) →
      numberType? l.text = some .float32 ∨ numberType? l.text = some .float64) ∧
    (numberType? l.text = some .float32 → l.significantDigits.length ≤ 9) ∧
    (numberType? l.text = some .float64 → l.significantDigits.length ≤ 17) := by
  have hnormal := l.decimal_isNormal
  have hcoefficient := NumberLiteral.coefficient_ne_zero hne
  have htype : numberType? l.text = fractionalType? l.decimal :=
    NumberLiteral.IsFractional.numberType?_eq (.inl hfraction) hfits
  rw [htype, l.abs_value_eq, ← NumberLiteral.digitCount_decimal hne,
    fractionalType?_eq_float32_iff, fractionalType?_eq_float64_iff]
  refine ⟨fun hcount hlow hhigh => ?_, fun hcount hlow hhigh => ?_, fun h => ?_, fun h => ?_⟩
  · rw [← leastFull_binary32] at hlow
    rw [← greatest_binary32] at hhigh
    exact BinaryFormat.keeps_of_digitCount_le BinaryFormat.binary32_withinDouble
      (s := 6) (by decide) (by decide) hnormal hcount hlow hhigh
  · rw [← leastFull_binary64] at hlow
    rw [← greatest_binary64] at hhigh
    have hkeeps := BinaryFormat.keeps_of_digitCount_le BinaryFormat.binary64_withinDouble
      (s := 15) (by decide) (by decide) hnormal hcount hlow hhigh
    cases hsingle : BinaryFormat.binary32.keeps l.decimal with
    | true => exact .inl rfl
    | false => exact .inr ⟨rfl, hkeeps⟩
  · exact BinaryFormat.digitCount_le_of_keeps BinaryFormat.binary32_withinDouble
      (s := 8) (by decide) hnormal hcoefficient h
  · exact BinaryFormat.digitCount_le_of_keeps BinaryFormat.binary64_withinDouble
      (s := 16) (by decide) hnormal hcoefficient h.2

/-- Six digits just below the greatest number of single precision, fifteen digits, and types whose
    numbers take nine and seventeen. -/
theorem numberType?_float_limits :
    numberType? "3.40282e38".toList = some .float32 ∧
      (numberType? "-12345.6789012345".toList = some .float32 ∨
        numberType? "-12345.6789012345".toList = some .float64) ∧
      numberType? "1.36441695e-05".toList = some .float32 ∧
      (Digits.significant [1, 3, 6, 4, 4, 1, 6, 9, 5]).length ≤ 9 ∧
      numberType? "0.30000000000000004".toList = some .float64 ∧
      (Digits.significant [0, 3, 0, 0, 0, 0, 0, 0, 0, 0, 0, 0, 0, 0, 0, 0, 0, 4]).length ≤ 17 := by
  let six : NumberLiteral :=
    ⟨false, [3], some [4, 0, 2, 8, 2], some ⟨false, .absent, [3, 8], by decide⟩, by decide,
      by decide, by decide⟩
  let fifteen : NumberLiteral :=
    ⟨true, [1, 2, 3, 4, 5], some [6, 7, 8, 9, 0, 1, 2, 3, 4, 5], none, by decide, by decide,
      by decide⟩
  let nine : NumberLiteral :=
    ⟨false, [1], some [3, 6, 4, 4, 1, 6, 9, 5], some ⟨false, .minus, [0, 5], by decide⟩, by decide,
      by decide, by decide⟩
  let seventeen : NumberLiteral :=
    ⟨false, [0], some [3, 0, 0, 0, 0, 0, 0, 0, 0, 0, 0, 0, 0, 0, 0, 0, 4], none, by decide,
      by decide, by decide⟩
  have hsix : |six.value| = 340282 * 10 ^ 33 := by
    norm_num [six, NumberLiteral.value, NumberLiteral.fractionDigits, NumberLiteral.written,
      Digits.number, ExponentPart.number]
  have hfifteen : |fifteen.value| = 123456789012345 / 10 ^ 10 := by
    norm_num [fifteen, NumberLiteral.value, NumberLiteral.fractionDigits, NumberLiteral.written,
      Digits.number]
  have hnine : nine.value ≠ 0 := by
    norm_num [nine, NumberLiteral.value, NumberLiteral.fractionDigits, NumberLiteral.written,
      Digits.number, ExponentPart.number]
  have hseventeen : seventeen.value ≠ 0 := by
    norm_num [seventeen, NumberLiteral.value, NumberLiteral.fractionDigits, NumberLiteral.written,
      Digits.number]
  have hlow : (2 : ℚ) ^ (-1022 : ℤ) ≤ |fifteen.value| := by
    calc (2 : ℚ) ^ (-1022 : ℤ) ≤ 2 ^ (0 : ℤ) := zpow_le_zpow_right₀ (by norm_num) (by norm_num)
      _ ≤ |fifteen.value| := by rw [hfifteen]; norm_num
  have hhigh : |fifteen.value| ≤ (2 ^ 53 - 1) * 2 ^ (971 : ℤ) := by
    calc |fifteen.value| ≤ (2 ^ 53 - 1) * 2 ^ (0 : ℤ) := by rw [hfifteen]; norm_num
      _ ≤ (2 ^ 53 - 1) * 2 ^ (971 : ℤ) :=
        mul_le_mul_of_nonneg_left (zpow_le_zpow_right₀ (by norm_num) (by norm_num)) (by norm_num)
  have hnineType : numberType? nine.text = some .float32 := by decide +kernel
  have hseventeenType : numberType? seventeen.text = some .float64 := by decide +kernel
  obtain ⟨hsixType, -⟩ := numberType?_float_of_significantDigits six ⟨by decide, by decide⟩
    (by decide) (abs_ne_zero.mp (by rw [hsix]; norm_num))
  obtain ⟨-, hfifteenType, -⟩ := numberType?_float_of_significantDigits fifteen
    ⟨by decide, by decide⟩ (by decide) (abs_ne_zero.mp (by rw [hfifteen]; norm_num))
  obtain ⟨-, -, hnineDigits, -⟩ := numberType?_float_of_significantDigits nine
    ⟨by decide, by decide⟩ (by decide) hnine
  obtain ⟨-, -, -, hseventeenDigits⟩ := numberType?_float_of_significantDigits seventeen
    ⟨by decide, by decide⟩ (by decide) hseventeen
  refine ⟨hsixType (by decide) ?_ ?_, hfifteenType (by decide) hlow hhigh, hnineType,
    hnineDigits hnineType, hseventeenType, hseventeenDigits hseventeenType⟩
  · rw [hsix]
    norm_num
  · rw [hsix]
    norm_num

end SampleTypes
