import Mathlib
import SampleTypes.Inference.Classify
import SampleTypes.Proofs.Decimal.Shortest
import SampleTypes.Proofs.Scalar.IntegerTypes

set_option autoImplicit false

/-! # Fractional types of number literals

Outside the integer types a literal is judged by its number in normal form, and neither the way it is
written nor its sign matters. -/

namespace SampleTypes

/-- Whether the digits and the exponent are those of the shortest decimal for a number of single or of
    double precision. -/
def Decimal.IsFloatRendering (d : Decimal) : Prop :=
  ∃ f ∈ [BinaryFormat.binary32, BinaryFormat.binary64], ∃ b, f.IsFinite b ∧
    f.IsShortest b { d with negative := false }

theorem Decimal.isFloatRendering_iff {d : Decimal} (hd : d.IsNormal) :
    d.IsFloatRendering ↔
      BinaryFormat.binary32.keeps d = true ∨ BinaryFormat.binary64.keeps d = true := by
  rw [BinaryFormat.keeps_iff BinaryFormat.binary32_withinDouble hd,
    BinaryFormat.keeps_iff BinaryFormat.binary64_withinDouble hd]
  simp [Decimal.IsFloatRendering]

/-- A number whose digits left of the point can be counted has no type if it is too great for the
    decimal type and no float type keeps its digits. -/
theorem fractionalType?_eq_none_iff {d : Decimal} (hd : d.IsNormal)
    (hcounted : Decimal.isWord d.pointPlace = true) :
    fractionalType? d = none ↔ (decimalMax : ℚ) < d.magnitude ∧ ¬ d.IsFloatRendering := by
  have hbound := Decimal.magnitudeLe_iff hd hcounted (show decimalMax ≠ 0 by decide)
  rw [← not_le, ← hbound, Decimal.isFloatRendering_iff hd, not_or]
  unfold fractionalType?
  split_ifs <;> simp_all

theorem magnitude_le_of_fractionalType?_eq_decimal {d : Decimal} (hd : d.IsNormal)
    (hcounted : Decimal.isWord d.pointPlace = true) (h : fractionalType? d = some .decimal) :
    d.magnitude ≤ decimalMax := by
  rw [← Decimal.magnitudeLe_iff hd hcounted (by decide)]
  unfold fractionalType? at h
  split_ifs at h <;> simp_all

/-- The type does not depend on the sign. -/
theorem fractionalType?_negative (negative : Bool) (d : Decimal) :
    fractionalType? { d with negative := negative } = fractionalType? d :=
  rfl

theorem fractionalType?_eq_of_magnitude_eq {d d' : Decimal} (h : d.IsNormal) (h' : d'.IsNormal)
    (heq : d.magnitude = d'.magnitude) : fractionalType? d = fractionalType? d' := by
  obtain ⟨hcoefficient, hexponent⟩ := h.digits_eq h' heq
  have hd : d = { d' with negative := d.negative } := by
    rw [← hcoefficient, ← hexponent]
  rw [hd, fractionalType?_negative]

namespace NumberLiteral

variable {l m : NumberLiteral}

theorem IsFractional.numberType?_eq (h : l.IsFractional) (hfits : l.Fits) :
    SampleTypes.numberType? l.text = fractionalType? l.decimal := by
  rw [h.numberType?, l.ofLiteral?_text hfits, Option.bind_some]

/-- What the integer types take is far below the bound of the decimal type. -/
theorem exists_integer_of_not_isFractional (h : ¬ l.IsFractional) :
    |l.value| ≤ decimalMax ∧ ∃ type ∈ integerTypes, SampleTypes.numberType? l.text = some type := by
  rw [IsFractional, not_or, not_or, not_not, not_lt, not_le] at h
  obtain ⟨hinteger, hlow, hhigh⟩ := h
  constructor
  · rw [abs_le]
    constructor <;> norm_num [decimalMax] <;> linarith
  · rw [← l.integer_cast hinteger] at hlow hhigh
    cases htype : integerType? l.integer with
    | none =>
      obtain hout | hout := (integerType?_eq_none_iff l.integer).mp htype
      · exact absurd hlow (not_le.mpr (by exact_mod_cast hout))
      · exact absurd hhigh (not_lt.mpr (by exact_mod_cast hout))
    | some type =>
      have hmem := mem_integerTypes_of_integerType? htype
      exact ⟨type, hmem, (hinteger.numberType?_eq_iff hmem).mpr htype⟩

end NumberLiteral

theorem leafType_number (literal : List Char) :
    leafType (.number (String.ofList literal)) =
      (numberType? literal).elim (.error (.unsupportedNumber (String.ofList literal))) .ok := by
  rw [leafType, String.toList_ofList]
  cases numberType? literal <;> rfl

/-- The rejection of number literals is exact. A literal is unsupported if its value is too great for
    the decimal type and its digits are not what a number of single or double precision is written as.
    All others have a type, and the decimal type only up to the bound. -/
theorem leafType_eq_unsupportedNumber_iff (l : NumberLiteral) (h : l.Fits) :
    ∃ d, Decimal.ofLiteral? l.text = some d ∧ d.value = l.value ∧
      (leafType (.number (String.ofList l.text)) =
          .error (.unsupportedNumber (String.ofList l.text)) ↔
        (decimalMax : ℚ) < |l.value| ∧ ¬ d.IsFloatRendering) ∧
      (|l.value| ≤ decimalMax → ∃ type, leafType (.number (String.ofList l.text)) = .ok type) ∧
      (leafType (.number (String.ofList l.text)) = .ok .decimal → |l.value| ≤ decimalMax) := by
  refine ⟨l.decimal, l.ofLiteral?_text h, l.value_decimal, ?_⟩
  have habs : |l.value| = l.decimal.magnitude := by rw [← l.value_decimal, Decimal.abs_value]
  have hnormal := l.decimal_isNormal
  have hcounted := l.decimal_pointPlace_isWord h
  rw [leafType_number]
  by_cases hfractional : l.IsFractional
  · rw [hfractional.numberType?_eq h, habs, ← fractionalType?_eq_none_iff hnormal hcounted]
    have hdecimal := magnitude_le_of_fractionalType?_eq_decimal hnormal hcounted
    have hnone := (fractionalType?_eq_none_iff hnormal hcounted).mp
    cases htype : fractionalType? l.decimal with
    | none => exact ⟨by simp, fun hle => absurd (hnone htype).1 (not_lt.mpr hle), by simp⟩
    | some type =>
      refine ⟨by simp, fun _ => ⟨type, rfl⟩, fun heq => hdecimal ?_⟩
      rw [htype, Except.ok.inj heq]
  · obtain ⟨hle, type, htype, heq⟩ := NumberLiteral.exists_integer_of_not_isFractional hfractional
    rw [heq]
    exact ⟨by simp [hle], fun _ => ⟨type, rfl⟩, fun _ => hle⟩

/-- The power of two next above the decimal type is rejected: its digits are more than any format
    would write for it. -/
theorem not_isFloatRendering_two_pow_96 :
    ∃ d, Decimal.ofLiteral? "79228162514264337593543950336".toList = some d ∧ d.value = 2 ^ 96 ∧
      ¬ d.IsFloatRendering := by
  let l : NumberLiteral :=
    ⟨false, [7, 9, 2, 2, 8, 1, 6, 2, 5, 1, 4, 2, 6, 4, 3, 3, 7, 5, 9, 3, 5, 4, 3, 9, 5, 0, 3, 3, 6],
      none, none, by decide, by decide, by decide⟩
  have hvalue : l.value = 2 ^ 96 := by
    norm_num [l, NumberLiteral.value, NumberLiteral.fractionDigits, NumberLiteral.written,
      Digits.number]
  obtain ⟨d, hd, hdvalue, hiff, -⟩ := leafType_eq_unsupportedNumber_iff l ⟨by decide, by decide⟩
  refine ⟨d, hd, hdvalue.trans hvalue, (hiff.mp ?_).2⟩
  rw [leafType_number]
  have hnone : numberType? l.text = none := by decide +kernel
  rw [hnone, Option.elim_none]

/-- Literals outside the integer types are judged by their value alone: two that stand for equal or
    for opposite numbers have the same type, or both have none. What they are judged by is a
    canonical form of the value. -/
theorem numberType?_eq_of_abs_value_eq (l m : NumberLiteral) (hl : l.Fits) (hm : m.Fits) :
    (l.IsFractional → m.IsFractional → |l.value| = |m.value| →
      numberType? l.text = numberType? m.text) ∧
    (Decimal.ofLiteral? l.text = Decimal.ofLiteral? m.text ↔ l.value = m.value) := by
  constructor
  · intro hl' hm' habs
    rw [hl'.numberType?_eq hl, hm'.numberType?_eq hm]
    apply fractionalType?_eq_of_magnitude_eq l.decimal_isNormal m.decimal_isNormal
    rw [← Decimal.abs_value, ← Decimal.abs_value, l.value_decimal, m.value_decimal, habs]
  · rw [l.ofLiteral?_text hl, m.ofLiteral?_text hm, Option.some_inj]
    constructor
    · intro heq
      rw [← l.value_decimal, heq, m.value_decimal]
    · intro heq
      apply l.decimal_isNormal.eq_of_value_eq m.decimal_isNormal
      rw [l.value_decimal, m.value_decimal, heq]

/-- One and a half, written with a trailing zero and with an exponent. -/
theorem numberType?_one_and_half :
    numberType? "1.50".toList = numberType? "-15e-1".toList ∧
      Decimal.ofLiteral? "1.50".toList ≠ Decimal.ofLiteral? "-15e-1".toList := by
  let l : NumberLiteral := ⟨false, [1], some [5, 0], none, by decide, by decide, by decide⟩
  let m : NumberLiteral :=
    ⟨true, [1, 5], none, some ⟨false, .minus, [1], by decide⟩, by decide, by decide, by decide⟩
  have hl : l.Fits := ⟨by decide, by decide⟩
  have hm : m.Fits := ⟨by decide, by decide⟩
  have hlvalue : l.value = 3 / 2 := by
    norm_num [l, NumberLiteral.value, NumberLiteral.fractionDigits, NumberLiteral.written,
      Digits.number]
  have hmvalue : m.value = -(3 / 2) := by
    norm_num [m, NumberLiteral.value, NumberLiteral.fractionDigits, NumberLiteral.written,
      Digits.number, ExponentPart.number]
  obtain ⟨htype, hform⟩ := numberType?_eq_of_abs_value_eq l m hl hm
  constructor
  · refine htype (.inl (by decide)) (.inl (by decide)) ?_
    rw [hlvalue, hmvalue, abs_neg]
  · refine fun heq => absurd (hform.mp heq) ?_
    rw [hlvalue, hmvalue]
    norm_num

end SampleTypes
