import Mathlib
import SampleTypes.Proofs.Decimal.Literal

set_option autoImplicit false

/-! # Integer types of number literals

The integer types divide the numbers of the machine's words among themselves without a gap and
without an overlap. A literal that is written with a fraction or an exponent, or that stands for a
number outside the words, is left to the fractional types. -/

namespace SampleTypes

/-- The types that hold integers only. -/
def integerTypes : List ValueType := [.int32, .uint32, .int64, .uint64]

/-! ## Integers -/

theorem integerType?_eq_int32_iff (n : ℤ) :
    integerType? n = some .int32 ↔ -2 ^ 31 ≤ n ∧ n < 2 ^ 31 := by
  unfold integerType?
  split_ifs <;> simp <;> omega

theorem integerType?_eq_uint32_iff (n : ℤ) :
    integerType? n = some .uint32 ↔ 2 ^ 31 ≤ n ∧ n < 2 ^ 32 := by
  unfold integerType?
  split_ifs <;> simp <;> omega

theorem integerType?_eq_int64_iff (n : ℤ) :
    integerType? n = some .int64 ↔ -2 ^ 63 ≤ n ∧ n < -2 ^ 31 ∨ 2 ^ 32 ≤ n ∧ n < 2 ^ 63 := by
  unfold integerType?
  split_ifs <;> simp <;> omega

theorem integerType?_eq_uint64_iff (n : ℤ) :
    integerType? n = some .uint64 ↔ 2 ^ 63 ≤ n ∧ n < 2 ^ 64 := by
  unfold integerType?
  split_ifs <;> simp <;> omega

theorem integerType?_eq_none_iff (n : ℤ) :
    integerType? n = none ↔ n < -2 ^ 63 ∨ 2 ^ 64 ≤ n := by
  unfold integerType?
  split_ifs <;> simp <;> omega

theorem mem_integerTypes_of_integerType? {n : ℤ} {type : ValueType} (h : integerType? n = some type) :
    type ∈ integerTypes := by
  unfold integerType? at h
  split_ifs at h <;> obtain rfl := Option.some.inj h <;> decide

/-! ## Literals -/

/-- A number that takes no integer type is never given one. -/
theorem fractionalType?_ne {d : Decimal} {type : ValueType} (h : type ∈ integerTypes) :
    fractionalType? d ≠ some type := by
  have hcases : fractionalType? d = some .float32 ∨ fractionalType? d = some .float64 ∨
      fractionalType? d = some .decimal ∨ fractionalType? d = none := by
    unfold fractionalType?
    split_ifs <;> simp
  rintro heq
  rw [heq] at hcases
  obtain rfl | rfl | rfl | rfl : type = .int32 ∨ type = .uint32 ∨ type = .int64 ∨ type = .uint64 := by
    simpa [integerTypes] using h
  all_goals simp at hcases

namespace NumberLiteral

variable (l : NumberLiteral)

/-- Whether the literal stands outside the integer types: by how it is written, or by its value. -/
def IsFractional : Prop := ¬ l.IsInteger ∨ l.value < -2 ^ 63 ∨ 2 ^ 64 ≤ l.value

theorem numberType?_of_isInteger (h : l.IsInteger) :
    numberType? l.text =
      (integerType? l.integer).or ((Decimal.ofLiteral? l.text).bind fractionalType?) := by
  have hinteger : isIntegerLiteral l.text = true := l.isIntegerLiteral_text.mpr h
  unfold numberType?
  rw [if_pos hinteger, l.intValue?_text h, Option.bind_some]
  cases integerType? l.integer <;> rfl

variable {l}

theorem IsFractional.numberType? (h : l.IsFractional) :
    numberType? l.text = (Decimal.ofLiteral? l.text).bind fractionalType? := by
  by_cases hinteger : l.IsInteger
  · have hout : integerType? l.integer = none := by
      rw [integerType?_eq_none_iff]
      have hcast := l.integer_cast hinteger
      obtain hnot | hlow | hhigh := h
      · exact absurd hinteger hnot
      · rw [← hcast] at hlow
        exact .inl (by exact_mod_cast hlow)
      · rw [← hcast] at hhigh
        exact .inr (by exact_mod_cast hhigh)
    rw [l.numberType?_of_isInteger hinteger, hout, Option.none_or]
  · have hnot : ¬ isIntegerLiteral l.text = true := by rwa [l.isIntegerLiteral_text]
    unfold SampleTypes.numberType?
    rw [if_neg hnot]

/-- An integer literal takes an integer type exactly where its value does. -/
theorem IsInteger.numberType?_eq_iff (h : l.IsInteger) {type : ValueType} (htype : type ∈ integerTypes) :
    SampleTypes.numberType? l.text = some type ↔ integerType? l.integer = some type := by
  rw [l.numberType?_of_isInteger h]
  cases hinteger : integerType? l.integer with
  | some found => simp
  | none =>
    have hne : ∀ d, fractionalType? d ≠ some type := fun d => fractionalType?_ne htype
    cases Decimal.ofLiteral? l.text <;> simp [hne]

end NumberLiteral

/-- The integer types are given by value. An integer literal of any length takes the type whose
    range holds its value, and a literal that is outside all of them, or that is written with a
    fraction or an exponent, takes none of them. -/
theorem numberType?_eq_integer_iff (l : NumberLiteral) :
    (l.IsInteger →
      (numberType? l.text = some .int32 ↔ -2 ^ 31 ≤ l.value ∧ l.value < 2 ^ 31) ∧
      (numberType? l.text = some .uint32 ↔ 2 ^ 31 ≤ l.value ∧ l.value < 2 ^ 32) ∧
      (numberType? l.text = some .int64 ↔
        -2 ^ 63 ≤ l.value ∧ l.value < -2 ^ 31 ∨ 2 ^ 32 ≤ l.value ∧ l.value < 2 ^ 63) ∧
      (numberType? l.text = some .uint64 ↔ 2 ^ 63 ≤ l.value ∧ l.value < 2 ^ 64)) ∧
    (l.IsFractional → ∀ type ∈ integerTypes, numberType? l.text ≠ some type) := by
  constructor
  · intro h
    have hcast := l.integer_cast h
    refine ⟨?_, ?_, ?_, ?_⟩
    · rw [h.numberType?_eq_iff (by simp [integerTypes]), integerType?_eq_int32_iff, ← hcast]
      exact_mod_cast Iff.rfl
    · rw [h.numberType?_eq_iff (by simp [integerTypes]), integerType?_eq_uint32_iff, ← hcast]
      exact_mod_cast Iff.rfl
    · rw [h.numberType?_eq_iff (by simp [integerTypes]), integerType?_eq_int64_iff, ← hcast]
      exact_mod_cast Iff.rfl
    · rw [h.numberType?_eq_iff (by simp [integerTypes]), integerType?_eq_uint64_iff, ← hcast]
      exact_mod_cast Iff.rfl
  · intro h type htype
    rw [h.numberType?]
    cases Decimal.ofLiteral? l.text with
    | none => simp
    | some d => simpa using fractionalType?_ne htype

/-- The least number beyond the signed 32 bits, and a small number that is written with a point. -/
theorem numberType?_two_pow_31 :
    numberType? "2147483648".toList = some .uint32 ∧
      ∀ type ∈ integerTypes, numberType? "1.0".toList ≠ some type := by
  let large : NumberLiteral :=
    ⟨false, [2, 1, 4, 7, 4, 8, 3, 6, 4, 8], none, none, by decide, by decide, by decide⟩
  let one : NumberLiteral := ⟨false, [1], some [0], none, by decide, by decide, by decide⟩
  have hvalue : large.value = 2 ^ 31 := by
    norm_num [large, NumberLiteral.value, NumberLiteral.fractionDigits, NumberLiteral.written,
      Digits.number]
  constructor
  · refine ((numberType?_eq_integer_iff large).1 (by decide)).2.1.mpr ?_
    rw [hvalue]
    norm_num
  · exact (numberType?_eq_integer_iff one).2 (.inl (by decide))

end SampleTypes
