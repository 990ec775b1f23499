import Mathlib
import SampleTypes.Decimal.Binary

set_option autoImplicit false

/-! # The nearest number of a binary format

Rounding is to the nearest number of a format, and to the even mantissa of two equally near ones. The
greatest exponent plays no part in it: what rounds to a number beyond it overflows. The numbers of a
format follow one another (`BinaryFormat.next`), and what rounds to one of them is the interval
between the midpoints to its two neighbours (`isNearest_iff`). -/

namespace SampleTypes

namespace Dyadic

/-- The number that is denoted. -/
def value (b : Dyadic) : ℚ := b.mantissa * 2 ^ b.exponent

/-- The weight of the last bit. -/
def ulp (b : Dyadic) : ℚ := 2 ^ b.exponent

theorem ulp_pos (b : Dyadic) : 0 < b.ulp := by
  unfold ulp
  positivity

theorem value_eq (b : Dyadic) : b.value = b.mantissa * b.ulp := rfl

theorem value_nonneg (b : Dyadic) : 0 ≤ b.value :=
  mul_nonneg (Nat.cast_nonneg _) b.ulp_pos.le

end Dyadic

namespace BinaryFormat

/-! ## The numbers of a format -/

/-- Whether the format has the number, with no greatest exponent. A leading bit is missing only
    where the exponent cannot be less. -/
structure Holds (f : BinaryFormat) (b : Dyadic) : Prop where
  mantissa_lt : b.mantissa < 2 ^ f.precision
  min_le : f.minExponent ≤ b.exponent
  leading : f.minExponent < b.exponent → 2 ^ (f.precision - 1) ≤ b.mantissa

/-- Whether the format has the number. -/
structure IsFinite (f : BinaryFormat) (b : Dyadic) : Prop extends f.Holds b where
  le_max : b.exponent ≤ f.maxExponent

/-- The next number of the format. -/
def next (f : BinaryFormat) (b : Dyadic) : Dyadic :=
  if b.mantissa + 1 = 2 ^ f.precision then ⟨2 ^ (f.precision - 1), b.exponent + 1⟩
  else ⟨b.mantissa + 1, b.exponent⟩

/-- The distance from the number before. Below a power of two the numbers lie closer. -/
def gapBelow (f : BinaryFormat) (b : Dyadic) : ℚ :=
  if b.mantissa = 2 ^ (f.precision - 1) ∧ f.minExponent < b.exponent then b.ulp / 2 else b.ulp

variable {f : BinaryFormat} {b c : Dyadic} {x : ℚ}

theorem gapBelow_pos (f : BinaryFormat) (b : Dyadic) : 0 < f.gapBelow b := by
  have hulp := b.ulp_pos
  unfold gapBelow
  split <;> linarith

theorem two_pow_precision (hf : 2 ≤ f.precision) : 2 ^ f.precision = 2 * 2 ^ (f.precision - 1) := by
  rw [← pow_succ']
  congr 1
  omega

/-- Half the mantissas of a format are even, so that its last bit can break ties. -/
theorem even_two_pow (hf : 2 ≤ f.precision) : Even (2 ^ (f.precision - 1)) :=
  (Nat.even_pow.mpr ⟨even_two, by omega⟩)

theorem Holds.next (hf : 2 ≤ f.precision) (h : f.Holds b) : f.Holds (f.next b) := by
  have hpow := two_pow_precision hf
  have hpos : 0 < 2 ^ (f.precision - 1) := by positivity
  have hmantissa := h.mantissa_lt
  have hmin := h.min_le
  unfold BinaryFormat.next
  split
  · exact ⟨by dsimp only; omega, by dsimp only; omega, fun _ => le_rfl⟩
  · refine ⟨by dsimp only; omega, hmin, fun hlt => ?_⟩
    have hleading := h.leading hlt
    dsimp only
    omega

theorem value_next (hf : 2 ≤ f.precision) : (f.next b).value = b.value + b.ulp := by
  unfold next
  split
  · next hcarry =>
    have hcast : (b.mantissa : ℚ) + 1 = 2 * 2 ^ (f.precision - 1) := by
      rw [two_pow_precision hf] at hcarry
      exact_mod_cast hcarry
    have hulp : (2 : ℚ) ^ (b.exponent + 1) = 2 * b.ulp := by
      rw [zpow_add_one₀ (by norm_num), Dyadic.ulp]
      ring
    calc (⟨2 ^ (f.precision - 1), b.exponent + 1⟩ : Dyadic).value
        = 2 ^ (f.precision - 1) * 2 ^ (b.exponent + 1) := by simp [Dyadic.value]
      _ = (b.mantissa + 1) * b.ulp := by rw [hulp, hcast]; ring
      _ = b.value + b.ulp := by rw [Dyadic.value_eq]; ring
  · simp only [Dyadic.value, Dyadic.ulp]
    push_cast
    ring

theorem even_next_iff (hf : 2 ≤ f.precision) : Even (f.next b).mantissa ↔ ¬ Even b.mantissa := by
  unfold next
  split
  · next hcarry =>
    refine iff_of_true (even_two_pow hf) ?_
    rw [← Nat.even_add_one, hcarry]
    exact Nat.even_pow.mpr ⟨even_two, by omega⟩
  · exact Nat.even_add_one

theorem gapBelow_next (h : f.Holds b) : f.gapBelow (f.next b) = b.ulp := by
  have hmin := h.min_le
  unfold next
  split
  · rw [gapBelow, if_pos ⟨rfl, by dsimp only; omega⟩, Dyadic.ulp, Dyadic.ulp,
      zpow_add_one₀ (by norm_num)]
    ring
  · rw [gapBelow, if_neg]
    · rfl
    · rintro ⟨hmantissa, hlt⟩
      have hleading := h.leading hlt
      dsimp only at hmantissa
      omega

/-- Every number but zero comes next to another. -/
theorem exists_next_eq (hf : 2 ≤ f.precision) (h : f.Holds b) (hne : b.mantissa ≠ 0) :
    ∃ a, f.Holds a ∧ f.next a = b := by
  have hpow := two_pow_precision hf
  have hpos : 0 < 2 ^ (f.precision - 1) := by positivity
  have hmantissa := h.mantissa_lt
  have hmin := h.min_le
  by_cases hpower : b.mantissa = 2 ^ (f.precision - 1) ∧ f.minExponent < b.exponent
  · obtain ⟨hpower, hlt⟩ := hpower
    refine ⟨⟨2 ^ f.precision - 1, b.exponent - 1⟩, ⟨?_, ?_, ?_⟩, ?_⟩
    · dsimp only
      omega
    · dsimp only
      omega
    · intro _
      dsimp only
      omega
    · rw [BinaryFormat.next, if_pos (by dsimp only; omega), ← hpower, sub_add_cancel]
  · refine ⟨⟨b.mantissa - 1, b.exponent⟩, ⟨?_, hmin, ?_⟩, ?_⟩
    · dsimp only
      omega
    · intro hlt
      have hleading := h.leading hlt
      have hpower : b.mantissa ≠ 2 ^ (f.precision - 1) := fun heq => hpower ⟨heq, hlt⟩
      dsimp only
      omega
    · rw [BinaryFormat.next, if_neg (by dsimp only; omega)]
      dsimp only
      rw [Nat.sub_add_cancel (Nat.pos_of_ne_zero hne)]

/-! ## The order of the numbers -/

theorem value_lt_of_exponent_lt (hf : 2 ≤ f.precision) (hb : f.Holds b) (hc : f.Holds c)
    (h : b.exponent < c.exponent) : b.value < c.value := by
  have hmantissa : (b.mantissa : ℚ) < 2 * 2 ^ (f.precision - 1) := by
    have hlt := hb.mantissa_lt
    rw [two_pow_precision hf] at hlt
    exact_mod_cast hlt
  have hleading : (2 : ℚ) ^ (f.precision - 1) ≤ c.mantissa := by
    exact_mod_cast hc.leading (lt_of_le_of_lt hb.min_le h)
  have hulp : 2 * b.ulp ≤ c.ulp := by
    calc 2 * b.ulp = 2 ^ (b.exponent + 1) := by
          rw [zpow_add_one₀ (by norm_num), Dyadic.ulp]
          ring
      _ ≤ 2 ^ c.exponent := zpow_le_zpow_right₀ (by norm_num) (by omega)
  calc b.value = b.mantissa * b.ulp := b.value_eq
    _ < 2 * 2 ^ (f.precision - 1) * b.ulp := mul_lt_mul_of_pos_right hmantissa b.ulp_pos
    _ = 2 ^ (f.precision - 1) * (2 * b.ulp) := by ring
    _ ≤ c.mantissa * c.ulp :=
      mul_le_mul hleading hulp (by linarith [b.ulp_pos]) (Nat.cast_nonneg _)
    _ = c.value := c.value_eq.symm

theorem exponent_le_of_value_le (hf : 2 ≤ f.precision) (hb : f.Holds b) (hc : f.Holds c)
    (h : b.value ≤ c.value) : b.exponent ≤ c.exponent := by
  by_contra hlt
  exact absurd h (not_le.mpr (value_lt_of_exponent_lt hf hc hb (not_le.mp hlt)))

theorem eq_of_value_eq (hf : 2 ≤ f.precision) (hb : f.Holds b) (hc : f.Holds c)
    (h : b.value = c.value) : b = c := by
  have hexponent : b.exponent = c.exponent :=
    le_antisymm (exponent_le_of_value_le hf hb hc h.le) (exponent_le_of_value_le hf hc hb h.ge)
  have hulp : c.ulp ≠ 0 := c.ulp_pos.ne'
  have hmantissa : (b.mantissa : ℚ) = c.mantissa := by
    rw [Dyadic.value_eq, Dyadic.value_eq, Dyadic.ulp, hexponent] at h
    exact mul_right_cancel₀ hulp h
  cases b
  cases c
  simp_all

/-- Nothing of the format lies between a number and the next one. -/
theorem value_next_le (hf : 2 ≤ f.precision) (hb : f.Holds b) (hc : f.Holds c)
    (h : b.value < c.value) : (f.next b).value ≤ c.value := by
  obtain ⟨k, hk⟩ := Int.exists_add_of_le (exponent_le_of_value_le hf hb hc h.le)
  have hvalue : c.value = (c.mantissa * 2 ^ k : Nat) * b.ulp := by
    rw [Dyadic.value, Dyadic.ulp, hk, zpow_add₀ (by norm_num), zpow_natCast]
    push_cast
    ring
  have hlt : b.mantissa < c.mantissa * 2 ^ k := by
    rw [hvalue, Dyadic.value_eq] at h
    exact_mod_cast lt_of_mul_lt_mul_right h b.ulp_pos.le
  have hle : (b.mantissa : ℚ) + 1 ≤ (c.mantissa * 2 ^ k : Nat) := by exact_mod_cast hlt
  calc (f.next b).value = (b.mantissa + 1) * b.ulp := by rw [value_next hf, Dyadic.value_eq]; ring
    _ ≤ (c.mantissa * 2 ^ k : Nat) * b.ulp := mul_le_mul_of_nonneg_right hle b.ulp_pos.le
    _ = c.value := hvalue.symm

/-- Nothing of the format lies between a number and the one before. -/
theorem value_le_sub_gapBelow (hf : 2 ≤ f.precision) (hb : f.Holds b) (hc : f.Holds c)
    (h : c.value < b.value) : c.value ≤ b.value - f.gapBelow b := by
  have hne : b.mantissa ≠ 0 := by
    intro hzero
    rw [b.value_eq, hzero, Nat.cast_zero, zero_mul] at h
    exact absurd h (not_lt.mpr c.value_nonneg)
  obtain ⟨a, ha, rfl⟩ := exists_next_eq hf hb hne
  rw [gapBelow_next ha, value_next hf, add_sub_cancel_right]
  by_contra hlt
  exact absurd (value_next_le hf ha hc (not_le.mp hlt)) (not_le.mpr h)

/-! ## The nearest number -/

/-- Whether `x` is rounded to `b`: no number of the format is nearer, and where another one is as
    near, the mantissa is even. -/
structure IsNearest (f : BinaryFormat) (x : ℚ) (b : Dyadic) : Prop where
  holds : f.Holds b
  nearest : ∀ c, f.Holds c → |x - b.value| ≤ |x - c.value|
  even : ∀ c, f.Holds c → c ≠ b → |x - b.value| = |x - c.value| → Even b.mantissa

/-- Whether `x` lies between the midpoints to the neighbours of `b`. The midpoints belong to an even
    mantissa. -/
structure InInterval (f : BinaryFormat) (x : ℚ) (b : Dyadic) : Prop where
  low_le : b.value - f.gapBelow b / 2 ≤ x
  le_high : x ≤ b.value + b.ulp / 2
  even_of_low : x = b.value - f.gapBelow b / 2 → Even b.mantissa
  even_of_high : x = b.value + b.ulp / 2 → Even b.mantissa

/-- Of two numbers the lesser is the nearer one to what lies below the midpoint. -/
theorem abs_sub_le_abs_sub_iff {s t : ℚ} (h : s < t) (x : ℚ) :
    |x - s| ≤ |x - t| ↔ x ≤ (s + t) / 2 := by
  constructor
  · intro hle
    cases abs_cases (x - s) <;> cases abs_cases (x - t) <;> linarith
  · intro hle
    cases abs_cases (x - s) <;> cases abs_cases (x - t) <;> linarith

theorem abs_sub_le_abs_sub_iff' {s t : ℚ} (h : s < t) (x : ℚ) :
    |x - t| ≤ |x - s| ↔ (s + t) / 2 ≤ x := by
  constructor
  · intro hle
    cases abs_cases (x - s) <;> cases abs_cases (x - t) <;> linarith
  · intro hle
    cases abs_cases (x - s) <;> cases abs_cases (x - t) <;> linarith

theorem inInterval_of_isNearest (hf : 2 ≤ f.precision) (hx : 0 ≤ x) (h : f.IsNearest x b) :
    f.InInterval x b := by
  have hulp := b.ulp_pos
  have hnext := value_next (b := b) hf
  have hlt : b.value < (f.next b).value := by linarith
  have hhigh : x ≤ b.value + b.ulp / 2 := by
    have hle := (abs_sub_le_abs_sub_iff hlt x).mp (h.nearest _ (h.holds.next hf))
    linarith
  have heven : x = b.value + b.ulp / 2 → Even b.mantissa := by
    intro heq
    refine h.even _ (h.holds.next hf) (fun heq => by rw [heq] at hlt; exact lt_irrefl _ hlt) ?_
    apply le_antisymm
    · exact (abs_sub_le_abs_sub_iff hlt x).mpr (by linarith)
    · exact (abs_sub_le_abs_sub_iff' hlt x).mpr (by linarith)
  by_cases hne : b.mantissa = 0
  · have hvalue : b.value = 0 := by rw [b.value_eq, hne, Nat.cast_zero, zero_mul]
    have hgap := gapBelow_pos f b
    refine ⟨by linarith, hhigh, fun _ => ?_, heven⟩
    rw [hne]
    exact Even.zero
  · obtain ⟨a, ha, rfl⟩ := exists_next_eq hf h.holds hne
    have hgap := gapBelow_next ha
    have hvalue := value_next (b := a) hf
    have hlt : a.value < (f.next a).value := by linarith [a.ulp_pos]
    refine ⟨?_, hhigh, fun heq => ?_, heven⟩
    · have hle := (abs_sub_le_abs_sub_iff' hlt x).mp (h.nearest _ ha)
      linarith
    · refine h.even _ ha (fun heq => by rw [← heq] at hlt; exact lt_irrefl _ hlt) ?_
      apply le_antisymm
      · exact (abs_sub_le_abs_sub_iff' hlt x).mpr (by linarith)
      · exact (abs_sub_le_abs_sub_iff hlt x).mpr (by linarith)

theorem isNearest_of_inInterval (hf : 2 ≤ f.precision) (hb : f.Holds b) (h : f.InInterval x b) :
    f.IsNearest x b := by
  obtain ⟨hlow, hhigh, hevenLow, hevenHigh⟩ := h
  refine ⟨hb, fun c hc => ?_, fun c hc hne heq => ?_⟩
  · obtain hlt | heq | hlt := lt_trichotomy c.value b.value
    · have hgap := value_le_sub_gapBelow hf hb hc hlt
      exact (abs_sub_le_abs_sub_iff' hlt x).mpr (by linarith)
    · rw [heq]
    · have hgap := value_next_le hf hb hc hlt
      rw [value_next hf] at hgap
      exact (abs_sub_le_abs_sub_iff hlt x).mpr (by linarith)
  · obtain hlt | hsame | hlt := lt_trichotomy c.value b.value
    · have hgap := value_le_sub_gapBelow hf hb hc hlt
      have hle := (abs_sub_le_abs_sub_iff hlt x).mp heq.ge
      exact hevenLow (by linarith)
    · exact absurd (eq_of_value_eq hf hc hb hsame) hne
    · have hgap := value_next_le hf hb hc hlt
      rw [value_next hf] at hgap
      have hle := (abs_sub_le_abs_sub_iff' hlt x).mp heq.ge
      exact hevenHigh (by linarith)

/-- What is rounded to a number is the interval around it. -/
theorem isNearest_iff (hf : 2 ≤ f.precision) (hb : f.Holds b) (hx : 0 ≤ x) :
    f.IsNearest x b ↔ f.InInterval x b :=
  ⟨inInterval_of_isNearest hf hx, isNearest_of_inInterval hf hb⟩

/-- Rounding has one result: of two neighbours one has an even mantissa and one has not. -/
theorem IsNearest.unique (hf : 2 ≤ f.precision) (hb : f.IsNearest x b) (hc : f.IsNearest x c) :
    b = c := by
  wlog hle : b.value ≤ c.value generalizing b c
  · exact (this hc hb (le_of_not_ge hle)).symm
  by_contra hne
  have hlt : b.value < c.value :=
    lt_of_le_of_ne hle fun h => hne (eq_of_value_eq hf hb.holds hc.holds h)
  have hsame : |x - b.value| = |x - c.value| :=
    le_antisymm (hb.nearest c hc.holds) (hc.nearest b hb.holds)
  have hulp := b.ulp_pos
  have hbnext : b.value < (f.next b).value := by linarith [value_next (b := b) hf]
  have hmid : x = (b.value + c.value) / 2 :=
    le_antisymm ((abs_sub_le_abs_sub_iff hlt x).mp hsame.le)
      ((abs_sub_le_abs_sub_iff' hlt x).mp hsame.ge)
  -- a number between the two would be nearer than both
  have hnext : f.next b = c := by
    apply eq_of_value_eq hf (hb.holds.next hf) hc.holds
    have hle := value_next_le hf hb.holds hc.holds hlt
    have hge := (abs_sub_le_abs_sub_iff hbnext x).mp (hb.nearest _ (hb.holds.next hf))
    linarith
  have hbeven : Even b.mantissa := hb.even c hc.holds (fun h => hne h.symm) hsame
  have hceven : Even c.mantissa := hc.even b hb.holds hne hsame.symm
  rw [← hnext, even_next_iff hf] at hceven
  exact hceven hbeven

/-! ## Intervals -/

/-- What lies between two numbers that are rounded alike is rounded like them. -/
theorem InInterval.between {y z : ℚ} (hx : f.InInterval x b) (hz : f.InInterval z b) (hxy : x ≤ y)
    (hyz : y ≤ z) : f.InInterval y b := by
  obtain ⟨hlow, -, hevenLow, -⟩ := hx
  obtain ⟨-, hhigh, -, hevenHigh⟩ := hz
  exact ⟨by linarith, by linarith, fun heq => hevenLow (by linarith),
    fun heq => hevenHigh (by linarith)⟩

/-- A number lies in its own interval. -/
theorem inInterval_value (f : BinaryFormat) (b : Dyadic) : f.InInterval b.value b := by
  have hgap := gapBelow_pos f b
  have hulp := b.ulp_pos
  exact ⟨by linarith, by linarith, fun h => by linarith, fun h => by linarith⟩

end BinaryFormat

end SampleTypes
