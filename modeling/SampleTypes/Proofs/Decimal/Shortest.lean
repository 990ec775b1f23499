import Mathlib
import SampleTypes.Proofs.Decimal.Rounding

set_option autoImplicit false

/-! # The shortest decimal that rounds back

Of the decimals that round to a binary number, the shortest is the one with the fewest digits, and of
those with as few, the one nearest to the number. The search tries one grid of powers of ten after
the other, the coarsest first, and takes the nearest decimal of the first grid that has one
(`shortest_spec`). A format keeps a decimal exactly if it is the shortest for one of the numbers of
the format (`keeps_iff`). -/

namespace SampleTypes

open Decimal (digitCount)

/-- The first of a number of attempts that succeeds. -/
theorem exists_findSome?_range {α : Type} (attempt : Nat → Option α) {n count : Nat}
    (hn : n < count) (h : attempt n ≠ none) :
    ∃ k ≤ n, ∃ r, attempt k = some r ∧ (∀ i < k, attempt i = none) ∧
      (List.range count).findSome? attempt = some r := by
  have hfirst : ∃ k, attempt k ≠ none := ⟨n, h⟩
  have hle : Nat.find hfirst ≤ n := Nat.find_min' hfirst h
  have hbefore : ∀ i < Nat.find hfirst, attempt i = none := fun i hi =>
    not_not.mp (Nat.find_min hfirst hi)
  obtain ⟨r, hr⟩ := Option.ne_none_iff_exists'.mp (Nat.find_spec hfirst)
  refine ⟨_, hle, r, hr, hbefore, ?_⟩
  rw [List.findSome?_eq_some_iff]
  obtain ⟨rest, rfl⟩ := Nat.exists_eq_add_of_lt (hle.trans_lt hn)
  generalize Nat.find hfirst = k at *
  have hsplit : List.range (k + rest + 1) =
      List.range k ++ k :: (List.range rest).map (fun i => k + (i + 1)) := by
    rw [Nat.add_assoc, List.range_add, List.range_succ_eq_map, List.map_cons, Nat.add_zero,
      List.map_map]
    rfl
  exact ⟨_, _, _, hsplit, hr, fun i hi => hbefore i (List.mem_range.mp hi)⟩

/-! ## Comparing decimals with binary numbers -/

theorem decimalLe_iff (a : Nat) (k : ℤ) (m : Nat) (e : ℤ) :
    decimalLe a k m e = true ↔ (a : ℚ) * 10 ^ k ≤ m * 2 ^ e := by
  have hten : (0 : ℚ) < 10 ^ (-k).toNat := by positivity
  have htwo : (0 : ℚ) < 2 ^ (-e).toNat := by positivity
  rw [decimalLe, decide_eq_true_eq, zpow_eq_div_toNat (b := 10) (by norm_num),
    zpow_eq_div_toNat (b := 2) (by norm_num), ← mul_div_assoc, ← mul_div_assoc,
    div_le_div_iff₀ hten htwo, ← pow10_cast, ← pow10_cast, ← pow2_cast, ← pow2_cast]
  exact_mod_cast Iff.rfl

theorem decimalGe_iff (a : Nat) (k : ℤ) (m : Nat) (e : ℤ) :
    decimalGe a k m e = true ↔ (m : ℚ) * 2 ^ e ≤ a * 10 ^ k := by
  have hten : (0 : ℚ) < 10 ^ (-k).toNat := by positivity
  have htwo : (0 : ℚ) < 2 ^ (-e).toNat := by positivity
  rw [decimalGe, decide_eq_true_eq, zpow_eq_div_toNat (b := 10) (by norm_num),
    zpow_eq_div_toNat (b := 2) (by norm_num), ← mul_div_assoc, ← mul_div_assoc,
    div_le_div_iff₀ htwo hten, ← pow10_cast, ← pow10_cast, ← pow2_cast, ← pow2_cast]
  exact_mod_cast Iff.rfl

/-- The estimate of the logarithm is corrected by one comparison on either side. -/
theorem floorLog10_spec {b : Dyadic} (hne : b.mantissa ≠ 0) (hlow : -2000 ≤ b.exponent)
    (hhigh : b.exponent ≤ 2000) (hmantissa : b.mantissa < 2 ^ 53) :
    (10 : ℚ) ^ floorLog10 b ≤ b.value ∧ b.value < 10 ^ (floorLog10 b + 1) := by
  have hlog : Nat.log2 b.mantissa < 53 := (Nat.log2_lt hne).mpr hmantissa
  have hvalueLow : (2 : ℚ) ^ ((Nat.log2 b.mantissa : ℤ) + b.exponent) ≤ b.value := by
    rw [zpow_add₀ (by norm_num), zpow_natCast, Dyadic.value]
    apply mul_le_mul_of_nonneg_right _ (by positivity)
    exact_mod_cast Nat.log2_self_le hne
  have hvalueHigh : b.value < (2 : ℚ) ^ ((Nat.log2 b.mantissa : ℤ) + b.exponent + 1) := by
    rw [add_right_comm, zpow_add₀ (by norm_num), Dyadic.value]
    apply mul_lt_mul_of_pos_right _ (by positivity)
    exact_mod_cast Nat.lt_log2_self (n := b.mantissa)
  have hcompare (k : ℤ) : decimalLe 1 k b.mantissa b.exponent = true ↔ (10 : ℚ) ^ k ≤ b.value := by
    rw [decimalLe_iff, Nat.cast_one, one_mul, Dyadic.value]
  unfold floorLog10
  simp only [hcompare, Int.fdiv_eq_ediv_of_nonneg _ (show (0 : ℤ) ≤ 100000 by norm_num)]
  generalize hg : (((Nat.log2 b.mantissa : ℤ) + b.exponent) * 30103) / 100000 = guess
  have hguessLow : (10 : ℚ) ^ (guess - 1) ≤ b.value :=
    le_trans (ten_zpow_le_two_zpow (by omega) (by omega)) hvalueLow
  have hguessHigh : b.value < 10 ^ (guess + 2) :=
    hvalueHigh.trans_le (two_zpow_le_ten_zpow (by omega) (by omega))
  split
  · next hle => exact ⟨hle, by rwa [add_assoc]⟩
  · next hlt =>
    split
    · next hle => exact ⟨hle, not_le.mp hlt⟩
    · next hlt => exact ⟨hguessLow, by rw [sub_add_cancel]; exact not_le.mp hlt⟩

namespace BinaryFormat

variable {f : BinaryFormat} {b : Dyadic} {x : ℚ}

/-! ## What rounds back -/

/-- The interval around a number, in units of a quarter of its last bit. -/
theorem roundsTo_iff (hne : b.mantissa ≠ 0) (a : Nat) (k : ℤ) :
    f.roundsTo b a k = true ↔ f.InInterval (a * 10 ^ k) b := by
  have hquarter : (2 : ℚ) ^ (b.exponent - 2) = b.ulp / 4 := by
    rw [zpow_sub₀ (by norm_num), Dyadic.ulp]
    norm_num
  have hhigh : ((4 * b.mantissa + 2 : Nat) : ℚ) * 2 ^ (b.exponent - 2) = b.value + b.ulp / 2 := by
    rw [hquarter, b.value_eq]
    push_cast
    ring
  have hlow : (((if b.mantissa = pow2 (f.precision - 1) ∧ f.minExponent < b.exponent then
      4 * b.mantissa - 1 else 4 * b.mantissa - 2) : Nat) : ℚ) * 2 ^ (b.exponent - 2) =
      b.value - f.gapBelow b / 2 := by
    have hcloser : b.mantissa = pow2 (f.precision - 1) ∧ f.minExponent < b.exponent ↔
        b.mantissa = 2 ^ (f.precision - 1) ∧ f.minExponent < b.exponent := Iff.rfl
    rw [hquarter, b.value_eq, gapBelow]
    simp only [hcloser]
    split
    · rw [Nat.cast_sub (by omega)]
      push_cast
      ring
    · rw [Nat.cast_sub (by omega)]
      push_cast
      ring
  unfold roundsTo
  dsimp only
  split
  · next heven =>
    rw [Bool.and_eq_true, decimalGe_iff, decimalLe_iff, hlow, hhigh]
    have heven' : Even b.mantissa := Nat.even_iff.mpr heven
    exact ⟨fun h => ⟨h.1, h.2, fun _ => heven', fun _ => heven'⟩, fun h => ⟨h.low_le, h.le_high⟩⟩
  · next hodd =>
    rw [Bool.and_eq_true, Bool.not_eq_true', Bool.not_eq_true', ← Bool.not_eq_true,
      ← Bool.not_eq_true, decimalGe_iff, decimalLe_iff, hlow, hhigh, not_le, not_le]
    have hodd' : ¬ Even b.mantissa := fun h => hodd (Nat.even_iff.mp h)
    constructor
    · exact fun h => ⟨h.1.le, h.2.le, fun heq => absurd heq h.1.ne', fun heq => absurd heq h.2.ne⟩
    · exact fun h => ⟨lt_of_le_of_ne h.low_le fun heq => hodd' (h.even_of_low heq.symm),
        lt_of_le_of_ne h.le_high fun heq => hodd' (h.even_of_high heq)⟩

/-! ## One grid -/

/-- Whether `q` is the last decimal of the grid `10 ^ k` that is not beyond `b`. -/
structure IsFloor (b : Dyadic) (k : ℤ) (q : Nat) : Prop where
  le : (q : ℚ) * 10 ^ k ≤ b.value
  lt : b.value < (q + 1 : Nat) * 10 ^ k

/-- A division finds the last decimal, and its remainder tells on which side of the middle between
    that and the next one a number lies. -/
theorem isFloor_div (b : Dyadic) (k : ℤ) :
    let num := b.mantissa * pow2 b.exponent.toNat * pow10 (-k).toNat
    let den := pow10 k.toNat * pow2 (-b.exponent).toNat
    IsFloor b k (num / den) ∧
      (2 * (num % den) < den ↔ 2 * (b.value - (num / den : Nat) * 10 ^ k) < 10 ^ k) := by
  intro num den
  have hden : 0 < den := Nat.mul_pos (pow10_pos _) (pow2_pos _)
  have hpos : (0 : ℚ) < den := by exact_mod_cast hden
  have hten : (0 : ℚ) < 10 ^ k := by positivity
  have hvalue : b.value = num / den * 10 ^ k := by
    rw [Dyadic.value, zpow_eq_div_toNat (b := 10) (by norm_num),
      zpow_eq_div_toNat (b := 2) (by norm_num)]
    push_cast [num, den, pow10_cast, pow2_cast]
    field_simp
  have hsplit : (num : ℚ) / den = (num / den : Nat) + (num % den : Nat) / den := by
    have hcast : (num : ℚ) = den * (num / den : Nat) + (num % den : Nat) := by
      exact_mod_cast (Nat.div_add_mod num den).symm
    rw [hcast, add_div, mul_div_cancel_left₀ _ hpos.ne']
  have hrest : ((num % den : Nat) : ℚ) / den < 1 := by
    rw [div_lt_one hpos]
    exact_mod_cast Nat.mod_lt num hden
  have hrest' : (0 : ℚ) ≤ ((num % den : Nat) : ℚ) / den := by positivity
  have htwice : 2 * (num % den) < den ↔ 2 * (((num % den : Nat) : ℚ) / den) < 1 := by
    rw [← mul_div_assoc, div_lt_one hpos]
    exact_mod_cast Iff.rfl
  rw [htwice]
  refine ⟨⟨?_, ?_⟩, ?_⟩ <;> rw [hvalue, hsplit]
  · exact mul_le_mul_of_nonneg_right (by linarith) hten.le
  · push_cast
    exact mul_lt_mul_of_pos_right (by linarith) hten
  · rw [← sub_mul, add_sub_cancel_left, ← mul_assoc]
    exact (mul_lt_iff_lt_one_left hten).symm

theorem exists_isFloor (b : Dyadic) (k : ℤ) : ∃ q, IsFloor b k q :=
  ⟨_, (isFloor_div b k).1⟩

namespace IsFloor

variable {k : ℤ} {q c : Nat}

theorem next_eq (k : ℤ) (q : Nat) : ((q + 1 : Nat) : ℚ) * 10 ^ k = q * 10 ^ k + 10 ^ k := by
  push_cast
  ring

theorem abs_of_le (h : IsFloor b k q) (hc : c ≤ q) :
    |(c : ℚ) * 10 ^ k - b.value| = b.value - c * 10 ^ k ∧ (c : ℚ) * 10 ^ k ≤ q * 10 ^ k := by
  have hle : (c : ℚ) * 10 ^ k ≤ q * 10 ^ k :=
    mul_le_mul_of_nonneg_right (by exact_mod_cast hc) (by positivity)
  rw [abs_sub_comm, abs_of_nonneg (by linarith [h.le])]
  exact ⟨rfl, hle⟩

theorem abs_of_lt (h : IsFloor b k q) (hc : q < c) :
    |(c : ℚ) * 10 ^ k - b.value| = c * 10 ^ k - b.value ∧
      ((q + 1 : Nat) : ℚ) * 10 ^ k ≤ c * 10 ^ k := by
  have hle : ((q + 1 : Nat) : ℚ) * 10 ^ k ≤ c * 10 ^ k :=
    mul_le_mul_of_nonneg_right (by exact_mod_cast hc) (by positivity)
  rw [abs_of_nonneg (by linarith [h.lt])]
  exact ⟨rfl, hle⟩

/-- A decimal of the grid that rounds back lies on one side of the number, and its neighbour on that
    side rounds back too. -/
theorem inInterval (h : IsFloor b k q) (hc : f.InInterval (c * 10 ^ k) b) :
    c ≤ q ∧ f.InInterval (q * 10 ^ k) b ∨ q < c ∧ f.InInterval ((q + 1 : Nat) * 10 ^ k) b := by
  have hself := f.inInterval_value b
  obtain hcq | hqc := le_or_gt c q
  · exact .inl ⟨hcq, hc.between hself (h.abs_of_le hcq).2 h.le⟩
  · exact .inr ⟨hqc, hself.between hc h.lt.le (h.abs_of_lt hqc).2⟩

end IsFloor

/-- Whether `a` is the decimal of the grid `10 ^ k` that represents `b`: it rounds to it, and no
    other one of the grid that does is nearer, or as near and greater. -/
structure IsBestOnGrid (f : BinaryFormat) (b : Dyadic) (k : ℤ) (a : Nat) : Prop where
  inInterval : f.InInterval (a * 10 ^ k) b
  closest : ∀ c : Nat, f.InInterval (c * 10 ^ k) b → |a * 10 ^ k - b.value| ≤ |c * 10 ^ k - b.value|
  greatest : ∀ c : Nat, f.InInterval (c * 10 ^ k) b →
    |a * 10 ^ k - b.value| = |c * 10 ^ k - b.value| → c ≤ a

theorem isBestOnGrid_below {k : ℤ} {q : Nat} (h : IsFloor b k q) (hq : f.InInterval (q * 10 ^ k) b)
    (hnear : f.InInterval ((q + 1 : Nat) * 10 ^ k) b → 2 * (b.value - q * 10 ^ k) < 10 ^ k) :
    f.IsBestOnGrid b k q := by
  have hstep := IsFloor.next_eq k q
  have hself := (h.abs_of_le le_rfl).1
  refine ⟨hq, fun c hc => ?_, fun c hc heq => ?_⟩
  all_goals obtain ⟨hcq, -⟩ | ⟨hqc, hup⟩ := h.inInterval hc
  · obtain ⟨habs, hle⟩ := h.abs_of_le hcq
    linarith
  · obtain ⟨habs, hle⟩ := h.abs_of_lt hqc
    linarith [hnear hup]
  · exact hcq
  · obtain ⟨habs, hle⟩ := h.abs_of_lt hqc
    linarith [hnear hup]

theorem isBestOnGrid_above {k : ℤ} {q : Nat} (h : IsFloor b k q)
    (hq : f.InInterval ((q + 1 : Nat) * 10 ^ k) b)
    (hfar : f.InInterval (q * 10 ^ k) b → (10 : ℚ) ^ k ≤ 2 * (b.value - q * 10 ^ k)) :
    f.IsBestOnGrid b k (q + 1) := by
  have hstep := IsFloor.next_eq k q
  have hself := (h.abs_of_lt (Nat.lt_succ_self q)).1
  refine ⟨hq, fun c hc => ?_, fun c hc heq => ?_⟩
  all_goals obtain ⟨hcq, hdown⟩ | ⟨hqc, -⟩ := h.inInterval hc
  · obtain ⟨habs, hle⟩ := h.abs_of_le hcq
    linarith [hfar hdown]
  · obtain ⟨habs, hle⟩ := h.abs_of_lt hqc
    linarith
  · omega
  · obtain ⟨habs, -⟩ := h.abs_of_lt hqc
    have hten : (0 : ℚ) < 10 ^ k := by positivity
    have hle : (c : ℚ) * 10 ^ k ≤ (q + 1 : Nat) * 10 ^ k := by linarith
    exact_mod_cast le_of_mul_le_mul_right hle hten

theorem onGrid?_spec (hne : b.mantissa ≠ 0) (k : ℤ) :
    (∃ a, f.onGrid? .greater b k = some a ∧ f.IsBestOnGrid b k a) ∨
      f.onGrid? .greater b k = none ∧ ∀ c : Nat, ¬ f.InInterval (c * 10 ^ k) b := by
  obtain ⟨hfloor, htwice⟩ := isFloor_div b k
  unfold onGrid?
  dsimp only at *
  generalize b.mantissa * pow2 b.exponent.toNat * pow10 (-k).toNat = num at *
  generalize pow10 k.toNat * pow2 (-b.exponent).toNat = den at *
  have hnearIff : Midpoint.greater.isDown (num / den) (2 * (num % den)) den = true ↔
      2 * (b.value - (num / den : Nat) * 10 ^ k) < 10 ^ k := by
    rw [← htwice]
    simp [Midpoint.isDown]
  generalize Midpoint.greater.isDown (num / den) (2 * (num % den)) den = near at *
  generalize num / den = q at *
  have hdownIff := f.roundsTo_iff hne q k
  have hupIff := f.roundsTo_iff hne (q + 1) k
  split
  · next hq =>
    rw [hdownIff, hupIff, hnearIff] at hq
    exact .inl ⟨q, rfl, isBestOnGrid_below hfloor hq.1 fun hup => hq.2.resolve_left (not_not_intro hup)⟩
  · next hnot =>
    rw [hdownIff, hupIff, hnearIff] at hnot
    split
    · next hq =>
      rw [hupIff] at hq
      refine .inl ⟨q + 1, rfl, isBestOnGrid_above hfloor hq fun hdown => ?_⟩
      by_contra hlt
      exact hnot ⟨hdown, .inr (not_le.mp hlt)⟩
    · next hq =>
      rw [hupIff] at hq
      refine .inr ⟨rfl, fun c hc => ?_⟩
      obtain ⟨-, hdown⟩ | ⟨-, hup⟩ := hfloor.inInterval hc
      · exact hnot ⟨hdown, .inl hq⟩
      · exact hq hup

/-- A grid that divides the leading digit more finely than the format does is finer than an interval
    is wide, also where the interval ends at a quarter below a power of two. -/
theorem ten_zpow_lt_width (hf : 2 ≤ f.precision) (hb : f.Holds b) {s : Nat}
    (hs : 2 ^ f.precision < 10 ^ s) {top : ℤ} (htop : (10 : ℚ) ^ top ≤ b.value) :
    (10 : ℚ) ^ (top - s) < f.gapBelow b / 2 + b.ulp / 2 := by
  have hulp := b.ulp_pos
  have hpow : (0 : ℚ) < 10 ^ s := by positivity
  have hfine : (2 : ℚ) ^ f.precision < 10 ^ s := by exact_mod_cast hs
  have hscale : (10 : ℚ) ^ (top - s) * 10 ^ s ≤ b.mantissa * b.ulp := by
    rw [← zpow_natCast, ← zpow_add₀ (by norm_num), sub_add_cancel]
    exact htop
  unfold gapBelow
  split
  · next hpower =>
    have hmantissa : (2 : ℚ) ^ f.precision = 2 * b.mantissa := by
      rw [hpower.1]
      exact_mod_cast two_pow_precision hf
    have hhalf : (10 : ℚ) ^ (top - s) < b.ulp / 2 := by
      apply lt_of_mul_lt_mul_right _ hpow.le
      calc (10 : ℚ) ^ (top - s) * 10 ^ s ≤ b.mantissa * b.ulp := hscale
        _ = 2 ^ f.precision * (b.ulp / 2) := by rw [hmantissa]; ring
        _ < 10 ^ s * (b.ulp / 2) := mul_lt_mul_of_pos_right hfine (by linarith)
        _ = b.ulp / 2 * 10 ^ s := mul_comm _ _
    linarith
  · have hmantissa : (b.mantissa : ℚ) < 2 ^ f.precision := by exact_mod_cast hb.mantissa_lt
    have hwhole : (10 : ℚ) ^ (top - s) < b.ulp := by
      apply lt_of_mul_lt_mul_right _ hpow.le
      calc (10 : ℚ) ^ (top - s) * 10 ^ s ≤ b.mantissa * b.ulp := hscale
        _ < 10 ^ s * b.ulp := mul_lt_mul_of_pos_right (hmantissa.trans hfine) hulp
        _ = b.ulp * 10 ^ s := mul_comm _ _
    linarith

/-- A grid that is so fine has a decimal that rounds back. -/
theorem exists_inInterval_grid (hf : 2 ≤ f.precision) (hb : f.Holds b) {s : Nat}
    (hs : 2 ^ f.precision < 10 ^ s) {top : ℤ} (htop : (10 : ℚ) ^ top ≤ b.value) :
    ∃ c : Nat, f.InInterval (c * 10 ^ (top - s)) b := by
  obtain ⟨q, hle, hlt⟩ := exists_isFloor b (top - s)
  have hstep := IsFloor.next_eq (top - s) q
  have hwide := ten_zpow_lt_width hf hb hs htop
  have hulp := b.ulp_pos
  have hgap := f.gapBelow_pos b
  -- if the decimal below the number lies outside, then the next one is less than the width behind it
  by_cases hnear : b.value - f.gapBelow b / 2 < q * 10 ^ (top - s)
  · exact ⟨q, hnear.le, by linarith, fun heq => absurd heq hnear.ne', fun heq => by linarith⟩
  · refine ⟨q + 1, ?_⟩
    rw [not_lt] at hnear
    exact ⟨by linarith, by linarith, fun heq => by linarith, fun heq => by linarith⟩

/-! ## The shortest decimal -/

/-- Whether `d` is the shortest decimal that is rounded to `b`: none with fewer digits is, of those
    with as many none is nearer to `b`, and the greater one is taken of two that are equally near. -/
structure IsShortest (f : BinaryFormat) (b : Dyadic) (d : Decimal) : Prop where
  isNormal : d.IsNormal
  nonneg : d.negative = false
  rounds : f.IsNearest d.magnitude b
  fewest : ∀ c : Decimal, c.IsNormal → f.IsNearest c.magnitude b →
    digitCount d.coefficient ≤ digitCount c.coefficient
  closest : ∀ c : Decimal, c.IsNormal → f.IsNearest c.magnitude b →
    digitCount c.coefficient = digitCount d.coefficient →
    |d.magnitude - b.value| ≤ |c.magnitude - b.value|
  greatest : ∀ c : Decimal, c.IsNormal → f.IsNearest c.magnitude b →
    digitCount c.coefficient = digitCount d.coefficient →
    |d.magnitude - b.value| = |c.magnitude - b.value| → c.magnitude ≤ d.magnitude

theorem IsShortest.unique {d d' : Decimal} (h : f.IsShortest b d) (h' : f.IsShortest b d') :
    d = d' := by
  have hcount : digitCount d.coefficient = digitCount d'.coefficient :=
    le_antisymm (h.fewest d' h'.isNormal h'.rounds) (h'.fewest d h.isNormal h.rounds)
  have hnear : |d.magnitude - b.value| = |d'.magnitude - b.value| :=
    le_antisymm (h.closest d' h'.isNormal h'.rounds hcount.symm)
      (h'.closest d h.isNormal h.rounds hcount)
  have hmagnitude : d.magnitude = d'.magnitude :=
    le_antisymm (h'.greatest d h.isNormal h.rounds hcount hnear.symm)
      (h.greatest d' h'.isNormal h'.rounds hcount.symm hnear)
  apply h.isNormal.eq_of_value_eq h'.isNormal
  rw [Decimal.value, Decimal.value, h.nonneg, h'.nonneg, hmagnitude]

/-- A decimal that rounds back has a stand-in on one of the grids, the grid of its last digit or a
    coarser one: itself, or the power of ten between it and the number. -/
theorem exists_on_grid {top : ℤ} (htop : (10 : ℚ) ^ top ≤ b.value) {c : Decimal}
    (hc : f.InInterval c.magnitude b) :
    ∃ n < digitCount c.coefficient, ∃ a : Nat, f.InInterval (a * 10 ^ (top - n)) b ∧
      (c.magnitude = a * 10 ^ (top - n) ∨
        |(a : ℚ) * 10 ^ (top - n) - b.value| < |c.magnitude - b.value|) := by
  have hpos := Decimal.digitCount_pos c.coefficient
  obtain hge | hlt := le_or_gt ((10 : ℚ) ^ top) c.magnitude
  · -- as many digits as the decimal has, counted from the leading digit of the number, reach its last
    have hdigits : top < c.pointPlace :=
      (zpow_lt_zpow_iff_right₀ (by norm_num)).mp (hge.trans_lt c.magnitude_lt_pow)
    rw [Decimal.pointPlace] at hdigits
    obtain ⟨t, ht⟩ := Int.exists_add_of_le
      (show top - (digitCount c.coefficient - 1 : Nat) ≤ c.exponent by omega)
    have hmagnitude : c.magnitude =
        (c.coefficient * 10 ^ t : Nat) * 10 ^ (top - (digitCount c.coefficient - 1 : Nat)) := by
      rw [Decimal.magnitude, ht, zpow_add₀ (by norm_num), zpow_natCast]
      push_cast
      ring
    exact ⟨_, by omega, _, hmagnitude ▸ hc, .inl hmagnitude⟩
  · refine ⟨0, hpos, 1, ?_⟩
    simp only [Nat.cast_one, one_mul, Nat.cast_zero, sub_zero]
    refine ⟨hc.between (f.inInterval_value b) hlt.le htop, .inr ?_⟩
    rw [abs_sub_comm, abs_of_nonneg (by linarith), abs_sub_comm, abs_of_nonneg (by linarith)]
    linarith

/-- The search ends at the first grid with a decimal that rounds back, and takes the best one
    there. -/
theorem exists_shortest_eq (hf : f.WithinDouble) (hb : f.Holds b) (hne : b.mantissa ≠ 0) {top : ℤ}
    (htop : floorLog10 b = top) (hle : (10 : ℚ) ^ top ≤ b.value) :
    ∃ n : Nat, ∃ a, f.IsBestOnGrid b (top - n) a ∧
      (∀ i : Nat, ∀ c : Nat, f.InInterval (c * 10 ^ (top - i)) b → n ≤ i) ∧
      f.shortest .greater b = Decimal.normal false a (top - n) := by
  have hprecision : 2 ^ f.precision < 10 ^ 16 :=
    (Nat.pow_le_pow_right (by norm_num) hf.precision_le).trans_lt (by norm_num)
  obtain ⟨c, hc⟩ := exists_inInterval_grid hf.two_le_precision hb hprecision hle
  let attempt (i : Nat) : Option Decimal :=
    (f.onGrid? .greater b (top - i)).map fun a => Decimal.normal false a (top - i)
  have hnone (i : Nat) (h : attempt i = none) (c : Nat) : ¬ f.InInterval (c * 10 ^ (top - i)) b := by
    obtain ⟨a, ha, -⟩ | ⟨-, hno⟩ := onGrid?_spec (f := f) hne (top - i)
    · simp [attempt, ha] at h
    · exact hno c
  obtain ⟨n, -, d, hd, hbefore, hfound⟩ := exists_findSome?_range attempt (show 16 < 17 by norm_num)
    (fun h => hnone 16 h c (by exact_mod_cast hc))
  obtain ⟨a, ha, hbest⟩ | ⟨hno, -⟩ := onGrid?_spec (f := f) hne (top - n)
  · refine ⟨n, a, hbest, fun i c hc => ?_, ?_⟩
    · by_contra hlt
      exact hnone i (hbefore i (not_le.mp hlt)) c hc
    · simp only [attempt, ha, Option.map_some, Option.some_inj] at hd
      rw [shortest, htop, hd]
      exact congrArg (Option.getD · _) hfound
  · simp [attempt, hno] at hd

/-- The best decimal of a grid is not beyond the power of ten above the number. -/
theorem IsBestOnGrid.le_pow {top : ℤ} (hhigh : b.value < 10 ^ (top + 1)) {n a : Nat}
    (h : f.IsBestOnGrid b (top - n) a) : a ≤ 10 ^ (n + 1) := by
  by_contra hlt
  have hten : (0 : ℚ) < 10 ^ (top - n) := by positivity
  have hpow : ((10 ^ (n + 1) : Nat) : ℚ) * 10 ^ (top - n) = 10 ^ (top + 1) := by
    push_cast
    rw [← zpow_natCast, ← zpow_add₀ (by norm_num)]
    congr 1
    push_cast
    ring
  have hbeyond : (10 : ℚ) ^ (top + 1) < a * 10 ^ (top - n) := by
    rw [← hpow]
    exact mul_lt_mul_of_pos_right (by exact_mod_cast not_le.mp hlt) hten
  have hnear := h.closest (10 ^ (n + 1)) (by
    rw [hpow]
    exact (f.inInterval_value b).between h.inInterval hhigh.le hbeyond.le)
  rw [hpow, abs_of_pos (by linarith), abs_of_pos (by linarith)] at hnear
  linarith

theorem shortest_spec (hf : f.WithinDouble) (hb : f.IsFinite b) (hne : b.mantissa ≠ 0) :
    f.IsShortest b (f.shortest .greater b) := by
  have hprecision := hf.two_le_precision
  obtain ⟨hlow, hhigh⟩ := floorLog10_spec hne (by linarith [hf.le_minExponent, hb.min_le])
    (by linarith [hf.maxExponent_le, hb.le_max])
    (hb.mantissa_lt.trans_le (Nat.pow_le_pow_right (by norm_num) hf.precision_le))
  generalize htop : floorLog10 b = top at *
  obtain ⟨n, a, hbest, hfirst, heq⟩ := exists_shortest_eq hf hb.toHolds hne htop hlow
  have hmagnitude : (Decimal.normal false a (top - n)).magnitude = a * 10 ^ (top - n) :=
    Decimal.magnitude_normal _ _ _
  have hnearest (c : Decimal) : f.IsNearest c.magnitude b ↔ f.InInterval c.magnitude b :=
    isNearest_iff hprecision hb.toHolds c.magnitude_nonneg
  have hcount : digitCount (Decimal.normal false a (top - n)).coefficient ≤ n + 1 :=
    Decimal.digitCount_normal_le (Nat.succ_ne_zero n) (hbest.le_pow hhigh) _ _
  rw [heq]
  refine ⟨Decimal.normal_isNormal _ _ _, by simp [Decimal.normal], ?_, fun c hc hround => ?_,
    fun c hc hround hsame => ?_, fun c hc hround hsame htie => ?_⟩
  · rw [hnearest, hmagnitude]
    exact hbest.inInterval
  all_goals
    rw [hnearest] at hround
    obtain ⟨i, hi, c', hc', hgrid⟩ := exists_on_grid hlow hround
    have hle := hfirst i c' hc'
  · omega
  -- a decimal with as few digits lies on the same grid, so that the best one there is no farther
  · obtain rfl : i = n := by omega
    rw [hmagnitude]
    obtain hgrid | hnear := hgrid
    · rw [hgrid]
      exact hbest.closest c' hc'
    · exact (hbest.closest c' hc').trans hnear.le
  · obtain rfl : i = n := by omega
    rw [hmagnitude] at htie ⊢
    obtain hgrid | hnear := hgrid
    · rw [hgrid] at htie ⊢
      have hle := hbest.greatest c' hc' htie
      exact mul_le_mul_of_nonneg_right (by exact_mod_cast hle) (by positivity)
    · exact absurd htie ((hbest.closest c' hc').trans_lt hnear).ne

/-! ## Keeping a decimal -/

theorem isShortest_zero (hf : f.WithinDouble) : f.IsShortest f.zero ⟨false, 0, 0⟩ := by
  have hmagnitude : (⟨false, 0, 0⟩ : Decimal).magnitude = 0 := Decimal.magnitude_eq_zero_iff.mpr rfl
  have hnear : |(⟨false, 0, 0⟩ : Decimal).magnitude - f.zero.value| = 0 := by
    rw [hmagnitude, value_zero, sub_zero, abs_zero]
  refine ⟨.inr rfl, rfl, ?_, fun c _ _ => ?_, fun c _ _ _ => ?_, fun c _ _ _ htie => ?_⟩
  · rw [hmagnitude]
    exact isNearest_zero hf le_rfl (by positivity)
  · rw [Decimal.digitCount_zero]
    exact Decimal.digitCount_pos c.coefficient
  · rw [hnear]
    exact abs_nonneg _
  · rw [hnear, eq_comm, abs_eq_zero, value_zero, sub_zero] at htie
    rw [htie, hmagnitude]

/-- The shortest decimal for zero is zero. -/
theorem IsShortest.mantissa_ne_zero (hf : 2 ≤ f.precision) {d : Decimal} (h : f.IsShortest b d)
    (hd : d.coefficient ≠ 0) : b.mantissa ≠ 0 := by
  intro hzero
  have hvalue : b.value = 0 := by rw [b.value_eq, hzero, Nat.cast_zero, zero_mul]
  have hmagnitude : (⟨false, 0, 0⟩ : Decimal).magnitude = b.value := by
    rw [hvalue]
    exact Decimal.magnitude_eq_zero_iff.mpr rfl
  have hround : f.IsNearest (⟨false, 0, 0⟩ : Decimal).magnitude b := by
    rw [hmagnitude]
    exact isNearest_of_inInterval hf h.rounds.holds (f.inInterval_value b)
  have hcount : digitCount 0 = digitCount d.coefficient := by
    refine le_antisymm ?_ (h.fewest _ (.inr rfl) hround)
    rw [Decimal.digitCount_zero]
    exact Decimal.digitCount_pos d.coefficient
  have hnear := h.closest _ (.inr rfl) hround hcount
  rw [hmagnitude, hvalue, sub_zero, sub_zero, abs_zero, abs_nonpos_iff] at hnear
  exact hd (Decimal.magnitude_eq_zero_iff.mp hnear)

/-- A format keeps a decimal exactly if that, without its sign, is the shortest for a number of the
    format. -/
theorem keeps_iff (hf : f.WithinDouble) {d : Decimal} (hd : d.IsNormal) :
    f.keeps d = true ↔ ∃ b, f.IsFinite b ∧ f.IsShortest b { d with negative := false } := by
  by_cases hzero : d.coefficient = 0
  · obtain rfl := hd.eq_zero hzero
    exact iff_of_true rfl ⟨f.zero, zero_isFinite hf, isShortest_zero hf⟩
  · have hnonzero : d.isZero = false := by simpa [Decimal.isZero] using hzero
    rw [keeps, hnonzero, if_neg Bool.false_ne_true]
    constructor
    · intro h
      cases hround : f.roundDecimal d with
      | none => simp [hround] at h
      | some b =>
        rw [hround, Bool.and_eq_true, bne_iff_ne, beq_iff_eq] at h
        obtain ⟨hnearest, hmax⟩ := (roundDecimal_eq_some_iff hf d).mp hround
        have hfinite : f.IsFinite b := ⟨hnearest.holds, hmax⟩
        exact ⟨b, hfinite, h.2 ▸ shortest_spec hf hfinite h.1⟩
    · rintro ⟨b, hfinite, hshortest⟩
      have hround : f.roundDecimal d = some b :=
        (roundDecimal_eq_some_iff hf d).mpr ⟨hshortest.rounds, hfinite.le_max⟩
      have hne : b.mantissa ≠ 0 := hshortest.mantissa_ne_zero hf.two_le_precision hzero
      rw [hround, Bool.and_eq_true, bne_iff_ne, beq_iff_eq]
      exact ⟨hne, (shortest_spec hf hfinite hne).unique hshortest⟩

end BinaryFormat

end SampleTypes
