import Mathlib
import SampleTypes.Proofs.Decimal.Value
import SampleTypes.Scalar.Number

set_option autoImplicit false

/-! # Number literals and their values

A number literal in its parts, with the text that it is written as and the rational number that it
stands for. Reading the text back gives that number in normal form (`ofLiteral?_text`), as long as
the literal is not so long that its exponent leaves the machine's words. -/

namespace SampleTypes

/-! ## Runs of digits -/

/-- A run of digits, the most significant first. -/
abbrev Digits := List (Fin 10)

namespace Digits

/-- The digits as characters. -/
def text (ds : Digits) : List Char := ds.map fun d : Fin 10 => Nat.digitChar d.val

/-- The number that the digits write. -/
def number : Digits → Nat
  | [] => 0
  | d :: ds => d.val * 10 ^ ds.length + number ds

@[simp] theorem text_cons (d : Fin 10) (ds : Digits) :
    text (d :: ds) = Nat.digitChar d.val :: text ds := rfl

theorem text_append (ds es : Digits) : text (ds ++ es) = text ds ++ text es := by
  simp [text]

theorem length_text (ds : Digits) : (text ds).length = ds.length := by
  simp [text]

theorem number_append (ds es : Digits) :
    number (ds ++ es) = number ds * 10 ^ es.length + number es := by
  induction ds with
  | nil => simp [number]
  | cons d ds ih =>
    rw [List.cons_append, number, ih, number, List.length_append, pow_add]
    ring

theorem number_lt (ds : Digits) : number ds < 10 ^ ds.length := by
  induction ds with
  | nil => simp [number]
  | cons d ds ih =>
    have hd : d.val + 1 ≤ 10 := d.isLt
    calc number (d :: ds) < d.val * 10 ^ ds.length + 10 ^ ds.length := Nat.add_lt_add_left ih _
      _ = (d.val + 1) * 10 ^ ds.length := by ring
      _ ≤ 10 * 10 ^ ds.length := Nat.mul_le_mul_right _ hd
      _ = 10 ^ (d :: ds).length := by rw [List.length_cons, pow_succ, mul_comm]

theorem digitValue?_digitChar (d : Fin 10) :
    Decimal.digitValue? (Nat.digitChar d.val) = some d.val := by
  revert d
  decide

theorem digitsValue?_text (n : Nat) (ds : Digits) :
    Decimal.digitsValue? n (text ds) = some (n * 10 ^ ds.length + number ds) := by
  induction ds generalizing n with
  | nil => simp [text, number, Decimal.digitsValue?]
  | cons d ds ih =>
    rw [text_cons, Decimal.digitsValue?, digitValue?_digitChar]
    simp only [ih, number, List.length_cons, pow_succ]
    congr 1
    ring

theorem natValue?_text {ds : Digits} (hds : ds ≠ []) :
    Decimal.natValue? (text ds) = some (number ds) := by
  obtain ⟨d, rest, rfl⟩ := List.exists_cons_of_ne_nil hds
  have hne : (text (d :: rest)).isEmpty = false := rfl
  rw [Decimal.natValue?, hne, if_neg (by simp), digitsValue?_text, zero_mul, zero_add]

/-- A digit is no other character of a literal. -/
theorem digitChar_ne (d : Fin 10) :
    Nat.digitChar d.val ≠ '-' ∧ Nat.digitChar d.val ≠ '+' ∧ Nat.digitChar d.val ≠ '.' ∧
      Nat.digitChar d.val ≠ 'e' ∧ Nat.digitChar d.val ≠ 'E' := by
  revert d
  decide

theorem mem_text_ne {ds : Digits} {c : Char} (hc : c ∈ text ds) :
    c ≠ '-' ∧ c ≠ '+' ∧ c ≠ '.' ∧ c ≠ 'e' ∧ c ≠ 'E' := by
  obtain ⟨d, -, rfl⟩ : ∃ d : Fin 10, d ∈ ds ∧ Nat.digitChar d.val = c := by
    simpa [text] using hc
  exact digitChar_ne d

/-- Digits without a sign are read as a number that is not negative. -/
theorem intValue?_text {ds : Digits} (hds : ds ≠ []) :
    Decimal.intValue? (text ds) = some ((number ds : Nat) : ℤ) := by
  obtain ⟨d, rest, rfl⟩ := List.exists_cons_of_ne_nil hds
  obtain ⟨hminus, hplus, -⟩ := digitChar_ne d
  have hnat := natValue?_text hds
  rw [text_cons] at hnat ⊢
  unfold Decimal.intValue?
  split
  · next heq => exact absurd (List.cons.inj heq).1 hminus
  · next heq => exact absurd (List.cons.inj heq).1 hplus
  · rw [hnat]
    rfl

end Digits

/-! ## The exponent -/

/-- How the sign of an exponent is written. -/
inductive ExponentSign where
  | absent
  | plus
  | minus
  deriving DecidableEq

/-- An exponent as it is written. -/
structure ExponentPart where
  capital : Bool
  sign : ExponentSign
  digits : Digits
  digits_ne_nil : digits ≠ []

namespace ExponentPart

/-- The characters behind the mark. -/
def signedText (e : ExponentPart) : List Char :=
  match e.sign with
  | .absent => e.digits.text
  | .plus => '+' :: e.digits.text
  | .minus => '-' :: e.digits.text

/-- The mark and what stands behind it. -/
def text (e : ExponentPart) : List Char :=
  (if e.capital then 'E' else 'e') :: e.signedText

/-- The power of ten. -/
def number (e : ExponentPart) : ℤ :=
  match e.sign with
  | .minus => -(e.digits.number : ℤ)
  | _ => e.digits.number

theorem intValue?_signedText (e : ExponentPart) :
    Decimal.intValue? e.signedText = some e.number := by
  have hnat := Digits.natValue?_text e.digits_ne_nil
  cases hsign : e.sign <;> simp only [signedText, number, hsign]
  · exact Digits.intValue?_text e.digits_ne_nil
  · rw [Decimal.intValue?, hnat]
    rfl
  · rw [Decimal.intValue?, hnat]
    rfl

end ExponentPart

/-! ## Literals -/

/-- A number literal in its parts: an integer part without leading zeros, an optional fraction and an
    optional exponent. -/
structure NumberLiteral where
  negative : Bool
  whole : Digits
  fraction : Option Digits
  exponent : Option ExponentPart
  whole_ne_nil : whole ≠ []
  leading : whole.head? = some 0 → whole = [0]
  fraction_ne_nil : fraction ≠ some []

namespace NumberLiteral

/-- A fraction as it is written, with its point. -/
def fractionText : Option Digits → List Char
  | none => []
  | some ds => '.' :: Digits.text ds

/-- An exponent as it is written. -/
def exponentText : Option ExponentPart → List Char
  | none => []
  | some e => e.text

@[simp] theorem fractionText_none : fractionText none = [] := rfl

@[simp] theorem fractionText_some (ds : Digits) : fractionText (some ds) = '.' :: ds.text := rfl

@[simp] theorem exponentText_none : exponentText none = [] := rfl

@[simp] theorem exponentText_some (e : ExponentPart) : exponentText (some e) = e.text := rfl

variable (l : NumberLiteral)

/-- The digits behind the point. -/
def fractionDigits : Digits := l.fraction.getD []

/-- The power of ten that is written, zero if there is none. -/
def written : ℤ := (l.exponent.map ExponentPart.number).getD 0

/-- The digits in front of the exponent, with their point. -/
def mantissaText : List Char :=
  l.whole.text ++ fractionText l.fraction

/-- The literal without its sign. -/
def unsignedText : List Char :=
  l.mantissaText ++ exponentText l.exponent

/-- The literal as it is written. -/
def text : List Char :=
  if l.negative then '-' :: l.unsignedText else l.unsignedText

/-- The number that the literal stands for. -/
def value : ℚ :=
  (if l.negative then -1 else 1) *
    (l.whole.number + l.fractionDigits.number / 10 ^ l.fractionDigits.length) * 10 ^ l.written

/-- How many digits stand in front of the exponent. -/
def digitCount : Nat := l.whole.length + l.fractionDigits.length

/-- Whether the literal is written without a fraction and without an exponent. -/
def IsInteger : Prop := l.fraction = none ∧ l.exponent = none

instance : Decidable l.IsInteger :=
  inferInstanceAs (Decidable (_ ∧ _))

/-! ## Taking a literal apart -/

theorem splitAtFirst_eq_none {p : Char → Bool} {s : List Char} (h : ∀ c ∈ s, p c = false) :
    Decimal.splitAtFirst p s = (s, none) := by
  induction s with
  | nil => rfl
  | cons c s ih =>
    have hc : p c = false := h c (by simp)
    have hs := ih fun c hc => h c (by simp [hc])
    simp [Decimal.splitAtFirst, hc, hs]

theorem splitAtFirst_append {p : Char → Bool} {s : List Char} {c : Char} {rest : List Char}
    (h : ∀ c ∈ s, p c = false) (hc : p c = true) :
    Decimal.splitAtFirst p (s ++ c :: rest) = (s, some rest) := by
  induction s with
  | nil => simp [Decimal.splitAtFirst, hc]
  | cons b s ih =>
    have hb : p b = false := h b (by simp)
    have hs := ih fun c hc => h c (by simp [hc])
    simp [Decimal.splitAtFirst, hb, hs]

/-- The exponent is what stands behind the first mark. -/
theorem splitAtFirst_unsignedText :
    Decimal.splitAtFirst (fun c => c == 'e' || c == 'E') l.unsignedText =
      (l.mantissaText, l.exponent.map ExponentPart.signedText) := by
  have hmantissa : ∀ c ∈ l.mantissaText, (c == 'e' || c == 'E') = false := by
    intro c hc
    have hdigit : ∀ ds : Digits, c ∈ ds.text → (c == 'e' || c == 'E') = false := by
      intro ds hc
      obtain ⟨-, -, -, he, hE⟩ := Digits.mem_text_ne hc
      simp [he, hE]
    rw [mantissaText] at hc
    cases hfraction : l.fraction with
    | none =>
      rw [hfraction, fractionText_none, List.append_nil] at hc
      exact hdigit _ hc
    | some ds =>
      rw [hfraction, fractionText_some, List.mem_append, List.mem_cons] at hc
      obtain hc | rfl | hc := hc
      · exact hdigit _ hc
      · rfl
      · exact hdigit _ hc
  cases hexponent : l.exponent with
  | none =>
    rw [unsignedText, hexponent, exponentText_none, List.append_nil]
    exact splitAtFirst_eq_none hmantissa
  | some e =>
    rw [unsignedText, hexponent]
    refine splitAtFirst_append hmantissa ?_
    cases e.capital <;> rfl

/-- The fraction is what stands behind the point. -/
theorem splitAtFirst_mantissaText :
    Decimal.splitAtFirst (fun c => c == '.') l.mantissaText =
      (l.whole.text, l.fraction.map Digits.text) := by
  have hwhole : ∀ c ∈ l.whole.text, (c == '.') = false := by
    intro c hc
    obtain ⟨-, -, hpoint, -⟩ := Digits.mem_text_ne hc
    simp [hpoint]
  cases hfraction : l.fraction with
  | none =>
    rw [mantissaText, hfraction, fractionText_none, List.append_nil]
    exact splitAtFirst_eq_none hwhole
  | some ds =>
    rw [mantissaText, hfraction]
    exact splitAtFirst_append hwhole rfl

/-- Without its sign a literal starts with a digit. -/
theorem exists_unsignedText_eq : ∃ c rest, l.unsignedText = c :: rest ∧ c ≠ '-' := by
  obtain ⟨d, ds, hwhole⟩ := List.exists_cons_of_ne_nil l.whole_ne_nil
  rw [unsignedText, mantissaText, hwhole, Digits.text_cons]
  exact ⟨_, _, rfl, (Digits.digitChar_ne d).1⟩

/-! ## Reading a literal -/

/-- The number in normal form. -/
def decimal : Decimal :=
  .normal l.negative (l.whole ++ l.fractionDigits).number (l.written - l.fractionDigits.length)

theorem decimal_isNormal : l.decimal.IsNormal :=
  Decimal.normal_isNormal _ _ _

theorem value_decimal : l.decimal.value = l.value := by
  have hsplit : (((l.whole ++ l.fractionDigits).number : Nat) : ℚ) *
      10 ^ (l.written - l.fractionDigits.length) =
      (l.whole.number + l.fractionDigits.number / 10 ^ l.fractionDigits.length) *
        10 ^ l.written := by
    rw [Digits.number_append, zpow_sub₀ (by norm_num), zpow_natCast]
    push_cast
    field_simp
  rw [decimal, Decimal.value_normal, hsplit, value]
  split
  · ring
  · ring

/-- Fewer zeros are dropped from the coefficient than the literal has digits. -/
theorem decimal_exponent :
    l.decimal.exponent = 0 ∨ ∃ k < l.digitCount,
      l.decimal.exponent = l.written - l.fractionDigits.length + (k : Nat) := by
  by_cases hzero : (l.whole ++ l.fractionDigits).number = 0
  · left
    rw [decimal, hzero, Decimal.normal_zero]
  · right
    obtain ⟨m, k, heq, hm, hlast⟩ := Decimal.normal_spec l.negative hzero
      (l.written - l.fractionDigits.length)
    refine ⟨k, ?_, by rw [decimal, heq]⟩
    have hpos : 0 < m := by omega
    have hlt : 10 ^ k < 10 ^ l.digitCount := by
      calc 10 ^ k ≤ m * 10 ^ k := Nat.le_mul_of_pos_left _ hpos
        _ = (l.whole ++ l.fractionDigits).number := hm.symm
        _ < 10 ^ (l.whole ++ l.fractionDigits).length := Digits.number_lt _
        _ = 10 ^ l.digitCount := by rw [List.length_append, digitCount]
    exact (Nat.pow_lt_pow_iff_right (by norm_num)).mp hlt

/-- A literal that is short enough for the exponent to stay within the machine's words. -/
structure Fits : Prop where
  digitCount_lt : l.digitCount < 2 ^ 62
  written_lt : |l.written| < 2 ^ 62

theorem decimal_exponent_isWord (h : l.Fits) : Decimal.isWord l.decimal.exponent = true := by
  obtain ⟨hcount, hwritten⟩ := h
  rw [abs_lt] at hwritten
  rw [digitCount] at hcount
  rw [Decimal.isWord_iff]
  obtain hzero | ⟨k, hk, heq⟩ := l.decimal_exponent
  · omega
  · rw [digitCount] at hk
    omega

/-- Such a literal is also short enough for the digits left of its point to be counted. -/
theorem decimal_pointPlace_isWord (h : l.Fits) : Decimal.isWord l.decimal.pointPlace = true := by
  have hlow := ((Decimal.isWord_iff _).mp (l.decimal_exponent_isWord h)).1
  have hexponent := l.decimal.exponent_lt_pointPlace
  obtain ⟨hcount, hwritten⟩ := h
  rw [abs_lt] at hwritten
  refine (Decimal.isWord_iff _).mpr ⟨by omega, ?_⟩
  by_cases hzero : (l.whole ++ l.fractionDigits).number = 0
  · rw [decimal, hzero, Decimal.normal_zero, Decimal.pointPlace, Decimal.digitCount_zero]
    norm_num
  · have hlt := Digits.number_lt (l.whole ++ l.fractionDigits)
    have hle : l.decimal.pointPlace ≤ _ :=
      Decimal.pointPlace_normal_le l.negative hzero hlt (l.written - l.fractionDigits.length)
    rw [List.length_append] at hle
    rw [digitCount] at hcount
    push_cast at hle
    omega

theorem splitSign_text : Decimal.splitSign l.text = (l.negative, l.unsignedText) := by
  obtain ⟨c, rest, hunsigned, hc⟩ := l.exists_unsignedText_eq
  rw [text, hunsigned]
  cases l.negative with
  | true => rfl
  | false => simp [Decimal.splitSign, hc]

theorem exponentValue?_exponent (h : Decimal.isWord l.written = true) :
    Decimal.exponentValue? (l.exponent.map ExponentPart.signedText) = some l.written := by
  rw [written] at h ⊢
  cases hexponent : l.exponent with
  | none => rfl
  | some e =>
    rw [hexponent, Option.map_some, Option.getD_some] at h
    simp [Decimal.exponentValue?, e.intValue?_signedText, h]

/-- Reading the text of a literal gives its number in normal form. -/
theorem ofLiteral?_text (h : l.Fits) : Decimal.ofLiteral? l.text = some l.decimal := by
  have hnormal := l.decimal_exponent_isWord h
  obtain ⟨hcount, hwritten⟩ := h
  rw [abs_lt] at hwritten
  have hfraction : l.fractionDigits.length < 2 ^ 62 := by
    rw [digitCount] at hcount
    omega
  have htext : (l.fraction.map Digits.text).getD [] = l.fractionDigits.text := by
    rw [fractionDigits]
    cases l.fraction <;> rfl
  have hdigits : Decimal.natValue? (l.whole.text ++ l.fractionDigits.text) =
      some (l.whole ++ l.fractionDigits).number := by
    rw [← Digits.text_append, Digits.natValue?_text]
    simp [l.whole_ne_nil]
  have hword : Decimal.isWord l.written = true := (Decimal.isWord_iff _).mpr (by omega)
  have hshifted : Decimal.isWord (l.written - l.fractionDigits.length) = true :=
    (Decimal.isWord_iff _).mpr (by omega)
  simp only [Decimal.ofLiteral?, l.splitSign_text, l.splitAtFirst_unsignedText,
    l.splitAtFirst_mantissaText, l.exponentValue?_exponent hword, htext, hdigits,
    Digits.length_text, Option.bind_eq_bind, Option.bind_some]
  rw [decimal] at hnormal ⊢
  rw [Decimal.normal?, hshifted, hnormal]
  rfl

/-! ## Integer literals -/

/-- A point or a mark in the text is what tells a literal that is no integer. -/
theorem isIntegerLiteral_text : isIntegerLiteral l.text = true ↔ l.IsInteger := by
  have hdigits : ∀ ds : Digits, (ds.text.all fun c => c != '.' && c != 'e' && c != 'E') = true := by
    intro ds
    rw [List.all_eq_true]
    intro c hc
    obtain ⟨-, -, hpoint, he, hE⟩ := Digits.mem_text_ne hc
    simp [hpoint, he, hE]
  obtain ⟨c, rest, hunsigned, -⟩ := l.exists_unsignedText_eq
  have hne : l.text.isEmpty = false := by
    rw [text, hunsigned]
    cases l.negative <;> rfl
  have hsign : (l.text.all fun c => c != '.' && c != 'e' && c != 'E') =
      l.unsignedText.all fun c => c != '.' && c != 'e' && c != 'E' := by
    rw [text]
    cases l.negative <;> rfl
  rw [isIntegerLiteral, hne, hsign, unsignedText, mantissaText, IsInteger]
  cases l.fraction with
  | some ds => simp
  | none =>
    cases l.exponent with
    | none => simp [hdigits]
    | some e => cases hcapital : e.capital <;> simp [ExponentPart.text, hcapital]

/-- The integer that an integer literal stands for. -/
def integer : ℤ := if l.negative then -(l.whole.number : ℤ) else l.whole.number

theorem intValue?_text (h : l.IsInteger) : Decimal.intValue? l.text = some l.integer := by
  obtain ⟨hfraction, hexponent⟩ := h
  have hunsigned : l.unsignedText = l.whole.text := by
    rw [unsignedText, mantissaText, hfraction, hexponent, fractionText_none, exponentText_none,
      List.append_nil, List.append_nil]
  rw [text, hunsigned, integer]
  cases l.negative
  · exact Digits.intValue?_text l.whole_ne_nil
  · simp only [if_true]
    rw [Decimal.intValue?, Digits.natValue?_text l.whole_ne_nil]
    rfl

theorem integer_cast (h : l.IsInteger) : (l.integer : ℚ) = l.value := by
  obtain ⟨hfraction, hexponent⟩ := h
  rw [integer, value, fractionDigits, written, hfraction, hexponent]
  cases l.negative <;> simp [Digits.number]

end NumberLiteral

end SampleTypes
