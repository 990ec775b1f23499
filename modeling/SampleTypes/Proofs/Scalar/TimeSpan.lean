import Mathlib
import SampleTypes.Proofs.Scalar.Scan
import SampleTypes.Proofs.Unicode.Tables
import SampleTypes.Scalar.TimeSpan

set_option autoImplicit false

/-! # Which texts denote a span of time

The accepted texts are those of a grammar, one rule for each part of `[-][d.]hh:mm[:ss[.fffffff]]`.
It has what counts as a digit of the days and of the fraction as a parameter, since these two are
not evaluated: hours, minutes and seconds must be in ASCII digits, but days and fraction may be in
the digits of any script. -/

namespace SampleTypes.TimeSpan

open SampleTypes.Scan SampleTypes.Unicode

/-! ## The grammar -/

section Grammar

variable (digit : Char → Bool)

/-- A fraction, if there is one: `[.f{1,7}]`. -/
inductive FractionForm : List Char → Prop
  | absent : FractionForm []
  | present {digits : List Char} (hdigits : ∀ c ∈ digits, digit c = true)
      (hsome : 1 ≤ digits.length) (hlength : digits.length ≤ 7) : FractionForm ('.' :: digits)

/-- Seconds below 60, if there are any: `[:ss[.f{1,7}]]`. -/
inductive SecondsForm : List Char → Prop
  | absent : SecondsForm []
  | present {seconds : Nat} {fraction : List Char} (hseconds : seconds < 60)
      (hfraction : FractionForm digit fraction) :
      SecondsForm (':' :: (twoDigits seconds ++ fraction))

/-- Hours below 24 in one or two digits and minutes below 60: `h[h]:mm[:ss[.f{1,7}]]`. -/
inductive ClockForm : List Char → Prop
  | short {hours minutes : Nat} {seconds : List Char} (hhours : hours < 10) (hminutes : minutes < 60)
      (hseconds : SecondsForm digit seconds) :
      ClockForm (Nat.digitChar hours :: ':' :: (twoDigits minutes ++ seconds))
  | long {hours minutes : Nat} {seconds : List Char} (hhours : hours < 24) (hminutes : minutes < 60)
      (hseconds : SecondsForm digit seconds) :
      ClockForm (twoDigits hours ++ ':' :: (twoDigits minutes ++ seconds))

/-- Days, if there are any, and a clock: `[d+.]h[h]:mm[:ss[.f{1,7}]]`. -/
inductive DaysForm : List Char → Prop
  | absent {clock : List Char} (hclock : ClockForm digit clock) : DaysForm clock
  | present {digits clock : List Char} (hdigits : ∀ c ∈ digits, digit c = true)
      (hsome : 1 ≤ digits.length) (hclock : ClockForm digit clock) :
      DaysForm (digits ++ '.' :: clock)

/-- The whole text: `[-][d+.]h[h]:mm[:ss[.f{1,7}]]`. -/
inductive Form : List Char → Prop
  | forward {days : List Char} (hdays : DaysForm digit days) : Form days
  | backward {days : List Char} (hdays : DaysForm digit days) : Form ('-' :: days)

end Grammar

/-! ## Digits -/

theorem isAsciiDigit_iff (c : Char) :
    isAsciiDigit c = true ↔ isDecimalDigit c = true ∧ c.toNat < 128 := by
  rw [isAsciiDigit_iff_toNat]
  constructor
  · rintro ⟨hzero, hnine⟩
    exact ⟨SpanTable.contains_of_includes_all (by decide) hzero hnine, by omega⟩
  · rintro ⟨hdigit, hascii⟩
    -- Below 128 the table holds nothing in front of the first script, and nothing behind it.
    by_contra hout
    have hbelow : decimalDigitSpans.excludes 0 47 1 = true := by decide
    have habove : decimalDigitSpans.excludes 58 127 1 = true := by decide
    have hoff : decimalDigitSpans.contains c.toNat = false := by
      rcases Nat.lt_or_ge c.toNat 48 with hlow | hhigh
      · exact SpanTable.not_contains_of_excludes_all hbelow (Nat.zero_le _) (by omega)
      · exact SpanTable.not_contains_of_excludes_all habove (by omega) (by omega)
    rw [isDecimalDigit, hoff] at hdigit
    cases hdigit

theorem isDecimalDigit_of_isAsciiDigit {c : Char} (h : isAsciiDigit c = true) :
    isDecimalDigit c = true :=
  ((isAsciiDigit_iff c).mp h).1

/-- The first character behind a run of digits. -/
theorem find?_digits_append {digits : List Char} (hdigits : ∀ c ∈ digits, isDecimalDigit c = true)
    {mark : Char} (hmark : isDecimalDigit mark = false) (rest : List Char) :
    (digits ++ mark :: rest).find? (fun c => !isDecimalDigit c) = some mark := by
  have hnone : digits.find? (fun c => !isDecimalDigit c) = none := by simpa using hdigits
  rw [List.find?_append, hnone, Option.none_or, List.find?_cons_of_pos (by simp [hmark])]

/-! ## Each part is recognised -/

variable {s rest : List Char}

theorem isFraction_iff : isFraction s = true ↔ FractionForm isDecimalDigit s := by
  constructor
  · intro h
    unfold isFraction at h
    split at h
    · simp only [Bool.and_eq_true, decide_eq_true_eq, List.all_eq_true] at h
      obtain ⟨⟨hsome, hlength⟩, hdigits⟩ := h
      exact .present hdigits hsome hlength
    · rw [List.isEmpty_iff.mp h]
      exact .absent
  · rintro (_ | ⟨hdigits, hsome, hlength⟩)
    · rfl
    · simpa [isFraction, hsome, hlength] using hdigits

theorem sixtieth?_eq_some_iff : sixtieth? s = some rest ↔ ∃ n < 60, s = twoDigits n ++ rest := by
  have hscan : sixtieth? s = some rest ↔ ∃ n < 60, number? 2 2 s = some (n, rest) := by
    cases h : number? 2 2 s with
    | none => simp [sixtieth?, h]
    | some p => simp [sixtieth?, h, Prod.ext_iff, and_comm]
  simp only [hscan, number?_two_eq_some_iff]
  constructor
  · rintro ⟨n, hn, -, hs⟩
    exact ⟨n, hn, hs⟩
  · rintro ⟨n, hn, hs⟩
    exact ⟨n, hn, by omega, hs⟩

theorem sixtieth?_twoDigits {n : Nat} (hn : n < 60) (rest : List Char) :
    sixtieth? (twoDigits n ++ rest) = some rest :=
  sixtieth?_eq_some_iff.mpr ⟨n, hn, rfl⟩

theorem isSeconds_iff : isSeconds s = true ↔ SecondsForm isDecimalDigit s := by
  constructor
  · intro h
    unfold isSeconds at h
    split at h
    · split at h
      · next hsixtieth =>
        obtain ⟨n, hn, rfl⟩ := sixtieth?_eq_some_iff.mp hsixtieth
        exact .present hn (isFraction_iff.mp h)
      · cases h
    · rw [List.isEmpty_iff.mp h]
      exact .absent
  · rintro (_ | ⟨hseconds, hfraction⟩)
    · rfl
    · simp only [isSeconds, sixtieth?_twoDigits hseconds]
      exact isFraction_iff.mpr hfraction

/-- A clock is a number of hours, a colon, a number of minutes and perhaps seconds. -/
theorem isClock_eq_true_iff :
    isClock s = true ↔ ∃ hours < 24, ∃ minutes < 60, ∃ seconds,
      number? 1 2 s = some (hours, ':' :: (twoDigits minutes ++ seconds)) ∧
      SecondsForm isDecimalDigit seconds := by
  constructor
  · intro h
    unfold isClock at h
    split at h
    · next hhours =>
      split at h
      · next hsixtieth =>
        obtain ⟨n, hn, rfl⟩ := sixtieth?_eq_some_iff.mp hsixtieth
        simp only [Bool.and_eq_true, decide_eq_true_eq] at h
        exact ⟨_, h.1, n, hn, _, hhours, isSeconds_iff.mp h.2⟩
      · cases h
    · cases h
  · rintro ⟨hours, hhours, minutes, hminutes, seconds, hscan, hseconds⟩
    simp only [isClock, hscan, sixtieth?_twoDigits hminutes, hhours, decide_true, Bool.true_and]
    exact isSeconds_iff.mpr hseconds

theorem isClock_iff : isClock s = true ↔ ClockForm isDecimalDigit s := by
  have hcolon : isAsciiDigit ':' = false := by decide
  simp only [isClock_eq_true_iff, number?_one_two_eq_some_iff _ _ hcolon]
  constructor
  · rintro ⟨hours, hhours, minutes, hminutes, seconds, ⟨hshort, rfl⟩ | ⟨-, rfl⟩, hseconds⟩
    · exact .short hshort hminutes hseconds
    · exact .long hhours hminutes hseconds
  · rintro (⟨hhours, hminutes, hseconds⟩ | ⟨hhours, hminutes, hseconds⟩)
    · exact ⟨_, by omega, _, hminutes, _, .inl ⟨hhours, rfl⟩, hseconds⟩
    · exact ⟨_, hhours, _, hminutes, _, .inr ⟨by omega, rfl⟩, hseconds⟩

/-! ## Days and sign -/

theorem dropDays_append {digits : List Char} (hdigits : ∀ c ∈ digits, isDecimalDigit c = true)
    (hsome : 1 ≤ digits.length) (rest : List Char) : dropDays (digits ++ '.' :: rest) = rest := by
  have hpoint : isDecimalDigit '.' = false := by decide
  have htake : (digits ++ '.' :: rest).takeWhile isDecimalDigit = digits := by
    simp [List.takeWhile_append_of_pos hdigits, hpoint]
  have hdrop : (digits ++ '.' :: rest).dropWhile isDecimalDigit = '.' :: rest := by
    simp [List.dropWhile_append_of_pos hdigits, hpoint]
  -- The match takes the days only if there is a digit.
  obtain ⟨c, digits, rfl⟩ := List.exists_cons_of_length_pos hsome
  simp only [dropDays, htake, hdrop]

theorem dropDays_cases (s : List Char) :
    dropDays s = s ∨ ∃ digits, (∀ c ∈ digits, isDecimalDigit c = true) ∧ 1 ≤ digits.length ∧
      s = digits ++ '.' :: dropDays s := by
  unfold dropDays
  split
  · next c digits rest htake hdrop =>
    refine .inr ⟨c :: digits, ?_, Nat.succ_pos _, ?_⟩
    · rw [← htake]
      exact fun x hx => List.mem_takeWhile_imp hx
    · rw [← hdrop, ← htake, List.takeWhile_append_dropWhile]
  · exact .inl rfl

/-- The first character of a clock that is no digit is a colon, and not the point behind days. -/
theorem ClockForm.find?_not_isDecimalDigit {digit : Char → Bool} (h : ClockForm digit s) :
    s.find? (fun c => !isDecimalDigit c) = some ':' := by
  have hcolon : isDecimalDigit ':' = false := by decide
  rcases h with ⟨hhours, -, -⟩ | ⟨hhours, -, -⟩
  · have hdigit := isDecimalDigit_of_isAsciiDigit (isAsciiDigit_digitChar hhours)
    exact find?_digits_append (List.forall_mem_singleton.mpr hdigit) hcolon _
  · exact find?_digits_append (fun c hc =>
      isDecimalDigit_of_isAsciiDigit (isAsciiDigit_of_mem_twoDigits (by omega) hc)) hcolon _

theorem ClockForm.dropDays_eq_self {digit : Char → Bool} (h : ClockForm digit s) :
    dropDays s = s := by
  rcases dropDays_cases s with hsame | ⟨digits, hdigits, -, hs⟩
  · exact hsame
  · -- The point behind days would stand where the clock has its colon.
    have hpoint := find?_digits_append hdigits (by decide : isDecimalDigit '.' = false) (dropDays s)
    rw [← hs, h.find?_not_isDecimalDigit] at hpoint
    exact absurd hpoint (by decide)

theorem isClock_dropDays_iff : isClock (dropDays s) = true ↔ DaysForm isDecimalDigit s := by
  constructor
  · intro h
    have hclock := isClock_iff.mp h
    rcases dropDays_cases s with hsame | ⟨digits, hdigits, hsome, hs⟩
    · exact .absent (hsame ▸ hclock)
    · rw [hs]
      exact .present hdigits hsome hclock
  · rintro (hclock | ⟨hdigits, hsome, hclock⟩)
    · rw [hclock.dropDays_eq_self]
      exact isClock_iff.mpr hclock
    · rw [dropDays_append hdigits hsome]
      exact isClock_iff.mpr hclock

theorem dropMinus_cons_of_isDecimalDigit {c : Char} (hc : isDecimalDigit c = true)
    (s : List Char) : dropMinus (c :: s) = c :: s := by
  unfold dropMinus
  split
  · next hminus =>
    obtain ⟨rfl, -⟩ := List.cons.inj hminus
    exact absurd hc (by decide)
  · rfl

/-- A text that starts with days or a clock starts with a digit, so it has no sign to drop. -/
theorem DaysForm.dropMinus_eq_self (h : DaysForm isDecimalDigit s) : dropMinus s = s := by
  rcases h with (⟨hhours, -, -⟩ | ⟨hhours, -, -⟩) | ⟨hdigits, hsome, -⟩
  · exact dropMinus_cons_of_isDecimalDigit
      (isDecimalDigit_of_isAsciiDigit (isAsciiDigit_digitChar hhours)) _
  · exact dropMinus_cons_of_isDecimalDigit
      (isDecimalDigit_of_isAsciiDigit (isAsciiDigit_digitChar (by omega))) _
  · obtain ⟨c, digits, rfl⟩ := List.exists_cons_of_length_pos hsome
    exact dropMinus_cons_of_isDecimalDigit (hdigits c List.mem_cons_self) _

theorem accepts_eq_true_iff : accepts s = true ↔ Form isDecimalDigit s := by
  rw [accepts, isClock_dropDays_iff]
  constructor
  · intro h
    unfold dropMinus at h
    split at h
    · exact .backward h
    · exact .forward h
  · rintro (hdays | hdays)
    · rw [hdays.dropMinus_eq_self]
      exact hdays
    · exact hdays

/-! ## In ASCII digits alone -/

section OtherDigits

variable {p q : Char → Bool}

/-- A text of the grammar is one of it for other digits, if these hold its own digits. -/
theorem FractionForm.of_digits (h : FractionForm p s)
    (hdigit : ∀ c ∈ s, p c = true → q c = true) : FractionForm q s := by
  cases h with
  | absent => exact .absent
  | present hdigits hsome hlength =>
    exact .present (fun c hc => hdigit c (by simp [hc]) (hdigits c hc)) hsome hlength

theorem SecondsForm.of_digits (h : SecondsForm p s)
    (hdigit : ∀ c ∈ s, p c = true → q c = true) : SecondsForm q s := by
  cases h with
  | absent => exact .absent
  | present hseconds hfraction =>
    exact .present hseconds (hfraction.of_digits fun c hc => hdigit c (by simp [hc]))

theorem ClockForm.of_digits (h : ClockForm p s)
    (hdigit : ∀ c ∈ s, p c = true → q c = true) : ClockForm q s := by
  cases h with
  | short hhours hminutes hseconds =>
    exact .short hhours hminutes (hseconds.of_digits fun c hc => hdigit c (by simp [hc]))
  | long hhours hminutes hseconds =>
    exact .long hhours hminutes (hseconds.of_digits fun c hc => hdigit c (by simp [hc]))

theorem DaysForm.of_digits (h : DaysForm p s)
    (hdigit : ∀ c ∈ s, p c = true → q c = true) : DaysForm q s := by
  cases h with
  | absent hclock => exact .absent (hclock.of_digits hdigit)
  | present hdigits hsome hclock =>
    exact .present (fun c hc => hdigit c (by simp [hc]) (hdigits c hc)) hsome
      (hclock.of_digits fun c hc => hdigit c (by simp [hc]))

theorem Form.of_digits (h : Form p s) (hdigit : ∀ c ∈ s, p c = true → q c = true) : Form q s := by
  cases h with
  | forward hdays => exact .forward (hdays.of_digits hdigit)
  | backward hdays => exact .backward (hdays.of_digits fun c hc => hdigit c (by simp [hc]))

end OtherDigits

/-- Whether a text has ASCII characters only. -/
def IsAscii (s : List Char) : Prop := ∀ c ∈ s, c.toNat < 128

instance (s : List Char) : Decidable (IsAscii s) :=
  inferInstanceAs (Decidable (∀ c ∈ s, c.toNat < 128))

@[simp] theorem isAscii_nil : IsAscii [] := List.forall_mem_nil _

@[simp] theorem isAscii_append {s t : List Char} : IsAscii (s ++ t) ↔ IsAscii s ∧ IsAscii t :=
  List.forall_mem_append

@[simp] theorem isAscii_cons {c : Char} {s : List Char} :
    IsAscii (c :: s) ↔ c.toNat < 128 ∧ IsAscii s :=
  List.forall_mem_cons

theorem isAscii_of_isAsciiDigit {digits : List Char} (h : ∀ c ∈ digits, isAsciiDigit c = true) :
    IsAscii digits :=
  fun c hc => ((isAsciiDigit_iff c).mp (h c hc)).2

theorem isAscii_twoDigits {n : Nat} (hn : n < 60) : IsAscii (twoDigits n) :=
  isAscii_of_isAsciiDigit fun _ => isAsciiDigit_of_mem_twoDigits (by omega)

theorem FractionForm.isAscii (h : FractionForm isAsciiDigit s) : IsAscii s := by
  cases h with
  | absent => simp
  | present hdigits _ _ => simp [isAscii_of_isAsciiDigit hdigits]

theorem SecondsForm.isAscii (h : SecondsForm isAsciiDigit s) : IsAscii s := by
  cases h with
  | absent => simp
  | present hseconds hfraction => simp [isAscii_twoDigits hseconds, hfraction.isAscii]

theorem ClockForm.isAscii (h : ClockForm isAsciiDigit s) : IsAscii s := by
  cases h with
  | short hhours hminutes hseconds =>
    have hdigit := ((isAsciiDigit_iff _).mp (isAsciiDigit_digitChar hhours)).2
    simp [hdigit, isAscii_twoDigits hminutes, hseconds.isAscii]
  | long hhours hminutes hseconds =>
    simp [isAscii_twoDigits (hhours.trans (by decide)), isAscii_twoDigits hminutes,
      hseconds.isAscii]

theorem DaysForm.isAscii (h : DaysForm isAsciiDigit s) : IsAscii s := by
  cases h with
  | absent hclock => exact hclock.isAscii
  | present hdigits _ hclock => simp [isAscii_of_isAsciiDigit hdigits, hclock.isAscii]

theorem Form.isAscii (h : Form isAsciiDigit s) : IsAscii s := by
  cases h with
  | forward hdays => exact hdays.isAscii
  | backward hdays => simp [hdays.isAscii]

/-- The texts of the grammar in ASCII digits are its texts in ASCII characters. -/
theorem form_isAsciiDigit_iff : Form isAsciiDigit s ↔ Form isDecimalDigit s ∧ IsAscii s := by
  constructor
  · intro h
    exact ⟨h.of_digits fun _ _ => isDecimalDigit_of_isAsciiDigit, h.isAscii⟩
  · rintro ⟨h, hascii⟩
    exact h.of_digits fun c hc hdigit => (isAsciiDigit_iff c).mpr ⟨hdigit, hascii c hc⟩

/-- The accepted texts are those of the grammar, with the digits of any script for days and
    fraction. With ASCII digits throughout it has the accepted texts of ASCII characters. -/
theorem accepts_iff_form (s : List Char) :
    (accepts s = true ↔ Form isDecimalDigit s) ∧
    (Form isAsciiDigit s ↔ accepts s = true ∧ IsAscii s) := by
  rw [form_isAsciiDigit_iff, accepts_eq_true_iff]
  exact ⟨Iff.rfl, Iff.rfl⟩

/-- A number of days in an Arabic digit is accepted. -/
theorem arabicDigit_accepted :
    accepts "\u0663.12:30".toList = true ∧ ¬ Form isAsciiDigit "\u0663.12:30".toList := by
  refine ⟨by decide +kernel, fun h => ?_⟩
  have hascii : ('\u0663').toNat < 128 := h.isAscii '\u0663' (by decide)
  exact absurd hascii (by decide)

end SampleTypes.TimeSpan
