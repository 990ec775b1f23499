import Mathlib
import SampleTypes.Scalar.Scan

set_option autoImplicit false

/-! # What the number scanner takes

A number of bounded width is scanned greedily: the scanner takes every digit in front until it has
as many as it may. Which texts it takes a number from, and which number, follows from the value of
one or two digits. -/

namespace SampleTypes.Scan

/-! ## Digits and their values -/

theorem isAsciiDigit_iff_toNat (c : Char) :
    isAsciiDigit c = true ↔ 48 ≤ c.toNat ∧ c.toNat ≤ 57 := by
  simp [isAsciiDigit, Char.le_def, UInt32.le_iff_toNat_le]

theorem isAsciiDigit_digitChar {d : Nat} (hd : d < 10) : isAsciiDigit (Nat.digitChar d) = true := by
  rw [isAsciiDigit_iff_toNat, Nat.toNat_digitChar_of_lt_ten hd]
  omega

/-- A digit is the digit of one number below ten. -/
theorem exists_digitChar_of_isAsciiDigit {c : Char} (hc : isAsciiDigit c = true) :
    ∃ d < 10, c = Nat.digitChar d := by
  obtain ⟨hzero, hnine⟩ := (isAsciiDigit_iff_toNat c).mp hc
  have hd : c.toNat - 48 < 10 := by omega
  refine ⟨c.toNat - 48, hd, Char.toNat_inj.mp ?_⟩
  rw [Nat.toNat_digitChar_of_lt_ten hd]
  omega

theorem digitsValue_snoc (digits : List Char) {d : Nat} (hd : d < 10) :
    digitsValue (digits ++ [Nat.digitChar d]) = digitsValue digits * 10 + d := by
  simp [digitsValue, Nat.toNat_digitChar_of_lt_ten hd]

theorem digitsValue_digitChar {d : Nat} (hd : d < 10) : digitsValue [Nat.digitChar d] = d :=
  (digitsValue_snoc [] hd).trans (Nat.zero_add d)

/-- The two digits of a number below a hundred. -/
def twoDigits (n : Nat) : List Char := [Nat.digitChar (n / 10), Nat.digitChar (n % 10)]

theorem digitsValue_twoDigits {n : Nat} (hn : n < 100) : digitsValue (twoDigits n) = n := by
  have htens : digitsValue [Nat.digitChar (n / 10)] = n / 10 := digitsValue_digitChar (by omega)
  have hones := digitsValue_snoc [Nat.digitChar (n / 10)] (Nat.mod_lt n (by decide : 0 < 10))
  rw [List.singleton_append, htens] at hones
  rw [twoDigits, hones]
  omega

theorem isAsciiDigit_of_mem_twoDigits {n : Nat} (hn : n < 100) {c : Char} (hc : c ∈ twoDigits n) :
    isAsciiDigit c = true := by
  simp only [twoDigits, List.mem_cons, List.not_mem_nil, or_false] at hc
  rcases hc with rfl | rfl
  · exact isAsciiDigit_digitChar (by omega)
  · exact isAsciiDigit_digitChar (by omega)

/-- Two digits are the two digits of their value. -/
theorem exists_twoDigits_of_isAsciiDigit {a b : Char} (ha : isAsciiDigit a = true)
    (hb : isAsciiDigit b = true) :
    ∃ n < 100, [a, b] = twoDigits n := by
  obtain ⟨tens, htens, rfl⟩ := exists_digitChar_of_isAsciiDigit ha
  obtain ⟨ones, hones, rfl⟩ := exists_digitChar_of_isAsciiDigit hb
  have hdiv : (10 * tens + ones) / 10 = tens := by omega
  have hmod : (10 * tens + ones) % 10 = ones := by omega
  exact ⟨10 * tens + ones, by omega, by rw [twoDigits, hdiv, hmod]⟩

/-! ## Scanning -/

theorem takeDigits_cons_of_isAsciiDigit {c : Char} (hc : isAsciiDigit c = true) (limit : Nat)
    (s : List Char) :
    takeDigits (limit + 1) (c :: s) = (c :: (takeDigits limit s).1, (takeDigits limit s).2) := by
  simp [takeDigits, hc]

theorem takeDigits_cons_of_not_isAsciiDigit {c : Char} (hc : isAsciiDigit c = false) (limit : Nat)
    (s : List Char) : takeDigits limit (c :: s) = ([], c :: s) := by
  cases limit <;> simp [takeDigits, hc]

/-- Where a scan of `limit` digits stops: with all of them, or in front of what is no digit. -/
def Stops (limit : Nat) (digits rest : List Char) : Prop :=
  digits.length = limit ∨ ∀ c ∈ rest.head?, isAsciiDigit c = false

theorem takeDigits_spec (limit : Nat) (s : List Char) :
    s = (takeDigits limit s).1 ++ (takeDigits limit s).2 ∧
    (∀ c ∈ (takeDigits limit s).1, isAsciiDigit c = true) ∧
    (takeDigits limit s).1.length ≤ limit ∧
    Stops limit (takeDigits limit s).1 (takeDigits limit s).2 := by
  induction limit generalizing s with
  | zero => simp [takeDigits, Stops]
  | succ limit ih =>
    cases s with
    | nil => simp [takeDigits, Stops]
    | cons c s =>
      cases hc : isAsciiDigit c with
      | false => simp [takeDigits_cons_of_not_isAsciiDigit hc, Stops, hc]
      | true =>
        rw [takeDigits_cons_of_isAsciiDigit hc]
        obtain ⟨hs, hdigits, hlength, hstop⟩ := ih s
        exact ⟨congrArg (c :: ·) hs, List.forall_mem_cons.mpr ⟨hc, hdigits⟩,
          Nat.succ_le_succ hlength, hstop.imp_left (congrArg (· + 1))⟩

theorem takeDigits_append {digits : List Char} (hdigits : ∀ c ∈ digits, isAsciiDigit c = true)
    {limit : Nat} (hlength : digits.length ≤ limit) {rest : List Char}
    (hstop : Stops limit digits rest) : takeDigits limit (digits ++ rest) = (digits, rest) := by
  induction digits generalizing limit with
  | nil =>
    -- Nothing is taken: either nothing may be taken, or no digit stands in front.
    rcases hstop with rfl | hrest
    · rfl
    · cases rest with
      | nil => cases limit <;> rfl
      | cons c rest => exact takeDigits_cons_of_not_isAsciiDigit (hrest c rfl) limit rest
  | cons c digits ih =>
    obtain ⟨limit, rfl⟩ := Nat.exists_eq_succ_of_ne_zero (Nat.ne_zero_of_lt hlength)
    obtain ⟨hc, hdigits⟩ := List.forall_mem_cons.mp hdigits
    have hrest := ih hdigits (Nat.le_of_succ_le_succ hlength) (hstop.imp_left Nat.succ.inj)
    rw [List.cons_append, takeDigits_cons_of_isAsciiDigit hc, hrest]

/-- The scanner takes digits from the front, no more than it may, and stops early at a character
    that is none. -/
theorem takeDigits_eq_iff (limit : Nat) (s digits rest : List Char) :
    takeDigits limit s = (digits, rest) ↔
      s = digits ++ rest ∧ (∀ c ∈ digits, isAsciiDigit c = true) ∧ digits.length ≤ limit ∧
      Stops limit digits rest := by
  constructor
  · intro h
    simpa only [h] using takeDigits_spec limit s
  · rintro ⟨rfl, hdigits, hlength, hstop⟩
    exact takeDigits_append hdigits hlength hstop

theorem number?_eq_some_iff (least most : Nat) (s : List Char) (n : Nat) (rest : List Char) :
    number? least most s = some (n, rest) ↔
      ∃ digits, s = digits ++ rest ∧ (∀ c ∈ digits, isAsciiDigit c = true) ∧
        least ≤ digits.length ∧ digits.length ≤ most ∧ Stops most digits rest ∧
        digitsValue digits = n := by
  have hnumber : number? least most s = some (n, rest) ↔
      ∃ digits, takeDigits most s = (digits, rest) ∧ least ≤ digits.length ∧
        digitsValue digits = n := by
    simp only [number?, Option.ite_none_right_eq_some, Option.some.injEq, Prod.ext_iff]
    grind
  simp only [hnumber, takeDigits_eq_iff, and_assoc, and_left_comm]

/-- A number of exactly so many digits is one of so many digits at most. -/
theorem number?_of_exact {least most : Nat} {s : List Char} {p : Nat × List Char}
    (hleast : least ≤ most) (h : number? most most s = some p) : number? least most s = some p := by
  obtain ⟨n, rest⟩ := p
  obtain ⟨digits, hs, hdigits, hsome, hrest⟩ := (number?_eq_some_iff ..).mp h
  exact (number?_eq_some_iff ..).mpr ⟨digits, hs, hdigits, hleast.trans hsome, hrest⟩

/-- Two digits are scanned from a text that starts with the two digits of a number. -/
theorem number?_two_eq_some_iff (s : List Char) (n : Nat) (rest : List Char) :
    number? 2 2 s = some (n, rest) ↔ n < 100 ∧ s = twoDigits n ++ rest := by
  rw [number?_eq_some_iff]
  constructor
  · rintro ⟨digits, rfl, hdigits, hleast, hmost, -, rfl⟩
    obtain ⟨a, b, rfl⟩ := List.length_eq_two.mp (Nat.le_antisymm hmost hleast)
    obtain ⟨n, hn, hab⟩ := exists_twoDigits_of_isAsciiDigit (hdigits a (by simp)) (hdigits b (by simp))
    rw [hab, digitsValue_twoDigits hn]
    exact ⟨hn, rfl⟩
  · rintro ⟨hn, rfl⟩
    exact ⟨twoDigits n, rfl, fun c => isAsciiDigit_of_mem_twoDigits hn, le_rfl, le_rfl,
      .inl rfl, digitsValue_twoDigits hn⟩

/-- One or two digits in front of another character are scanned from a text that starts with the
    one digit or the two digits of a number and goes on with that character. -/
theorem number?_one_two_eq_some_iff (s : List Char) (n : Nat) {mark : Char}
    (hmark : isAsciiDigit mark = false) (rest : List Char) :
    number? 1 2 s = some (n, mark :: rest) ↔
      (n < 10 ∧ s = Nat.digitChar n :: mark :: rest) ∨
      (n < 100 ∧ s = twoDigits n ++ mark :: rest) := by
  rw [number?_eq_some_iff]
  constructor
  · rintro ⟨digits, rfl, hdigits, hleast, hmost, -, rfl⟩
    rcases Nat.lt_or_ge digits.length 2 with hone | htwo
    · obtain ⟨a, rfl⟩ := List.length_eq_one_iff.mp (by omega : digits.length = 1)
      obtain ⟨d, hd, rfl⟩ := exists_digitChar_of_isAsciiDigit (hdigits a (by simp))
      rw [digitsValue_digitChar hd]
      exact .inl ⟨hd, rfl⟩
    · obtain ⟨a, b, rfl⟩ := List.length_eq_two.mp (Nat.le_antisymm hmost htwo)
      obtain ⟨n, hn, hab⟩ := exists_twoDigits_of_isAsciiDigit (hdigits a (by simp)) (hdigits b (by simp))
      rw [hab, digitsValue_twoDigits hn]
      exact .inr ⟨hn, rfl⟩
  · rintro (⟨hn, rfl⟩ | ⟨hn, rfl⟩)
    · exact ⟨[Nat.digitChar n], rfl, by simpa using isAsciiDigit_digitChar hn, le_rfl,
        one_le_two, .inr (by simpa using hmark), digitsValue_digitChar hn⟩
    · exact ⟨twoDigits n, rfl, fun c => isAsciiDigit_of_mem_twoDigits hn, one_le_two, le_rfl,
        .inl rfl, digitsValue_twoDigits hn⟩

/-! ## Marks and names -/

theorem char?_eq_some_iff (wanted : Char) (s rest : List Char) :
    char? wanted s = some rest ↔ s = wanted :: rest := by
  cases s with
  | nil => simp [char?]
  | cons c s => by_cases h : c = wanted <;> simp [char?, h]

/-- A name that is found stands in the list, and three characters are taken off. -/
theorem shortName?_eq_some {names : List (List Char)} {s rest : List Char} {i : Nat}
    (h : shortName? names s = some (i, rest)) :
    (s.take 3).map lowerAscii ∈ names ∧ rest = s.drop 3 := by
  obtain ⟨j, hj, heq⟩ := Option.map_eq_some_iff.mp h
  cases heq
  exact ⟨List.isSome_idxOf?.mp (Option.isSome_of_eq_some hj), rfl⟩

end SampleTypes.Scan
