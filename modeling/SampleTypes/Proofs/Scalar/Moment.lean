import Mathlib
import SampleTypes.Proofs.Scalar.Scan
import SampleTypes.Proofs.Scalar.TimeSpan
import SampleTypes.Scalar.Text

set_option autoImplicit false

/-! # What the texts of moments start with

The notations of moments, and that of spans of time, differ in their first characters: in what stands
behind the number in front, or in front of it. Only the internet timestamp and the moment without an
offset start alike. There the scanner of the latter gets through a whole timestamp up to its offset
(`scanned_of_timestamp`), which is left over. -/

namespace SampleTypes

open Scan Unicode TimeSpan

/-! ## Blanks and digits -/

theorem isBlank_of_isDecimalDigit {c : Char} (h : isDecimalDigit c = true) : isBlank c = false := by
  rw [← Bool.not_eq_true]
  intro hblank
  have hdigit : isDecimalDigit c = false :=
    SpanTable.not_contains_of_excludes_spans (by decide) hblank
  rw [h] at hdigit
  cases hdigit

theorem isDecimalDigit_of_isBlank {c : Char} (h : isBlank c = true) : isDecimalDigit c = false :=
  SpanTable.not_contains_of_excludes_spans (by decide) h

theorem trimStart_cons_of_not_isBlank {c : Char} (h : isBlank c = false) (s : List Char) :
    trimStart (c :: s) = c :: s :=
  List.dropWhile_cons_of_neg (by simp [h])

theorem trimStart_trimStart (s : List Char) : trimStart (trimStart s) = trimStart s :=
  List.dropWhile_idempotent ..

theorem mem_of_mem_trimStart {c : Char} {s : List Char} (h : c ∈ trimStart s) : c ∈ s :=
  (List.dropWhile_sublist _).mem h

/-! ## A number in front -/

/-- `digits` stand in front, and `mark` is the first character that is no digit. -/
structure NumberFront (digits : List Char) (mark : Char) (s : List Char) : Prop where
  ne_nil : digits ≠ []
  isDigit : ∀ c ∈ digits, isDecimalDigit c = true
  notDigit : isDecimalDigit mark = false
  split : ∃ rest, s = digits ++ mark :: rest

namespace NumberFront

variable {digits others s : List Char} {mark other : Char}

theorem mark_unique (h : NumberFront digits mark s) (h' : NumberFront others other s) :
    mark = other := by
  obtain ⟨rest, hrest⟩ := h.split
  obtain ⟨rest', hrest'⟩ := h'.split
  have hfind := find?_digits_append h.isDigit h.notDigit rest
  rw [← hrest, hrest', find?_digits_append h'.isDigit h'.notDigit rest'] at hfind
  exact (Option.some.inj hfind).symm

theorem head (h : NumberFront digits mark s) :
    ∃ c rest, s = c :: rest ∧ isDecimalDigit c = true := by
  obtain ⟨rest, rfl⟩ := h.split
  obtain ⟨c, digits, rfl⟩ := List.exists_cons_of_ne_nil h.ne_nil
  exact ⟨c, digits ++ mark :: rest, rfl, h.isDigit c List.mem_cons_self⟩

/-- What stands in front of a number is a digit, and nothing else. -/
theorem ne_cons (h : NumberFront digits mark s) {c : Char} (hc : isDecimalDigit c = false)
    (rest : List Char) : s ≠ c :: rest := by
  rintro rfl
  obtain ⟨d, rest', heq, hd⟩ := h.head
  obtain ⟨rfl, -⟩ := List.cons.inj heq
  rw [hd] at hc
  cases hc

theorem trimStart_eq_self (h : NumberFront digits mark s) : trimStart s = s := by
  obtain ⟨c, rest, rfl, hc⟩ := h.head
  exact trimStart_cons_of_not_isBlank (isBlank_of_isDecimalDigit hc) rest

theorem mark_mem (h : NumberFront digits mark s) : mark ∈ s := by
  obtain ⟨rest, rfl⟩ := h.split
  simp

theorem mark_mem_take (h : NumberFront digits mark s) {n : Nat} (hlength : digits.length < n) :
    mark ∈ s.take n := by
  obtain ⟨rest, rfl⟩ := h.split
  rw [List.take_append, List.take_of_length_le hlength.le, List.mem_append]
  obtain ⟨k, hk⟩ := Nat.exists_eq_add_of_lt hlength
  simp [hk, Nat.add_assoc]

end NumberFront

theorem numberFront_of_number? {least most n : Nat} {s rest : List Char} {mark : Char}
    (hleast : 1 ≤ least) (hmark : isDecimalDigit mark = false)
    (h : number? least most s = some (n, mark :: rest)) :
    ∃ digits, digits.length ≤ most ∧ NumberFront digits mark s := by
  obtain ⟨digits, rfl, hdigits, hsome, hlength, -, -⟩ := (number?_eq_some_iff ..).mp h
  exact ⟨digits, hlength, List.ne_nil_of_length_pos (by omega),
    fun c hc => isDecimalDigit_of_isAsciiDigit (hdigits c hc), hmark, rest, rfl⟩

theorem head_of_number? {least most : Nat} {s : List Char} {p : Nat × List Char}
    (hleast : 1 ≤ least) (h : number? least most s = some p) :
    ∃ c rest, s = c :: rest ∧ isDecimalDigit c = true := by
  obtain ⟨n, rest⟩ := p
  obtain ⟨digits, rfl, hdigits, hsome, -, -, -⟩ := (number?_eq_some_iff ..).mp h
  obtain ⟨c, digits, rfl⟩ := List.exists_cons_of_length_pos (by omega : 0 < digits.length)
  exact ⟨c, digits ++ rest, rfl,
    isDecimalDigit_of_isAsciiDigit (hdigits c List.mem_cons_self)⟩

theorem trimStart_of_number? {least most : Nat} {s : List Char} {p : Nat × List Char}
    (hleast : 1 ≤ least) (h : number? least most s = some p) : trimStart s = s := by
  obtain ⟨c, rest, rfl, hc⟩ := head_of_number? hleast h
  exact trimStart_cons_of_not_isBlank (isBlank_of_isDecimalDigit hc) rest

/-! ## Moments without an offset -/

/-- A year in front, of four digits at most or behind a sign, and a hyphen behind it. -/
theorem front_of_date? {s : List Char} {p : Date × List Char} (h : date? s = some p) :
    (∃ rest, trimStart s = '+' :: rest) ∨
    (∃ rest digits, trimStart s = '-' :: rest ∧ NumberFront digits '-' rest) ∨
    ∃ digits, digits.length ≤ 4 ∧ NumberFront digits '-' (trimStart s) := by
  unfold date? at h
  obtain ⟨⟨year, behind⟩, hyear, h⟩ := Option.bind_eq_some_iff.mp h
  obtain ⟨rest, hhyphen, -⟩ := Option.bind_eq_some_iff.mp h
  obtain rfl := (char?_eq_some_iff ..).mp hhyphen
  unfold yearField? at hyear
  split at hyear
  · next unsigned htrim =>
    obtain ⟨⟨n, left⟩, hnumber, heq⟩ := Option.map_eq_some_iff.mp hyear
    cases heq
    obtain ⟨digits, -, hfront⟩ := numberFront_of_number? (by decide) (by decide) hnumber
    exact .inr (.inl ⟨unsigned, digits, htrim, hfront⟩)
  · next unsigned htrim => exact .inl ⟨unsigned, htrim⟩
  · obtain ⟨⟨n, left⟩, hnumber, heq⟩ := Option.map_eq_some_iff.mp hyear
    cases heq
    exact .inr (.inr (numberFront_of_number? (by decide) (by decide) hnumber))

theorem exists_date?_of_isDateTime {s : List Char} (h : isDateTime s = true) :
    ∃ p, date? s = some p := by
  simp only [isDateTime, Bool.or_eq_true, Option.isSome_iff_exists] at h
  rcases h with ⟨moment, hmoment⟩ | ⟨date, hdate⟩
  · obtain ⟨p, hp, -⟩ := Option.bind_eq_some_iff.mp hmoment
    exact ⟨p, hp⟩
  · obtain ⟨p, hp, -⟩ := Option.bind_eq_some_iff.mp hdate
    exact ⟨p, hp⟩

/-! ## Timestamps -/

theorem front_of_timestamp {s : List Char} {moment : OffsetMoment}
    (h : OffsetMoment.ofTimestamp? s = some moment) :
    ∃ digits, digits.length ≤ 4 ∧ NumberFront digits '-' s := by
  unfold OffsetMoment.ofTimestamp? at h
  obtain ⟨⟨year, behind⟩, hyear, h⟩ := Option.bind_eq_some_iff.mp h
  obtain ⟨rest, hhyphen, -⟩ := Option.bind_eq_some_iff.mp h
  rw [(char?_eq_some_iff ..).mp hhyphen] at hyear
  exact numberFront_of_number? (by decide) (by decide) hyear

theorem field?_of_exact {most : Nat} {s : List Char} {p : Nat × List Char} (hmost : 1 ≤ most)
    (h : number? most most s = some p) : field? most s = some p := by
  rw [field?, trimStart_of_number? hmost h]
  exact number?_of_exact hmost h

theorem yearField?_of_exact {s : List Char} {n : Nat} {rest : List Char}
    (h : number? 4 4 s = some (n, rest)) : yearField? s = some ((n : Int), rest) := by
  obtain ⟨c, tail, hs, hc⟩ := head_of_number? (by decide) h
  unfold yearField?
  rw [trimStart_of_number? (by decide) h]
  -- The year is not behind a sign, for it starts with a digit.
  split
  · obtain ⟨rfl, -⟩ := List.cons.inj hs
    exact absurd hc (by decide)
  · obtain ⟨rfl, -⟩ := List.cons.inj hs
    exact absurd hc (by decide)
  · rw [number?_of_exact (by decide) h, Option.map_some]

theorem timestampOffset?_ne_nil {s : List Char} {p : Int × List Char}
    (h : timestampOffset? s = some p) : s ≠ [] := by
  rintro rfl
  cases h

/-- How a timestamp looks to the scanners of moments without an offset: they take its date, its
    clock and its seconds, and its offset is left over. -/
theorem scanned_of_timestamp {s : List Char} {moment : OffsetMoment}
    (h : OffsetMoment.ofTimestamp? s = some moment) :
    ∃ date mark clock hour minute seconds second offset,
      date? s = some (date, mark :: clock) ∧ (mark = 'T' ∨ mark = 't' ∨ mark = ' ') ∧
      trimStart clock = clock ∧ clock? clock = some (hour, minute, ':' :: seconds) ∧
      seconds? (':' :: seconds) = some (second, offset) ∧ offset ≠ [] := by
  unfold OffsetMoment.ofTimestamp? at h
  obtain ⟨⟨year, s₁⟩, hyear, h⟩ := Option.bind_eq_some_iff.mp h
  obtain ⟨s₂, hhyphen, h⟩ := Option.bind_eq_some_iff.mp h
  obtain ⟨⟨month, s₃⟩, hmonth, h⟩ := Option.bind_eq_some_iff.mp h
  obtain ⟨s₄, hhyphen', h⟩ := Option.bind_eq_some_iff.mp h
  obtain ⟨⟨day, s₅⟩, hday, h⟩ := Option.bind_eq_some_iff.mp h
  cases s₅ with
  | nil => cases h
  | cons mark clock =>
    dsimp only at h
    split at h
    · next hmark =>
      obtain ⟨s₆, hclock, h⟩ := Option.bind_eq_some_iff.mp h
      cases hclock
      obtain ⟨⟨hour, s₇⟩, hhour, h⟩ := Option.bind_eq_some_iff.mp h
      obtain ⟨s₈, hcolon, h⟩ := Option.bind_eq_some_iff.mp h
      obtain ⟨⟨minute, s₉⟩, hminute, h⟩ := Option.bind_eq_some_iff.mp h
      obtain ⟨s₁₀, hcolon', h⟩ := Option.bind_eq_some_iff.mp h
      obtain ⟨⟨second, s₁₁⟩, hsecond, h⟩ := Option.bind_eq_some_iff.mp h
      obtain ⟨offset, hfraction, h⟩ := Option.bind_eq_some_iff.mp h
      obtain ⟨zone, hzone, -⟩ := Option.bind_eq_some_iff.mp h
      have hdate : date? s = some (⟨year, month, day⟩, mark :: clock) := by
        simp [date?, yearField?_of_exact hyear, hhyphen, field?_of_exact (by decide) hmonth,
          hhyphen', field?_of_exact (by decide) hday]
      have hscanned : clock? clock = some (hour, minute, s₉) := by
        simp [clock?, field?_of_exact (by decide) hhour, hcolon,
          field?_of_exact (by decide) hminute]
      have hseconds : seconds? s₉ = some (second, offset) := by
        simp [seconds?, hcolon', field?_of_exact (by decide) hsecond, hfraction]
      obtain rfl := (char?_eq_some_iff ..).mp hcolon'
      exact ⟨_, mark, clock, hour, minute, s₁₀, second, offset, hdate, hmark,
        trimStart_of_number? (by decide) hhour, hscanned, hseconds, timestampOffset?_ne_nil hzone⟩
    · cases h

theorem isDateTime_of_timestamp {s : List Char} {moment : OffsetMoment}
    (h : OffsetMoment.ofTimestamp? s = some moment) : isDateTime s = false := by
  obtain ⟨date, mark, clock, hour, minute, seconds, second, offset, hdate, hmark, htrim, hclock,
    hseconds, hoffset⟩ := scanned_of_timestamp h
  have hnoDate : Date.ofText? s = none := by simp [Date.ofText?, hdate]
  have hnoMoment : LocalMoment.ofText? s = none := by
    rcases hmark with rfl | rfl | rfl
    · simp [LocalMoment.ofText?, hdate, hclock, hseconds, hoffset]
    · -- A small T stands neither for the capital one nor for a blank.
      have hsmall : trimStart ('t' :: clock) = 't' :: clock :=
        trimStart_cons_of_not_isBlank (by decide) clock
      have hnone : clock? ('t' :: clock) = none := by
        simp [clock?, field?, hsmall, number?,
          takeDigits_cons_of_not_isAsciiDigit (by decide : isAsciiDigit 't' = false)]
      simp [LocalMoment.ofText?, hdate, hsmall, hnone]
    · have hblank : trimStart (' ' :: clock) = clock :=
        (List.dropWhile_cons_of_pos (by decide)).trans htrim
      simp [LocalMoment.ofText?, hdate, hblank, hclock, hseconds, hoffset]
  simp [isDateTime, hnoDate, hnoMoment]

/-! ## Mail dates -/

theorem isAsciiLetter_of_lowerAscii {c : Char} (h : isAsciiLetter (lowerAscii c) = true) :
    isAsciiLetter c = true := by
  unfold lowerAscii at h
  split at h
  · next hcapital => simp [isAsciiLetter, hcapital]
  · exact h

theorem isDecimalDigit_of_isAsciiLetter {c : Char} (h : isAsciiLetter c = true) :
    isDecimalDigit c = false := by
  simp [isAsciiLetter, Char.le_def, UInt32.le_iff_toNat_le] at h
  rw [← Bool.not_eq_true]
  intro hdigit
  have hascii := (isAsciiDigit_iff c).mpr ⟨hdigit, by omega⟩
  rw [isAsciiDigit_iff_toNat] at hascii
  omega

/-- The name of a day of the week starts with a letter. -/
theorem head_of_weekday {s : List Char} (h : (s.take 3).map lowerAscii ∈ weekdayNames) :
    ∃ c rest, s = c :: rest ∧ isAsciiLetter c = true := by
  have hnames : ∀ name ∈ weekdayNames, name.head?.any isAsciiLetter = true := by decide
  have hhead := hnames _ h
  cases s with
  | nil => cases hhead
  | cons c rest => exact ⟨c, rest, rfl, isAsciiLetter_of_lowerAscii hhead⟩

theorem exists_blank_of_blanks? {s rest : List Char} (h : blanks? s = some rest) :
    ∃ b t, s = b :: t ∧ isBlank b = true := by
  cases s with
  | nil => cases h
  | cons b t => exact ⟨b, t, rfl, (Option.ite_none_right_eq_some.mp h).1⟩

/-- A blank stands behind the day of the month. In front of it is the name of a day of the week, or
    nothing. -/
theorem front_of_mailDate {s : List Char} {moment : OffsetMoment}
    (h : OffsetMoment.ofMailDate? s = some moment) :
    ∃ b ∈ s, isBlank b = true ∧
      ((∃ c rest, trimStart s = c :: rest ∧ isAsciiLetter c = true) ∨
        ∃ digits, NumberFront digits b (trimStart s)) := by
  unfold OffsetMoment.ofMailDate? at h
  obtain ⟨⟨weekday, behind⟩, hweekday, h⟩ := Option.bind_eq_some_iff.mp h
  obtain ⟨⟨day, rest⟩, hday, h⟩ := Option.bind_eq_some_iff.mp h
  obtain ⟨month, hblanks, -⟩ := Option.bind_eq_some_iff.mp h
  obtain ⟨b, rest, rfl, hb⟩ := exists_blank_of_blanks? hblanks
  obtain ⟨digits, -, hfront⟩ :=
    numberFront_of_number? (by decide) (isDecimalDigit_of_isBlank hb) hday
  unfold weekday? at hweekday
  split at hweekday
  · cases hweekday
    rw [trimStart_trimStart] at hfront
    exact ⟨b, mem_of_mem_trimStart hfront.mark_mem, hb, .inr ⟨digits, hfront⟩⟩
  · next i afterName hname =>
    obtain ⟨behind, hcomma, heq⟩ := Option.map_eq_some_iff.mp hweekday
    cases heq
    obtain ⟨hnamed, rfl⟩ := shortName?_eq_some hname
    have hmem : b ∈ (trimStart s).drop 3 := by
      rw [(char?_eq_some_iff ..).mp hcomma]
      exact List.mem_cons_of_mem _ (mem_of_mem_trimStart hfront.mark_mem)
    exact ⟨b, mem_of_mem_trimStart (List.mem_of_mem_drop hmem), hb,
      .inl (head_of_weekday hnamed)⟩

/-- Behind the blanks a mail date starts with a letter or with a digit. -/
theorem trimStart_ne_of_mailDate {s : List Char} {moment : OffsetMoment}
    (h : OffsetMoment.ofMailDate? s = some moment) {c : Char} (hletter : isAsciiLetter c = false)
    (hdigit : isDecimalDigit c = false) (rest : List Char) : trimStart s ≠ c :: rest := by
  intro hs
  obtain ⟨b, -, -, ⟨c', rest', heq, hletter'⟩ | ⟨digits, hfront⟩⟩ := front_of_mailDate h
  · obtain ⟨rfl, -⟩ := List.cons.inj (heq.symm.trans hs)
    rw [hletter] at hletter'
    cases hletter'
  · exact hfront.ne_cons hdigit rest hs

/-! ## Spans of time -/

theorem numberFront_of_clockForm {s : List Char} (h : ClockForm isDecimalDigit s) :
    ∃ digits, NumberFront digits ':' s := by
  rcases h with ⟨hhours, -, -⟩ | ⟨hhours, -, -⟩
  · have hdigit := isDecimalDigit_of_isAsciiDigit (isAsciiDigit_digitChar hhours)
    exact ⟨[_], List.cons_ne_nil _ _, List.forall_mem_singleton.mpr hdigit, by decide, _, rfl⟩
  · exact ⟨twoDigits _, List.cons_ne_nil _ _, fun c hc =>
      isDecimalDigit_of_isAsciiDigit (isAsciiDigit_of_mem_twoDigits (by omega) hc), by decide, _,
      rfl⟩

theorem front_of_daysForm {s : List Char} (h : DaysForm isDecimalDigit s) :
    ':' ∈ s ∧ ∃ digits mark, (mark = '.' ∨ mark = ':') ∧ NumberFront digits mark s := by
  rcases h with hclock | ⟨hdigits, hsome, hclock⟩
  · obtain ⟨digits, hfront⟩ := numberFront_of_clockForm hclock
    exact ⟨hfront.mark_mem, digits, ':', .inr rfl, hfront⟩
  · obtain ⟨digits, hfront⟩ := numberFront_of_clockForm hclock
    have hcolon := hfront.mark_mem
    exact ⟨by simp [hcolon], _, '.', .inl rfl, List.ne_nil_of_length_pos hsome, hdigits, by decide,
      _, rfl⟩

/-- A span of time has a colon. It starts with a number or with a minus in front of one, and behind
    the number stands a point or a colon. -/
theorem front_of_timeSpan {s : List Char} (h : TimeSpan.accepts s = true) :
    ':' ∈ s ∧ ∃ t digits mark, (s = t ∨ s = '-' :: t) ∧ (mark = '.' ∨ mark = ':') ∧
      NumberFront digits mark t := by
  rcases accepts_eq_true_iff.mp h with hdays | hdays
  · obtain ⟨hcolon, digits, mark, hmark, hfront⟩ := front_of_daysForm hdays
    exact ⟨hcolon, _, digits, mark, .inl rfl, hmark, hfront⟩
  · obtain ⟨hcolon, digits, mark, hmark, hfront⟩ := front_of_daysForm hdays
    exact ⟨List.mem_cons_of_mem _ hcolon, _, digits, mark, .inr rfl, hmark, hfront⟩

end SampleTypes
