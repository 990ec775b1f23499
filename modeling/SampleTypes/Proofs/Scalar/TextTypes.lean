import Mathlib
import SampleTypes.Proofs.Scalar.Moment
import SampleTypes.Proofs.Scalar.Uuid

set_option autoImplicit false

/-! # A text has one type

The four recognisers of texts accept disjoint sets, so that the order in which they are asked does not
matter. Two of them are told apart by the first characters of a text, and by its blanks and colons
where these are not enough. -/

namespace SampleTypes

open Scan Unicode

variable {s : List Char}

/-! ## No text passes two tests -/

theorem isOffsetDateTime_iff : isOffsetDateTime s = true ↔
    (∃ moment, OffsetMoment.ofTimestamp? s = some moment) ∨
      ∃ moment, OffsetMoment.ofMailDate? s = some moment := by
  simp [isOffsetDateTime, Option.isSome_iff_exists]

/-- A year and its hyphen are in front of moments, where a UUID has eight digits. -/
theorem Uuid.Form.not_numberFront (h : Uuid.Form s) {digits : List Char} (hlength : digits.length ≤ 4) :
    ¬ NumberFront digits '-' s := by
  intro hfront
  exact absurd (h.mem_take _ (hfront.mark_mem_take (by omega : digits.length < 8))) (by decide)

theorem Uuid.Form.trimStart_eq_self (h : Uuid.Form s) : trimStart s = s := by
  cases s with
  | nil => rfl
  | cons c rest => exact trimStart_cons_of_not_isBlank (h.isBlank c List.mem_cons_self) rest

theorem Uuid.Form.isOffsetDateTime_eq_false (h : Uuid.Form s) : isOffsetDateTime s = false := by
  rw [← Bool.not_eq_true, isOffsetDateTime_iff]
  rintro (⟨moment, hmoment⟩ | ⟨moment, hmoment⟩)
  · obtain ⟨digits, hlength, hfront⟩ := front_of_timestamp hmoment
    exact h.not_numberFront hlength hfront
  · obtain ⟨b, hmem, hblank, -⟩ := front_of_mailDate hmoment
    rw [h.isBlank b hmem] at hblank
    cases hblank

theorem Uuid.Form.isDateTime_eq_false (h : Uuid.Form s) : isDateTime s = false := by
  rw [← Bool.not_eq_true]
  intro hmoment
  obtain ⟨p, hdate⟩ := exists_date?_of_isDateTime hmoment
  have hcases := front_of_date? hdate
  rw [h.trimStart_eq_self] at hcases
  rcases hcases with ⟨rest, rfl⟩ | ⟨rest, digits, rfl, -⟩ | ⟨digits, hlength, hfront⟩
  · exact absurd (h.mem_take '+' (by simp)) (by decide)
  · exact absurd (h.mem_take '-' (by simp)) (by decide)
  · exact h.not_numberFront hlength hfront

theorem Uuid.Form.timeSpan_eq_false (h : Uuid.Form s) : TimeSpan.accepts s = false := by
  rw [← Bool.not_eq_true]
  intro hspan
  obtain ⟨hcolon, t, digits, mark, hs, -, hfront⟩ := front_of_timeSpan hspan
  -- A UUID with a colon starts with a letter, and a span of time with a digit or a minus.
  have hhead := h.colon.resolve_left (not_not_intro hcolon)
  obtain ⟨c, rest, rfl, hc⟩ := hfront.head
  rcases hs with rfl | rfl
  · have hu : lowerAscii c = 'u' := Option.some.inj hhead
    have hletter : isAsciiLetter c = true := isAsciiLetter_of_lowerAscii (by rw [hu]; decide)
    rw [isDecimalDigit_of_isAsciiLetter hletter] at hc
    cases hc
  · exact absurd (Option.some.inj hhead) (by decide)

theorem isDateTime_of_isOffsetDateTime (h : isOffsetDateTime s = true) : isDateTime s = false := by
  rcases isOffsetDateTime_iff.mp h with ⟨moment, hmoment⟩ | ⟨moment, hmoment⟩
  · exact isDateTime_of_timestamp hmoment
  · rw [← Bool.not_eq_true]
    intro hlocal
    obtain ⟨p, hdate⟩ := exists_date?_of_isDateTime hlocal
    rcases front_of_date? hdate with ⟨rest, hsign⟩ | ⟨rest, digits, hsign, -⟩ | ⟨digits, -, hfront⟩
    · exact trimStart_ne_of_mailDate hmoment (by decide) (by decide) rest hsign
    · exact trimStart_ne_of_mailDate hmoment (by decide) (by decide) rest hsign
    · obtain ⟨b, -, hblank, ⟨c, rest, heq, hletter⟩ | ⟨others, hmail⟩⟩ := front_of_mailDate hmoment
      · exact hfront.ne_cons (isDecimalDigit_of_isAsciiLetter hletter) rest heq
      · rw [hmail.mark_unique hfront] at hblank
        exact absurd hblank (by decide)

/-- A text that a span of time starts like, with a minus in front or without, is no date. -/
theorem timeSpan_of_isDateTime (h : isDateTime s = true) : TimeSpan.accepts s = false := by
  rw [← Bool.not_eq_true]
  intro hspan
  obtain ⟨p, hdate⟩ := exists_date?_of_isDateTime h
  obtain ⟨-, t, digits, mark, hs, hmark, hfront⟩ := front_of_timeSpan hspan
  have hmark' : mark ≠ '-' := by rcases hmark with rfl | rfl <;> decide
  have hcases := front_of_date? hdate
  rcases hs with rfl | rfl
  · rw [hfront.trimStart_eq_self] at hcases
    rcases hcases with ⟨rest, hsign⟩ | ⟨rest, others, hsign, -⟩ | ⟨others, -, hdateFront⟩
    · exact hfront.ne_cons (by decide) _ hsign
    · exact hfront.ne_cons (by decide) _ hsign
    · exact hmark' (hfront.mark_unique hdateFront)
  · rw [trimStart_cons_of_not_isBlank (by decide)] at hcases
    rcases hcases with ⟨rest, hsign⟩ | ⟨rest, others, hsign, hdateFront⟩ | ⟨others, -, hdateFront⟩
    · cases hsign
    · cases hsign
      exact hmark' (hfront.mark_unique hdateFront)
    · exact hdateFront.ne_cons (by decide) _ rfl

theorem timeSpan_of_isOffsetDateTime (h : isOffsetDateTime s = true) :
    TimeSpan.accepts s = false := by
  rw [← Bool.not_eq_true]
  intro hspan
  obtain ⟨-, t, digits, mark, hs, hmark, hfront⟩ := front_of_timeSpan hspan
  rcases isOffsetDateTime_iff.mp h with ⟨moment, hmoment⟩ | ⟨moment, hmoment⟩
  · obtain ⟨others, -, hyear⟩ := front_of_timestamp hmoment
    rcases hs with rfl | rfl
    · rw [hfront.mark_unique hyear] at hmark
      exact absurd hmark (by decide)
    · exact hyear.ne_cons (by decide) _ rfl
  · rcases hs with rfl | rfl
    · obtain ⟨b, -, hblank, hmail⟩ := front_of_mailDate hmoment
      rw [hfront.trimStart_eq_self] at hmail
      rcases hmail with ⟨c, rest, heq, hletter⟩ | ⟨others, hmail⟩
      · exact hfront.ne_cons (isDecimalDigit_of_isAsciiLetter hletter) rest heq
      · rw [hmail.mark_unique hfront] at hblank
        rcases hmark with rfl | rfl <;> exact absurd hblank (by decide)
    · exact trimStart_ne_of_mailDate hmoment (by decide) (by decide) t
        (trimStart_cons_of_not_isBlank (by decide) t)

/-! ## The order of the tests -/

/-- The tests that a text is put to, each with the type of the texts that pass it, in the order in
    which they are tried. -/
def textTests : List ((List Char → Bool) × ValueType) :=
  [(Uuid.accepts, .uuid), (isOffsetDateTime, .offsetDateTime), (isDateTime, .dateTime),
    (TimeSpan.accepts, .timeSpan)]

/-- The tests that a text passes. -/
def passedTests (tests : List ((List Char → Bool) × ValueType)) (s : List Char) :
    List ((List Char → Bool) × ValueType) :=
  tests.filter fun t => t.1 s

/-- The type of the first test that a text passes, or that of plain text. -/
def firstPassed (tests : List ((List Char → Bool) × ValueType)) (s : List Char) : ValueType :=
  ((tests.find? fun t => t.1 s).map (·.2)).getD .text

theorem textType_eq_firstPassed (s : List Char) : textType s = firstPassed textTests s := by
  unfold textType firstPassed textTests
  cases huuid : Uuid.accepts s <;> cases hoffset : isOffsetDateTime s <;>
    cases hlocal : isDateTime s <;> cases hspan : TimeSpan.accepts s <;>
    simp [huuid, hoffset, hlocal, hspan]

theorem textTests_pairwise (s : List Char) :
    textTests.Pairwise fun a b => a.1 s = true → b.1 s = false := by
  simp only [textTests, List.pairwise_cons, List.forall_mem_cons, List.not_mem_nil, false_imp_iff,
    implies_true, List.Pairwise.nil, and_true]
  refine ⟨⟨fun h => ?_, fun h => ?_, fun h => ?_⟩, ⟨?_, ?_⟩, ?_⟩
  · exact (Uuid.Form.of_accepts h).isOffsetDateTime_eq_false
  · exact (Uuid.Form.of_accepts h).isDateTime_eq_false
  · exact (Uuid.Form.of_accepts h).timeSpan_eq_false
  · exact isDateTime_of_isOffsetDateTime
  · exact timeSpan_of_isOffsetDateTime
  · exact timeSpan_of_isDateTime

theorem length_passedTests_le_one (s : List Char) : (passedTests textTests s).length ≤ 1 := by
  have hpairwise := (textTests_pairwise s).filter fun t => t.1 s
  have hpassed : ∀ t ∈ passedTests textTests s, t.1 s = true := fun t ht => (List.mem_filter.mp ht).2
  change (passedTests textTests s).Pairwise _ at hpairwise
  match hlist : passedTests textTests s with
  | [] => simp
  | [_] => simp
  | a :: b :: rest =>
    rw [hlist] at hpairwise hpassed
    have ha := hpassed a (by simp)
    have hb := hpassed b (by simp)
    rw [List.rel_of_pairwise_cons hpairwise (by simp) ha] at hb
    cases hb

theorem firstPassed_eq_head? (tests : List ((List Char → Bool) × ValueType)) (s : List Char) :
    firstPassed tests s = ((passedTests tests s).head?.map (·.2)).getD .text := by
  rw [firstPassed, passedTests, List.head?_filter]

/-- In whatever order the four tests are tried, a text passes one of them at most, and the first one
    that it passes gives its type. -/
theorem textType_of_perm {tests : List ((List Char → Bool) × ValueType)}
    (horder : tests.Perm textTests) (s : List Char) :
    (passedTests tests s).length ≤ 1 ∧ firstPassed tests s = textType s := by
  have hperm : (passedTests tests s).Perm (passedTests textTests s) := horder.filter _
  have hone : (passedTests tests s).length ≤ 1 := hperm.length_eq ▸ length_passedTests_le_one s
  refine ⟨hone, ?_⟩
  rw [textType_eq_firstPassed, firstPassed_eq_head?, firstPassed_eq_head?]
  match hlist : passedTests tests s with
  | [] =>
    rw [hlist] at hperm
    rw [hperm.nil_eq]
  | [t] =>
    rw [hlist] at hperm
    rw [List.singleton_perm.mp hperm]
  | _ :: _ :: _ =>
    rw [hlist] at hone
    exact absurd hone (by simp)

/-- A span of time is one also where the tests are tried from the last to the first. -/
theorem timeSpan_of_reverse :
    textTests.reverse.Perm textTests ∧
      (passedTests textTests.reverse "-3.04:05:06".toList).length ≤ 1 ∧
      firstPassed textTests.reverse "-3.04:05:06".toList = .timeSpan := by
  obtain ⟨hone, htype⟩ := textType_of_perm (List.reverse_perm textTests) "-3.04:05:06".toList
  exact ⟨List.reverse_perm _, hone, htype.trans (by decide +kernel)⟩

end SampleTypes
