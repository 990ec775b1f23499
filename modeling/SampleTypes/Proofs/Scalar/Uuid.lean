import Mathlib
import SampleTypes.Proofs.Unicode.Tables
import SampleTypes.Scalar.Uuid
import SampleTypes.Unicode.Blank

set_option autoImplicit false

/-! # Which texts are UUIDs

The four forms as a grammar, and what it says about the characters of a UUID. -/

namespace SampleTypes.Uuid

open SampleTypes.Scan SampleTypes.Unicode

/-- The four forms: bare digits, five groups, the groups in braces and the groups behind the scheme
    of names. -/
inductive Form : List Char → Prop
  | bare {digits : List Char} (hlength : digits.length = 32)
      (hdigits : ∀ c ∈ digits, isHexDigit c = true) : Form digits
  | hyphenated {groups : List Char} (hgroups : isHyphenated groups = true) : Form groups
  | braced {groups : List Char} (hgroups : isHyphenated groups = true) :
      Form ('\x7b' :: (groups ++ ['\x7d']))
  | name {scheme groups : List Char} (hscheme : scheme.map lowerAscii = nameScheme)
      (hgroups : isHyphenated groups = true) : Form (scheme ++ groups)

theorem Form.of_accepts {s : List Char} (h : accepts s = true) : Form s := by
  simp only [accepts, Bool.or_eq_true] at h
  rcases h with ((h | h) | h) | h
  · simp only [isBare, Bool.and_eq_true, beq_iff_eq, List.all_eq_true] at h
    exact .bare h.1 h.2
  · exact .hyphenated h
  · unfold isBraced at h
    split at h
    · next rest =>
      simp only [Bool.and_eq_true, beq_iff_eq] at h
      rw [← List.dropLast_append_getLast? _ h.1]
      exact .braced h.2
    · cases h
  · simp only [isName, Bool.and_eq_true, beq_iff_eq] at h
    rw [← List.take_append_drop nameScheme.length s]
    exact .name h.1 h.2

/-! ## Characters -/

/-- The characters of a group and between groups. -/
theorem mem_of_isGrouped {lengths : List Nat} {s : List Char} (h : isGrouped lengths s = true) :
    ∀ c ∈ s, isHexDigit c = true ∨ c = '-' := by
  fun_induction isGrouped lengths s with
  | case1 s =>
    rw [List.isEmpty_iff.mp h]
    exact List.forall_mem_nil _
  | case2 n s =>
    simp only [Bool.and_eq_true, List.all_eq_true] at h
    exact fun c hc => .inl (h.2 c hc)
  | case3 n lengths s _ ih =>
    simp only [Bool.and_eq_true, List.all_eq_true, beq_iff_eq] at h
    obtain ⟨⟨⟨-, hgroup⟩, hhyphen⟩, hrest⟩ := h
    obtain ⟨rest, hdrop⟩ := List.head?_eq_some_iff.mp hhyphen
    have hnext : s.drop (n + 1) = rest := by rw [← List.tail_drop, hdrop, List.tail_cons]
    intro c hc
    rw [← List.take_append_drop n s, hdrop, List.mem_append, List.mem_cons] at hc
    rcases hc with hc | rfl | hc
    · exact .inl (hgroup c hc)
    · exact .inr rfl
    · exact ih hrest c (hnext ▸ hc)

/-- The first group, of eight digits. -/
theorem firstGroup_of_isHyphenated {s : List Char} (h : isHyphenated s = true) :
    8 ≤ s.length ∧ ∀ c ∈ s.take 8, isHexDigit c = true := by
  simp only [isHyphenated, groupLengths, isGrouped, Bool.and_eq_true, List.all_eq_true,
    beq_iff_eq, List.length_take] at h
  exact ⟨by omega, h.1.1.2⟩

/-- Whether a character is a visible ASCII character. -/
def IsVisible (c : Char) : Prop := 33 ≤ c.toNat ∧ c.toNat ≤ 126

theorem IsVisible.isBlank {c : Char} (h : IsVisible c) : isBlank c = false := by
  have hexcludes : blankSpans.excludes 33 126 1 = true := by decide
  exact SpanTable.not_contains_of_excludes_all hexcludes h.1 h.2

theorem isVisible_of_isHexDigit {c : Char} (h : isHexDigit c = true) : IsVisible c := by
  simp [isHexDigit, Char.le_def, UInt32.le_iff_toNat_le] at h
  unfold IsVisible
  omega

theorem isVisible_of_lowerAscii {c : Char} (h : IsVisible (lowerAscii c)) : IsVisible c := by
  unfold lowerAscii at h
  split at h
  · next hcapital =>
    simp [Char.le_def, UInt32.le_iff_toNat_le] at hcapital
    unfold IsVisible
    omega
  · exact h

/-- The first eight characters are those of the first group, the opening brace or the scheme. -/
theorem Form.mem_take {s : List Char} (h : Form s) :
    ∀ c ∈ s.take 8, isHexDigit c = true ∨ c = '\x7b' ∨ lowerAscii c ∈ nameScheme := by
  intro c hc
  cases h with
  | bare hlength hdigits => exact .inl (hdigits c (List.mem_of_mem_take hc))
  | hyphenated hgroups => exact .inl ((firstGroup_of_isHyphenated hgroups).2 c hc)
  | braced hgroups =>
    obtain ⟨hlength, hgroup⟩ := firstGroup_of_isHyphenated hgroups
    rw [List.take_succ_cons, List.take_append_of_le_length (by omega), List.mem_cons] at hc
    rcases hc with rfl | hc
    · exact .inr (.inl rfl)
    · exact .inl (hgroup c ((List.take_subset_take_left _ (by decide)) hc))
  | @name scheme groups hscheme hgroups =>
    have hlength : scheme.length = 9 := by rw [← List.length_map lowerAscii, hscheme]; rfl
    rw [List.take_append_of_le_length (by omega)] at hc
    refine .inr (.inr ?_)
    rw [← hscheme]
    exact List.mem_map_of_mem (List.mem_of_mem_take hc)

theorem Form.isBlank {s : List Char} (h : Form s) : ∀ c ∈ s, isBlank c = false := by
  have hgrouped : ∀ {groups}, isHyphenated groups = true → ∀ c ∈ groups, Unicode.isBlank c = false := by
    intro groups hgroups c hc
    rcases mem_of_isGrouped hgroups c hc with hhex | rfl
    · exact (isVisible_of_isHexDigit hhex).isBlank
    · decide
  cases h with
  | bare hlength hdigits => exact fun c hc => (isVisible_of_isHexDigit (hdigits c hc)).isBlank
  | hyphenated hgroups => exact hgrouped hgroups
  | braced hgroups =>
    simp only [List.forall_mem_cons, List.forall_mem_append]
    exact ⟨by decide, hgrouped hgroups, by decide, List.forall_mem_nil _⟩
  | @name scheme groups hscheme hgroups =>
    refine List.forall_mem_append.mpr ⟨fun c hc => ?_, hgrouped hgroups⟩
    have hvisible : ∀ c ∈ nameScheme, IsVisible c := by simp [nameScheme, IsVisible]
    exact (isVisible_of_lowerAscii (hvisible _ (hscheme ▸ List.mem_map_of_mem hc))).isBlank

/-- A colon stands in the scheme of names only, which starts with a U. -/
theorem Form.colon {s : List Char} (h : Form s) :
    ':' ∉ s ∨ s.head?.map lowerAscii = some 'u' := by
  have hgrouped : ∀ {groups}, isHyphenated groups = true → ':' ∉ groups := by
    intro groups hgroups hcolon
    exact absurd (mem_of_isGrouped hgroups _ hcolon) (by decide)
  cases h with
  | bare hlength hdigits => exact .inl fun hcolon => absurd (hdigits _ hcolon) (by decide)
  | hyphenated hgroups => exact .inl (hgrouped hgroups)
  | braced hgroups => simp [hgrouped hgroups]
  | @name scheme groups hscheme hgroups =>
    refine .inr ?_
    cases scheme with
    | nil => cases hscheme
    | cons c scheme => exact congrArg List.head? hscheme

end SampleTypes.Uuid
