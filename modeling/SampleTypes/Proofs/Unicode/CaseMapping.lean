import SampleTypes.Proofs.Unicode.Tables
import SampleTypes.Unicode.Alphanumeric
import SampleTypes.Unicode.CaseMapping
import SampleTypes.Unicode.DecimalDigit
import SampleTypes.Unicode.LetterCase

set_option autoImplicit false

/-! # What case mappings keep

A letter's capital and small form are alphanumeric like the letter itself. No decimal digit of any
script has another form or is one, and no capital is one of the letters a to z. Both mappings are
done after one application: a capital is its own capital, and the small form of a letter is its
own small form, which is a capital only where the letter is one that has no other. -/

namespace SampleTypes.Unicode

/-! ## What is decided of a mapping

Each table is read once, run by run, and what it says is then used for all characters. -/

/-- The runs of a case mapping are moved to characters, to letters and numbers among them, away
    from no decimal digit and to none, and to nothing that is moved itself. -/
structure CaseTable.IsRegular (table : CaseTable) : Prop where
  characters : table.all CaseRun.isCharacters = true
  alphanumeric : (table.all fun r => alphanumericSpans.includes r.image r.lastImage r.step) = true
  fromNoDigits : (table.all fun r => decimalDigitSpans.excludes r.first r.last r.step) = true
  toNoDigits : (table.all fun r => decimalDigitSpans.excludes r.image r.lastImage r.step) = true
  toNoSources : (table.all fun r => table.sources.excludes r.image r.lastImage r.step) = true

instance (table : CaseTable) : Decidable table.IsRegular :=
  decidable_of_iff (_ ∧ _ ∧ _ ∧ _ ∧ _)
    ⟨fun ⟨h₁, h₂, h₃, h₄, h₅⟩ => ⟨h₁, h₂, h₃, h₄, h₅⟩, fun ⟨h₁, h₂, h₃, h₄, h₅⟩ => ⟨h₁, h₂, h₃, h₄, h₅⟩⟩

namespace CaseTable.IsRegular

variable {table : CaseTable} {c : Char}

theorem isAlphanumeric_apply (h : table.IsRegular) (hc : isAlphanumeric c = true) :
    isAlphanumeric (table.apply c) = true :=
  contains_apply h.characters h.alphanumeric hc

theorem apply_of_isDecimalDigit (h : table.IsRegular) (hc : isDecimalDigit c = true) :
    table.apply c = c :=
  apply_of_contains h.characters h.fromNoDigits hc

theorem isDecimalDigit_apply (h : table.IsRegular) (c : Char) :
    isDecimalDigit (table.apply c) = isDecimalDigit c :=
  contains_apply_eq h.characters h.fromNoDigits h.toNoDigits c

theorem apply_apply (h : table.IsRegular) (c : Char) :
    table.apply (table.apply c) = table.apply c :=
  CaseTable.apply_apply h.characters h.toNoSources c

end CaseTable.IsRegular

theorem toUpperRuns_isRegular : toUpperRuns.IsRegular := by
  decide +kernel

theorem toLowerRuns_isRegular : toLowerRuns.IsRegular := by
  decide +kernel

theorem toUpperRuns_from_no_capitals :
    (toUpperRuns.all fun r => uppercaseSpans.excludes r.first r.last r.step) = true := by
  decide +kernel

theorem toLowerRuns_to_no_capitals :
    (toLowerRuns.all fun r => uppercaseSpans.excludes r.image r.lastImage r.step) = true := by
  decide +kernel

/-! ## Letters and numbers -/

theorem isAlphanumeric_upperChar {c : Char} (h : isAlphanumeric c = true) :
    isAlphanumeric (upperChar c) = true :=
  CaseTable.IsRegular.isAlphanumeric_apply toUpperRuns_isRegular h

theorem isAlphanumeric_lowerChar {c : Char} (h : isAlphanumeric c = true) :
    isAlphanumeric (lowerChar c) = true :=
  CaseTable.IsRegular.isAlphanumeric_apply toLowerRuns_isRegular h

/-! ## Decimal digits -/

theorem upperChar_of_isDecimalDigit {c : Char} (h : isDecimalDigit c = true) : upperChar c = c :=
  CaseTable.IsRegular.apply_of_isDecimalDigit toUpperRuns_isRegular h

theorem lowerChar_of_isDecimalDigit {c : Char} (h : isDecimalDigit c = true) : lowerChar c = c :=
  CaseTable.IsRegular.apply_of_isDecimalDigit toLowerRuns_isRegular h

theorem isDecimalDigit_upperChar (c : Char) : isDecimalDigit (upperChar c) = isDecimalDigit c :=
  CaseTable.IsRegular.isDecimalDigit_apply toUpperRuns_isRegular c

theorem isDecimalDigit_lowerChar (c : Char) : isDecimalDigit (lowerChar c) = isDecimalDigit c :=
  CaseTable.IsRegular.isDecimalDigit_apply toLowerRuns_isRegular c

/-! ## Capital and small letters -/

theorem upperChar_of_isUppercase {c : Char} (h : isUppercase c = true) : upperChar c = c :=
  CaseTable.apply_of_contains (CaseTable.IsRegular.characters toUpperRuns_isRegular)
    toUpperRuns_from_no_capitals h

/-- A small form that is a capital is the letter itself. -/
theorem lowerChar_of_isUppercase {c : Char} (h : isUppercase (lowerChar c) = true) :
    lowerChar c = c :=
  CaseTable.apply_eq_of_contains (CaseTable.IsRegular.characters toLowerRuns_isRegular)
    toLowerRuns_to_no_capitals h

theorem upperChar_upperChar (c : Char) : upperChar (upperChar c) = upperChar c :=
  CaseTable.IsRegular.apply_apply toUpperRuns_isRegular c

theorem lowerChar_lowerChar (c : Char) : lowerChar (lowerChar c) = lowerChar c :=
  CaseTable.IsRegular.apply_apply toLowerRuns_isRegular c

/-! ## Letters of ASCII -/

theorem isLower_iff {c : Char} : c.isLower = true ↔ 0x61 ≤ c.toNat ∧ c.toNat ≤ 0x7A := by
  simp [Char.isLower, UInt32.le_iff_toNat_le, ← Char.toNat_val]

theorem isAlpha_iff {c : Char} : c.isAlpha = true ↔
    0x41 ≤ c.toNat ∧ c.toNat ≤ 0x5A ∨ 0x61 ≤ c.toNat ∧ c.toNat ≤ 0x7A := by
  simp [Char.isAlpha, Char.isUpper, Char.isLower, UInt32.le_iff_toNat_le, ← Char.toNat_val]

theorem isAlphanumeric_of_isAlpha {c : Char} (h : c.isAlpha = true) : isAlphanumeric c = true := by
  rcases isAlpha_iff.1 h with ⟨hfirst, hlast⟩ | ⟨hfirst, hlast⟩
  · exact SpanTable.contains_of_includes_all (by decide) hfirst hlast
  · exact SpanTable.contains_of_includes_all (by decide) hfirst hlast

theorem isDecimalDigit_of_isAlpha {c : Char} (h : c.isAlpha = true) : isDecimalDigit c = false := by
  rcases isAlpha_iff.1 h with ⟨hfirst, hlast⟩ | ⟨hfirst, hlast⟩
  · exact SpanTable.not_contains_of_excludes_all (by decide) hfirst hlast
  · exact SpanTable.not_contains_of_excludes_all (by decide) hfirst hlast

/-- The capital of a letter is none of the letters a to z: no other letter has one of them for its
    capital, and they have capitals of their own. -/
theorem isLower_upperChar (c : Char) : (upperChar c).isLower = false := by
  rw [← Bool.not_eq_true]
  intro h
  obtain ⟨hfirst, hlast⟩ := isLower_iff.1 h
  have hspan : SpanTable.contains [⟨0x61, 0x7A, 1⟩] (upperChar c).toNat = true :=
    SpanTable.contains_of_includes_all (by decide) hfirst hlast
  have hsame : upperChar c = c :=
    CaseTable.apply_eq_of_contains (CaseTable.IsRegular.characters toUpperRuns_isRegular)
      (by decide +kernel) hspan
  rw [hsame, isLower_iff] at h
  have hmoved : ∀ n ∈ List.range' 0x61 26, upperChar (Char.ofNat n) ≠ Char.ofNat n := by
    decide +kernel
  refine hmoved c.toNat (List.mem_range'_1.2 (by omega)) ?_
  rw [Char.ofNat_toNat, hsame]

/-- What holds of the characters with the numbers below 128 holds of ASCII. -/
theorem forall_ascii {P : Char → Prop} (hall : ∀ n ∈ List.range 128, P (Char.ofNat n)) {c : Char}
    (h : c.toNat < 128) : P c := by
  have hc := hall c.toNat (List.mem_range.2 h)
  rwa [Char.ofNat_toNat] at hc

/-- No capital among the small forms of ASCII. -/
theorem isUppercase_lowerChar_of_ascii {c : Char} (h : c.toNat < 128) :
    isUppercase (lowerChar c) = false :=
  forall_ascii (P := fun c => isUppercase (lowerChar c) = false) (by decide +kernel) h

theorem lowerChar_lt_of_ascii {c : Char} (h : c.toNat < 128) : (lowerChar c).toNat < 128 :=
  forall_ascii (P := fun c => (lowerChar c).toNat < 128) (by decide +kernel) h

/-- A letter of ASCII and its small form have one capital. -/
theorem upperChar_lowerChar_of_ascii {c : Char} (h : c.toNat < 128) :
    upperChar (lowerChar c) = upperChar c :=
  forall_ascii (P := fun c => upperChar (lowerChar c) = upperChar c) (by decide +kernel) h

end SampleTypes.Unicode
