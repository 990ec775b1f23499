import Mathlib
import SampleTypes.Proofs.Decimal.Literal
import SampleTypes.Proofs.Json.Words

set_option autoImplicit false

/-! # The literals that the reader takes

What a document may have as a number is what is written from the parts of a literal: the reader takes
the whole of a source exactly if that is the text of a `NumberLiteral` (`readNumber_whole_iff`). -/

namespace SampleTypes.Json

/-- The octets of a text in ASCII. -/
def octets (s : List Char) : Bytes := s.map Octet.ofChar

@[simp] theorem octets_nil : octets [] = [] := rfl

@[simp] theorem octets_cons (c : Char) (s : List Char) :
    octets (c :: s) = Octet.ofChar c :: octets s := rfl

theorem octets_append (s t : List Char) : octets (s ++ t) = octets s ++ octets t :=
  List.map_append

/-! ## Digits -/

theorem isDigit_digitChar (d : Fin 10) :
    Octet.isDigit (Octet.ofChar (Nat.digitChar d.val)) = true := by
  revert d
  decide

/-- The octet of a digit is no other octet of a literal, and it is zero for the digit zero alone. -/
theorem ofChar_digitChar_ne (d : Fin 10) :
    Octet.ofChar (Nat.digitChar d.val) ≠ Octet.plus ∧
      Octet.ofChar (Nat.digitChar d.val) ≠ Octet.minus ∧
      (Octet.ofChar (Nat.digitChar d.val) = Octet.zero ↔ d = 0) := by
  revert d
  decide

theorem exists_digitChar_of_isDigit {b : UInt8} (h : Octet.isDigit b = true) :
    ∃ d : Fin 10, b = Octet.ofChar (Nat.digitChar d.val) := by
  simp only [Octet.isDigit, Octet.zero, Octet.nine, Bool.and_eq_true, decide_eq_true_eq,
    UInt8.le_iff_toNat_le] at h
  have hzero : (48 : UInt8).toNat = 48 := rfl
  have hnine : (57 : UInt8).toNat = 57 := rfl
  have hlt : b.toNat - 48 < 10 := by omega
  refine ⟨⟨b.toNat - 48, hlt⟩, UInt8.toNat_inj.mp ?_⟩
  simp only [Octet.ofChar, Nat.toNat_digitChar_of_lt_ten hlt, Nat.toUInt8_eq, UInt8.toNat_ofNat']
  omega

/-- Octets of digits are the text of a run of digits. -/
theorem forall_isDigit_iff (s : Bytes) :
    (∀ b ∈ s, Octet.isDigit b = true) ↔ ∃ ds : Digits, s = octets ds.text := by
  constructor
  · intro h
    induction s with
    | nil => exact ⟨[], rfl⟩
    | cons b s ih =>
      rw [List.forall_mem_cons] at h
      obtain ⟨d, rfl⟩ := exists_digitChar_of_isDigit h.1
      obtain ⟨ds, rfl⟩ := ih h.2
      exact ⟨d :: ds, rfl⟩
  · rintro ⟨ds, rfl⟩ b hb
    obtain ⟨d, -, rfl⟩ : ∃ d : Fin 10, d ∈ ds ∧ Octet.ofChar (Nat.digitChar d.val) = b := by
      simpa [octets, Digits.text] using hb
    exact isDigit_digitChar d

/-! ## Reading to the end -/

/-- What is taken off behind an octet is all of the rest. -/
theorem headed_whole_iff {starts : Prop} [Decidable starts] {behind other : Option (Bytes × Bytes)}
    {b : UInt8} {rest : Bytes} :
    (if starts then behind.map fun p => (b :: p.1, p.2) else other) = some (b :: rest, []) ↔
      if starts then behind = some (rest, []) else other = some (b :: rest, []) := by
  split
  · cases behind <;> simp [Prod.ext_iff]
  · rfl

/-- No digit stands in front. -/
def StartsWithoutDigit (s : Bytes) : Prop := ∀ b, s.head? = some b → Octet.isDigit b = false

theorem StartsWithoutDigit.any_isDigit {s : Bytes} (h : StartsWithoutDigit s) :
    s.head?.any Octet.isDigit = false := by
  cases s with
  | nil => rfl
  | cons b rest => exact h b rfl

/-- Digits, at least one of them, and what `f` takes off behind them. -/
theorem afterDigits_whole_iff (f : Bytes → Option (Bytes × Bytes)) (s : Bytes) :
    (if (!(takeDigits s).isEmpty) = true then
      (f (dropDigits s)).map fun p => (takeDigits s ++ p.1, p.2) else none) = some (s, []) ↔
      ∃ ds : Digits, ∃ t, ds ≠ [] ∧ s = octets ds.text ++ t ∧ StartsWithoutDigit t ∧
        f t = some (t, []) := by
  have hsplit := takeDigits_append_dropDigits s
  constructor
  · intro hread
    obtain ⟨ds, hds⟩ := (forall_isDigit_iff (takeDigits s)).mp fun b => isDigit_of_mem_takeDigits
    split at hread
    · next hne =>
      obtain ⟨p, hp, hwhole⟩ := Option.map_eq_some_iff.mp hread
      rw [Prod.mk.injEq] at hwhole
      have htext : p.1 = dropDigits s := by
        rw [← List.append_cancel_left_eq (takeDigits s), hsplit]
        exact hwhole.1
      refine ⟨ds, dropDigits s, ?_, by rw [← hds, hsplit], fun b => head?_dropDigits, ?_⟩
      · rintro rfl
        rw [hds] at hne
        cases hne
      · rw [hp, ← htext, ← hwhole.2]
    · cases hread
  · rintro ⟨ds, t, hne, rfl, ht, hf⟩
    have hdigits := (forall_isDigit_iff (octets ds.text)).mpr ⟨ds, rfl⟩
    obtain ⟨htake, hdrop⟩ := takeDigits_append hdigits ht
    obtain ⟨d, rest, rfl⟩ := List.exists_cons_of_ne_nil hne
    rw [htake, hdrop, hf]
    rfl

/-! ## The parts of a literal -/

variable (atEnd : Complaint)

theorem readExponentDigits_whole_iff (s : Bytes) :
    Part.outcome (readExponentDigits atEnd s) = some (s, []) ↔
      ∃ ds : Digits, ds ≠ [] ∧ s = octets ds.text := by
  rw [outcome_exponentDigits, afterDigits_whole_iff fun s => some ([], s)]
  constructor
  · rintro ⟨ds, t, hne, rfl, -, ht⟩
    obtain rfl : t = [] := by simpa using ht
    exact ⟨ds, hne, List.append_nil _⟩
  · rintro ⟨ds, hne, rfl⟩
    exact ⟨ds, [], hne, (List.append_nil _).symm, by rintro b ⟨⟩, rfl⟩

theorem readExponent_whole_iff (s : Bytes) :
    Part.outcome (readExponent atEnd s) = some (s, []) ↔
      ∃ e : ExponentPart, s = octets e.signedText := by
  constructor
  · intro h
    cases s with
    | nil => cases h
    | cons b rest =>
      rw [outcome_exponent_cons, headed_whole_iff, readExponentDigits_whole_iff,
        readExponentDigits_whole_iff] at h
      split at h
      · next hsign =>
        obtain ⟨ds, hne, rfl⟩ := h
        obtain rfl | rfl := hsign
        · exact ⟨⟨false, .plus, ds, hne⟩, rfl⟩
        · exact ⟨⟨false, .minus, ds, hne⟩, rfl⟩
      · obtain ⟨ds, hne, heq⟩ := h
        exact ⟨⟨false, .absent, ds, hne⟩, heq⟩
  · rintro ⟨⟨capital, sign, ds, hne⟩, rfl⟩
    obtain ⟨d, rest, rfl⟩ := List.exists_cons_of_ne_nil hne
    obtain ⟨hplus, hminus, -⟩ := ofChar_digitChar_ne d
    cases sign <;> simp only [ExponentPart.signedText, Digits.text_cons, octets_cons] <;>
      rw [outcome_exponent_cons, headed_whole_iff]
    · rw [if_neg (by simp [hplus, hminus]), readExponentDigits_whole_iff]
      exact ⟨d :: rest, hne, rfl⟩
    · rw [if_pos (.inl rfl), readExponentDigits_whole_iff]
      exact ⟨d :: rest, hne, rfl⟩
    · rw [if_pos (.inr rfl), readExponentDigits_whole_iff]
      exact ⟨d :: rest, hne, rfl⟩

theorem readExponentPart_whole_iff (s : Bytes) :
    Part.outcome (readExponentPart atEnd s) = some (s, []) ↔
      ∃ e, s = octets (NumberLiteral.exponentText e) := by
  constructor
  · intro h
    cases s with
    | nil => exact ⟨none, rfl⟩
    | cons b rest =>
      rw [outcome_exponentPart_cons, headed_whole_iff, readExponent_whole_iff] at h
      split at h
      · next hmark =>
        obtain ⟨e, rfl⟩ := h
        obtain rfl | rfl := hmark
        · exact ⟨some { e with capital := false }, rfl⟩
        · exact ⟨some { e with capital := true }, rfl⟩
      · cases h
  · rintro ⟨none | e, rfl⟩
    · rfl
    · rw [NumberLiteral.exponentText_some, ExponentPart.text, octets_cons, outcome_exponentPart_cons,
        headed_whole_iff, if_pos, readExponent_whole_iff]
      · exact ⟨e, rfl⟩
      · cases e.capital
        · exact .inl rfl
        · exact .inr rfl

/-- Neither a point nor an exponent mark is a digit. -/
theorem startsWithoutDigit_behind (fraction : Option Digits) (e : Option ExponentPart) :
    StartsWithoutDigit (octets (NumberLiteral.fractionText fraction) ++
      octets (NumberLiteral.exponentText e)) := by
  intro b hb
  cases fraction with
  | some ds =>
    cases hb
    rfl
  | none =>
    cases e with
    | none => cases hb
    | some e =>
      cases hb
      cases e.capital <;> rfl

theorem readFractionPart_whole_iff (s : Bytes) :
    Part.outcome (readFractionPart atEnd s) = some (s, []) ↔
      ∃ fraction e, fraction ≠ some [] ∧ s = octets (NumberLiteral.fractionText fraction) ++
        octets (NumberLiteral.exponentText e) := by
  constructor
  · intro h
    cases s with
    | nil => exact ⟨none, none, by simp, rfl⟩
    | cons b rest =>
      rw [outcome_fractionPart_cons, headed_whole_iff, readExponentPart_whole_iff, outcome_fraction,
        afterDigits_whole_iff fun s => Part.outcome (readExponentPart atEnd s)] at h
      split at h
      · next hpoint =>
        obtain ⟨ds, t, hne, rfl, -, ht⟩ := h
        obtain ⟨e, rfl⟩ := (readExponentPart_whole_iff atEnd t).mp ht
        exact ⟨some ds, e, by simpa using hne, by rw [hpoint]; rfl⟩
      · obtain ⟨e, he⟩ := h
        exact ⟨none, e, by simp, he⟩
  · rintro ⟨fraction, e, hne, rfl⟩
    cases fraction with
    | some ds =>
      have hds : ds ≠ [] := by simpa using hne
      rw [NumberLiteral.fractionText_some, octets_cons, List.cons_append, outcome_fractionPart_cons,
        headed_whole_iff, if_pos (by decide), outcome_fraction,
        afterDigits_whole_iff fun s => Part.outcome (readExponentPart atEnd s)]
      exact ⟨ds, _, hds, rfl, startsWithoutDigit_behind none e,
        (readExponentPart_whole_iff atEnd _).mpr ⟨e, rfl⟩⟩
    | none =>
      cases e with
      | none => rfl
      | some e =>
        rw [NumberLiteral.fractionText_none, octets_nil, List.nil_append,
          NumberLiteral.exponentText_some, ExponentPart.text, octets_cons, outcome_fractionPart_cons,
          headed_whole_iff, if_neg, readExponentPart_whole_iff]
        · exact ⟨some e, rfl⟩
        · cases e.capital <;> decide

theorem readUnsigned_whole_iff (s : Bytes) :
    (readUnsigned atEnd s).outcome = some (s, []) ↔
      ∃ (whole : Digits) (fraction : Option Digits) (e : Option ExponentPart), whole ≠ [] ∧
        (whole.head? = some 0 → whole = [0]) ∧ fraction ≠ some [] ∧
        s = octets whole.text ++ (octets (NumberLiteral.fractionText fraction) ++
          octets (NumberLiteral.exponentText e)) := by
  constructor
  · intro h
    cases s with
    | nil => cases h
    | cons b rest =>
      rw [outcome_unsigned_cons, headed_whole_iff,
        afterDigits_whole_iff fun s => Part.outcome (readFractionPart atEnd s)] at h
      split at h
      · next hzero =>
        split at h
        · cases h
        · obtain ⟨fraction, e, hne, rfl⟩ := (readFractionPart_whole_iff atEnd rest).mp h
          exact ⟨[0], fraction, e, by simp, fun _ => rfl, hne, by rw [hzero]; rfl⟩
      · next hzero =>
        obtain ⟨ds, t, hds, heq, -, ht⟩ := h
        obtain ⟨fraction, e, hne, rfl⟩ := (readFractionPart_whole_iff atEnd t).mp ht
        refine ⟨ds, fraction, e, hds, fun hlead => absurd ?_ hzero, hne, heq⟩
        obtain ⟨d, more, rfl⟩ := List.exists_cons_of_ne_nil hds
        obtain rfl : d = 0 := by simpa using hlead
        exact (List.cons.inj heq).1
  · rintro ⟨whole, fraction, e, hwhole, hlead, hne, rfl⟩
    have hstart := startsWithoutDigit_behind fraction e
    have hpart := (readFractionPart_whole_iff atEnd _).mpr ⟨fraction, e, hne, rfl⟩
    obtain ⟨d, more, rfl⟩ := List.exists_cons_of_ne_nil hwhole
    obtain ⟨-, -, hzero⟩ := ofChar_digitChar_ne d
    rw [Digits.text_cons, octets_cons, List.cons_append, outcome_unsigned_cons, headed_whole_iff,
      afterDigits_whole_iff fun s => Part.outcome (readFractionPart atEnd s)]
    by_cases hd : d = 0
    · obtain ⟨-, rfl⟩ := List.cons.inj (hlead (by rw [hd]; rfl))
      rw [if_pos (hzero.mpr hd), if_neg]
      · exact hpart
      · rw [Digits.text, List.map_nil, octets_nil, List.nil_append, hstart.any_isDigit]
        exact Bool.false_ne_true
    · rw [if_neg (fun heq => hd (hzero.mp heq))]
      exact ⟨d :: more, _, hwhole, rfl, hstart, hpart⟩

theorem octets_unsignedText (l : NumberLiteral) :
    octets l.unsignedText = octets l.whole.text ++ (octets (NumberLiteral.fractionText l.fraction) ++
      octets (NumberLiteral.exponentText l.exponent)) := by
  rw [NumberLiteral.unsignedText, NumberLiteral.mantissaText, octets_append, octets_append,
    List.append_assoc]

/-- The reader takes the whole of a source as a number exactly if that is the text of a literal. -/
theorem readNumber_whole_iff (s : Bytes) :
    (readNumber atEnd s).outcome = some (s, []) ↔ ∃ l : NumberLiteral, s = octets l.text := by
  constructor
  · intro h
    cases s with
    | nil => cases h
    | cons b rest =>
      rw [outcome_number_cons, headed_whole_iff, readUnsigned_whole_iff, readUnsigned_whole_iff] at h
      split at h
      · next hminus =>
        obtain ⟨whole, fraction, e, hwhole, hlead, hne, rfl⟩ := h
        refine ⟨⟨true, whole, fraction, e, hwhole, hlead, hne⟩, ?_⟩
        rw [NumberLiteral.text, if_pos rfl, octets_cons, octets_unsignedText, hminus]
        rfl
      · obtain ⟨whole, fraction, e, hwhole, hlead, hne, heq⟩ := h
        refine ⟨⟨false, whole, fraction, e, hwhole, hlead, hne⟩, ?_⟩
        rw [NumberLiteral.text, if_neg Bool.false_ne_true, octets_unsignedText, heq]
  · rintro ⟨l, rfl⟩
    have hunsigned : (readUnsigned atEnd (octets l.unsignedText)).outcome =
        some (octets l.unsignedText, []) :=
      (readUnsigned_whole_iff atEnd _).mpr ⟨l.whole, l.fraction, l.exponent, l.whole_ne_nil, l.leading,
        l.fraction_ne_nil, octets_unsignedText l⟩
    cases hnegative : l.negative with
    | true =>
      rw [NumberLiteral.text, if_pos hnegative, octets_cons, outcome_number_cons, headed_whole_iff,
        if_pos (by decide)]
      exact hunsigned
    | false =>
      obtain ⟨d, ds, hwhole⟩ := List.exists_cons_of_ne_nil l.whole_ne_nil
      obtain ⟨-, hminus, -⟩ := ofChar_digitChar_ne d
      rw [NumberLiteral.text, hnegative, if_neg Bool.false_ne_true]
      rw [octets_unsignedText, hwhole, Digits.text_cons, octets_cons, List.cons_append] at hunsigned ⊢
      rw [outcome_number_cons, headed_whole_iff, if_neg hminus]
      exact hunsigned

end SampleTypes.Json
