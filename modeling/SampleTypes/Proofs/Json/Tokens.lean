import SampleTypes.Proofs.Json.Strings
import SampleTypes.Proofs.Json.Words

set_option autoImplicit false

/-! # Tokens that carry a value

A scalar, and the key of a member, each with the octets it is written in. `Scalar` and `Key` hold
whatever the strict reader accepts; that their octets are read back in any place where a token may
stand is proved here once for all of them. -/

namespace SampleTypes.Json

/-! ## First octets -/

/-- The octets that a value may begin with. -/
def Octet.startsValue (b : UInt8) : Bool :=
  isWord b || b == quote || b == openBracket || b == openBrace

theorem Octet.ne_of_startsValue {b c : UInt8} (hb : startsValue b = true)
    (hc : startsValue c = false) : b ≠ c := by
  rintro rfl
  rw [hb] at hc
  cases hc

theorem Octet.eq_of_isBlank {b : UInt8} (h : isBlank b = true) :
    b = space ∨ b = newline ∨ b = tab ∨ b = carriageReturn := by
  simpa [isBlank, or_assoc] using h

theorem Octet.not_startsValue_of_isBlank {b : UInt8} (h : isBlank b = true) :
    startsValue b = false := by
  rcases eq_of_isBlank h with rfl | rfl | rfl | rfl <;> decide

theorem Octet.not_blank_of_startsValue {b : UInt8} (h : startsValue b = true) :
    isBlank b = false := by
  cases hblank : isBlank b with
  | false => rfl
  | true =>
    rw [not_startsValue_of_isBlank hblank] at h
    cases h

theorem Octet.startsValue_of_isWord {b : UInt8} (h : isWord b = true) : startsValue b = true := by
  simp [startsValue, h]

/-- What follows the first octet `b` of a scalar: the rest of a string or of a word. -/
inductive ScalarShape (b : UInt8) (more : Bytes) : Prop where
  | text (hb : b = Octet.quote) (hmore : TextBody more)
  | word (hb : Octet.isWord b = true) (hmore : ∀ c ∈ more, Octet.isWord c = true)

theorem ScalarShape.startsValue {b : UInt8} {more : Bytes} (h : ScalarShape b more) :
    Octet.startsValue b = true := by
  cases h with
  | text hb hmore =>
    subst hb
    decide
  | word hb hmore => exact Octet.startsValue_of_isWord hb

/-- A scalar does not begin with a bracket. -/
theorem ScalarShape.ne_of_not_word {b c : UInt8} {more : Bytes} (h : ScalarShape b more)
    (hc : Octet.isWord c = false) (hquote : c ≠ Octet.quote) : b ≠ c := by
  rintro rfl
  cases h with
  | text hb hmore => exact hquote hb
  | word hb hmore =>
    rw [hb] at hc
    cases hc

/-! ## Scalars -/

theorem readKeyword_outcome {α : Type} (word : List Char) (value : α) (b : UInt8) (s : Bytes) :
    (readKeyword word value b s).outcome =
      (Part.outcome (expectWord word s)).map fun p => (value, p.2) := by
  unfold readKeyword
  cases expectWord word s <;> rfl

/-- A keyword behind its first letter. -/
theorem readKeyword_split {α : Type} {word : List Char} {value : α} {b : UInt8} {s rest : Bytes}
    {v : α} (hb : Octet.isWord b = true)
    (hword : (word.all fun c => Octet.isWord (Octet.ofChar c)) = true)
    (h : (readKeyword word value b s).outcome = some (v, rest)) :
    ∃ more, s = more ++ rest ∧ ScalarShape b more ∧
      ∀ r, Stops r → (readKeyword word value b (more ++ r)).outcome = some (v, r) := by
  rw [readKeyword_outcome] at h
  obtain ⟨⟨more, rest'⟩, hread, heq⟩ := Option.map_eq_some_iff.mp h
  obtain ⟨rfl, rfl⟩ := Prod.mk.inj heq
  have hkeyword := readsWord_expectWord (List.all_eq_true.mp hword)
  obtain ⟨rfl, hmore⟩ := hkeyword.split hread
  refine ⟨more, rfl, .word hb hmore, ?_⟩
  intro r hr
  rw [readKeyword_outcome]
  exact congrArg (Option.map _) (hkeyword.again hread hr)

theorem readScalar_number {b : UInt8} {s rest : Bytes} {v : Value}
    (hb : b = Octet.minus ∨ Octet.isDigit b = true)
    (h : (readScalar b s).outcome = some (v, rest)) :
    ∃ more, s = more ++ rest ∧ ScalarShape b more ∧
      ∀ r, Stops r → (readScalar b (more ++ r)).outcome = some (v, r) := by
  have hne : b ≠ Octet.ofChar 'n' ∧ b ≠ Octet.ofChar 't' ∧ b ≠ Octet.ofChar 'f' := by
    refine ⟨?_, ?_, ?_⟩ <;> rintro rfl <;> revert hb <;> decide
  have hword : Octet.isWord b = true := by
    rcases hb with rfl | hb
    · decide
    · exact Octet.isWord_of_isDigit hb
  have heq : ∀ s, (readScalar b s).outcome =
      (readNumber .endInValue (b :: s)).outcome.map fun p => (.number (keptLiteral p.1), p.2) := by
    intro s
    rw [readScalar, if_neg hne.1, if_neg hne.2.1, if_neg hne.2.2, if_pos hb]
    cases readNumber .endInValue (b :: s) <;> rfl
  rw [heq] at h
  obtain ⟨⟨text, rest'⟩, hread, hvalue⟩ := Option.map_eq_some_iff.mp h
  obtain ⟨rfl, rfl⟩ := Prod.mk.inj hvalue
  have hnumber := readsWord_number .endInValue
  obtain ⟨hsplit, htext⟩ := hnumber.split hread
  cases text with
  | nil =>
    -- A number that takes nothing off would leave the source as it is.
    obtain ⟨p, -, -, hrest⟩ := Read.outcome_eq_some.mp hread
    have hshorter := p.shorter
    rw [hrest, hsplit, List.nil_append] at hshorter
    exact absurd hshorter (Nat.lt_irrefl _)
  | cons c more =>
    obtain ⟨rfl, rfl⟩ := List.cons.inj hsplit
    refine ⟨more, rfl, .word hword (List.forall_mem_cons.mp htext).2, ?_⟩
    intro r hr
    rw [heq]
    exact congrArg (Option.map _) (hnumber.again hread hr)

theorem readScalar_text {s rest : Bytes} {v : Value}
    (h : (readScalar Octet.quote s).outcome = some (v, rest)) :
    ∃ more, s = more ++ rest ∧ ScalarShape Octet.quote more ∧
      ∀ r, Stops r → (readScalar Octet.quote (more ++ r)).outcome = some (v, r) := by
  have heq : ∀ s, (readScalar Octet.quote s).outcome =
      (readText s).outcome.map fun p => (.string p.1, p.2) := by
    intro s
    rw [readScalar, if_neg (by decide), if_neg (by decide), if_neg (by decide),
      if_neg (by decide), if_pos rfl]
    cases readText s <;> rfl
  rw [heq] at h
  obtain ⟨⟨text, rest'⟩, hread, hvalue⟩ := Option.map_eq_some_iff.mp h
  obtain ⟨rfl, rfl⟩ := Prod.mk.inj hvalue
  obtain ⟨more, rfl, hbody, hagain⟩ := readsText_text s text rest' hread
  refine ⟨more, rfl, .text rfl hbody, ?_⟩
  intro r _
  rw [heq]
  exact congrArg (Option.map _) (hagain r)

/-- A scalar is a string or a word, and it is read the same way wherever it stops. -/
theorem readScalar_split {b : UInt8} {s rest : Bytes} {v : Value}
    (h : (readScalar b s).outcome = some (v, rest)) :
    ∃ more, s = more ++ rest ∧ ScalarShape b more ∧
      ∀ r, Stops r → (readScalar b (more ++ r)).outcome = some (v, r) := by
  -- The first octet decides, in the order in which the reader asks.
  by_cases hn : b = Octet.ofChar 'n'
  · have heq : ∀ s, readScalar b s = readKeyword ['u', 'l', 'l'] .null b s := by
      intro s
      rw [readScalar, if_pos hn]
    simp only [heq] at h ⊢
    exact readKeyword_split (by subst hn; decide) (by decide) h
  · by_cases ht : b = Octet.ofChar 't'
    · have heq : ∀ s, readScalar b s = readKeyword ['r', 'u', 'e'] (.bool true) b s := by
        intro s
        rw [readScalar, if_neg hn, if_pos ht]
      simp only [heq] at h ⊢
      exact readKeyword_split (by subst ht; decide) (by decide) h
    · by_cases hf : b = Octet.ofChar 'f'
      · have heq : ∀ s, readScalar b s = readKeyword ['a', 'l', 's', 'e'] (.bool false) b s := by
          intro s
          rw [readScalar, if_neg hn, if_neg ht, if_pos hf]
        simp only [heq] at h ⊢
        exact readKeyword_split (by subst hf; decide) (by decide) h
      · by_cases hnumber : b = Octet.minus ∨ Octet.isDigit b = true
        · exact readScalar_number hnumber h
        · by_cases hquote : b = Octet.quote
          · subst hquote
            exact readScalar_text h
          · rw [readScalar, if_neg hn, if_neg ht, if_neg hf, if_neg hnumber,
              if_neg hquote] at h
            cases h

/-- A scalar as it is written: a string, a number or a keyword that the strict reader accepts up
    to its last octet. -/
structure Scalar where
  first : UInt8
  more : Bytes
  value : Value
  reads : (readScalar first more).outcome = some (value, [])

namespace Scalar

theorem shape (t : Scalar) : ScalarShape t.first t.more := by
  obtain ⟨more, hmore, hshape, -⟩ := readScalar_split t.reads
  rw [hmore, List.append_nil]
  exact hshape

/-- A scalar is read wherever it stops. -/
theorem read_append (t : Scalar) {r : Bytes} (hr : Stops r) :
    (readScalar t.first (t.more ++ r)).outcome = some (t.value, r) := by
  obtain ⟨more, hmore, -, hagain⟩ := readScalar_split t.reads
  rw [hmore, List.append_nil]
  exact hagain r hr

theorem exists_of_read {b : UInt8} {s rest : Bytes} {v : Value}
    (h : (readScalar b s).outcome = some (v, rest)) :
    ∃ t : Scalar, t.first = b ∧ t.value = v ∧ s = t.more ++ rest := by
  obtain ⟨more, rfl, -, hagain⟩ := readScalar_split h
  have hreads := hagain [] stops_nil
  rw [List.append_nil] at hreads
  exact ⟨⟨b, more, v, hreads⟩, rfl, rfl, rfl⟩

end Scalar

/-! ## Keys -/

/-- A key as it is written behind its opening quote. -/
structure Key where
  body : Bytes
  name : String
  reads : (readText body).outcome = some (name, [])

namespace Key

theorem textBody (k : Key) : TextBody k.body := by
  obtain ⟨body, hbody, hshape, -⟩ := readsText_text _ _ _ k.reads
  rw [hbody, List.append_nil]
  exact hshape

theorem read_append (k : Key) (r : Bytes) : (readText (k.body ++ r)).outcome = some (k.name, r) := by
  obtain ⟨body, hbody, -, hagain⟩ := readsText_text _ _ _ k.reads
  rw [hbody, List.append_nil]
  exact hagain r

theorem exists_of_read {s rest : Bytes} {name : String}
    (h : (readText s).outcome = some (name, rest)) :
    ∃ k : Key, k.name = name ∧ s = k.body ++ rest := by
  obtain ⟨body, rfl, -, hagain⟩ := readsText_text _ _ _ h
  have hreads := hagain []
  dsimp only at hreads
  rw [List.append_nil] at hreads
  exact ⟨⟨body, name, hreads⟩, rfl, rfl⟩

end Key

end SampleTypes.Json
