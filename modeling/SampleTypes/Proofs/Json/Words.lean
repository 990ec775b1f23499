import SampleTypes.Proofs.Json.Reading

set_option autoImplicit false

/-! # Numbers and keywords

The tokens that are neither punctuation nor strings are words: runs of letters, digits, signs and
points. A word is read the same way whatever stands behind it, as long as the word stops there
(`ReadsWord`). -/

namespace SampleTypes.Json

/-- The octets that numbers and keywords are made of. -/
def Octet.isWord (b : UInt8) : Bool :=
  isDigit b || b == minus || b == plus || b == point || (0x41 ≤ b && b ≤ 0x5A)
    || (0x61 ≤ b && b ≤ 0x7A)

theorem Octet.isWord_of_isDigit {b : UInt8} (h : isDigit b = true) : isWord b = true := by
  simp [isWord, h]

/-- No word goes on at the front of `s`. -/
def Stops (s : Bytes) : Prop := ∀ b, s.head? = some b → Octet.isWord b = false

theorem stops_nil : Stops [] := by
  intro b h
  cases h

theorem stops_cons {b : UInt8} (h : Octet.isWord b = false) (s : Bytes) : Stops (b :: s) := by
  intro c hc
  cases hc
  exact h

/-! ## Reading a word -/

/-- `f` takes word octets off the front of a source, and takes the same octets off every source
    in which the word stops behind them. -/
structure ReadsWord (f : Bytes → Option (Bytes × Bytes)) : Prop where
  split : ∀ {s text rest}, f s = some (text, rest) →
    s = text ++ rest ∧ ∀ b ∈ text, Octet.isWord b = true
  again : ∀ {s text rest r}, f s = some (text, rest) → Stops r → f (text ++ r) = some (text, r)

namespace ReadsWord

variable {f g h : Bytes → Option (Bytes × Bytes)}

theorem fails : ReadsWord fun _ => none where
  split := by rintro _ _ _ ⟨⟩
  again := by rintro _ _ _ _ ⟨⟩

theorem empty : ReadsWord fun s => some ([], s) where
  split := by
    rintro s text rest hs
    cases hs
    exact ⟨rfl, by simp⟩
  again := by
    rintro s text rest r hs -
    cases hs
    rfl

/-- An octet that decides how to go on. -/
theorem headed (starts : UInt8 → Prop) [DecidablePred starts] (hf : ReadsWord f)
    (hg : ReadsWord g) (hword : ∀ b, starts b → Octet.isWord b = true) (hnil : h [] = g [])
    (hcons : ∀ b rest, h (b :: rest) =
      if starts b then (f rest).map fun p => (b :: p.1, p.2) else g (b :: rest)) :
    ReadsWord h := by
  have hcases : ∀ {s text rest}, h s = some (text, rest) →
      (∃ b t more, s = b :: more ∧ starts b ∧ text = b :: t ∧ f more = some (t, rest)) ∨
      ((∀ b more, s = b :: more → ¬ starts b) ∧ g s = some (text, rest)) := by
    intro s text rest hs
    cases s with
    | nil => exact Or.inr ⟨by rintro b more ⟨⟩, hnil ▸ hs⟩
    | cons b more =>
      rw [hcons] at hs
      split at hs
      · next hb =>
        obtain ⟨⟨t, rest'⟩, hread, heq⟩ := Option.map_eq_some_iff.mp hs
        cases heq
        exact Or.inl ⟨b, t, more, rfl, hb, rfl, hread⟩
      · next hb =>
        refine Or.inr ⟨?_, hs⟩
        rintro c more' heq
        cases heq
        exact hb
  constructor
  · intro s text rest hs
    rcases hcases hs with ⟨b, t, more, rfl, hb, rfl, hread⟩ | ⟨-, hread⟩
    · obtain ⟨rfl, ht⟩ := hf.split hread
      exact ⟨rfl, List.forall_mem_cons.mpr ⟨hword b hb, ht⟩⟩
    · exact hg.split hread
  · intro s text rest r hs hr
    rcases hcases hs with ⟨b, t, more, rfl, hb, rfl, hread⟩ | ⟨hstarts, hread⟩
    · rw [List.cons_append, hcons, if_pos hb, hf.again hread hr]
      rfl
    · -- The head of `text ++ r` does not start what `f` reads: it is the head of `s`, or no
      -- octet of a word at all.
      rw [← hg.again hread hr]
      obtain ⟨rfl, -⟩ := hg.split hread
      cases text with
      | cons b t => rw [List.cons_append, hcons, if_neg (hstarts b _ rfl)]
      | nil =>
        cases r with
        | nil => exact hnil
        | cons b more =>
          have hb : ¬ starts b := by
            intro hb
            have := hr b rfl
            rw [hword b hb] at this
            cases this
          rw [List.nil_append, hcons, if_neg hb]

end ReadsWord

/-! ## Digits -/

theorem takeDigits_append {digits r : Bytes} (hdigits : ∀ b ∈ digits, Octet.isDigit b = true)
    (hr : ∀ b, r.head? = some b → Octet.isDigit b = false) :
    takeDigits (digits ++ r) = digits ∧ dropDigits (digits ++ r) = r := by
  have hr' : r.takeWhile Octet.isDigit = [] ∧ r.dropWhile Octet.isDigit = r := by
    cases r with
    | nil => exact ⟨rfl, rfl⟩
    | cons b more => simp [hr b rfl]
  rw [takeDigits, dropDigits, List.takeWhile_append_of_pos hdigits,
    List.dropWhile_append_of_pos hdigits, hr'.1, hr'.2, List.append_nil]
  exact ⟨rfl, rfl⟩

theorem takeDigits_cons {b : UInt8} (h : Octet.isDigit b = true) (s : Bytes) :
    takeDigits (b :: s) = b :: takeDigits s :=
  List.takeWhile_cons_of_pos h

theorem dropDigits_cons {b : UInt8} (h : Octet.isDigit b = true) (s : Bytes) :
    dropDigits (b :: s) = dropDigits s :=
  List.dropWhile_cons_of_pos h

theorem takeDigits_cons_of_not_digit {b : UInt8} (h : ¬ Octet.isDigit b = true) (s : Bytes) :
    takeDigits (b :: s) = [] :=
  List.takeWhile_cons_of_neg h

theorem isDigit_of_mem_takeDigits {s : Bytes} {b : UInt8} (h : b ∈ takeDigits s) :
    Octet.isDigit b = true :=
  List.mem_takeWhile_imp h

theorem head?_dropDigits {s : Bytes} {b : UInt8} (h : (dropDigits s).head? = some b) :
    Octet.isDigit b = false := by
  have hhead := List.head?_dropWhile_not Octet.isDigit s
  rw [dropDigits] at h
  simpa [h] using hhead

theorem Stops.not_digit {r : Bytes} (hr : Stops r) {b : UInt8} (h : r.head? = some b) :
    Octet.isDigit b = false := by
  have hb := hr b h
  cases hdigit : Octet.isDigit b with
  | false => rfl
  | true =>
    rw [Octet.isWord_of_isDigit hdigit] at hb
    cases hb

/-- Digits, as many as there are, and what `f` takes off behind them. -/
theorem ReadsWord.afterDigits {f : Bytes → Option (Bytes × Bytes)} (hf : ReadsWord f)
    (accept : Bytes → Bool) :
    ReadsWord fun s => if accept (takeDigits s) then
      (f (dropDigits s)).map fun p => (takeDigits s ++ p.1, p.2) else none := by
  have hcases : ∀ {s text rest}, (if accept (takeDigits s) then
      (f (dropDigits s)).map fun p => (takeDigits s ++ p.1, p.2) else none)
        = some (text, rest) →
      accept (takeDigits s) = true ∧ ∃ t, text = takeDigits s ++ t ∧
        f (dropDigits s) = some (t, rest) := by
    intro s text rest hs
    split at hs
    · next ha =>
      obtain ⟨⟨t, rest'⟩, hread, heq⟩ := Option.map_eq_some_iff.mp hs
      cases heq
      exact ⟨ha, t, rfl, hread⟩
    · cases hs
  constructor
  · intro s text rest hs
    obtain ⟨-, t, rfl, hread⟩ := hcases hs
    obtain ⟨hsplit, ht⟩ := hf.split hread
    constructor
    · rw [List.append_assoc, ← hsplit, takeDigits_append_dropDigits]
    · intro b hb
      rcases List.mem_append.mp hb with hb | hb
      · exact Octet.isWord_of_isDigit (isDigit_of_mem_takeDigits hb)
      · exact ht b hb
  · intro s text rest r hs hr
    obtain ⟨ha, t, rfl, hread⟩ := hcases hs
    -- The digits end at the same place: what `f` takes off begins with no digit.
    have hhead : ∀ b, (t ++ r).head? = some b → Octet.isDigit b = false := by
      intro b hb
      cases t with
      | nil => exact hr.not_digit hb
      | cons c t =>
        cases hb
        apply head?_dropDigits (s := s)
        rw [(hf.split hread).1]
        rfl
    obtain ⟨htake, hdrop⟩ := takeDigits_append (fun b => isDigit_of_mem_takeDigits) hhead
    rw [List.append_assoc, htake, hdrop, if_pos ha, hf.again hread hr]
    rfl

/-! ## Numbers -/

/-- What a part of a number takes off, and what is left; none if it is malformed. -/
def Part.outcome {s : Bytes} : Except Fault (Part s) → Option (Bytes × Bytes)
  | .ok p => some (p.text, p.rest)
  | .error _ => none

variable (atEnd : Complaint)

/-! What each reader of a part makes of an octet in front, in terms of the readers behind it. -/

theorem outcome_exponentDigits (s : Bytes) :
    Part.outcome (readExponentDigits atEnd s) =
      if (!(takeDigits s).isEmpty) = true then
        (some ([], dropDigits s)).map fun p => (takeDigits s ++ p.1, p.2)
      else none := by
  cases s with
  | nil => rfl
  | cons b rest =>
    unfold readExponentDigits
    by_cases hb : Octet.isDigit b = true
    · simp [hb, takeDigits_cons, dropDigits_cons, Part.outcome, Part.digits, Part.push]
    · simp [hb, takeDigits_cons_of_not_digit hb, Part.outcome]

theorem outcome_exponent_cons (b : UInt8) (rest : Bytes) :
    Part.outcome (readExponent atEnd (b :: rest)) =
      if b = Octet.plus ∨ b = Octet.minus then
        (Part.outcome (readExponentDigits atEnd rest)).map fun p => (b :: p.1, p.2)
      else Part.outcome (readExponentDigits atEnd (b :: rest)) := by
  dsimp only [readExponent]
  by_cases hb : b = Octet.plus ∨ b = Octet.minus
  · rw [if_pos hb, if_pos hb]
    cases readExponentDigits atEnd rest <;> rfl
  · rw [if_neg hb, if_neg hb]

theorem outcome_exponentPart_cons (b : UInt8) (rest : Bytes) :
    Part.outcome (readExponentPart atEnd (b :: rest)) =
      if b = Octet.ofChar 'e' ∨ b = Octet.ofChar 'E' then
        (Part.outcome (readExponent atEnd rest)).map fun p => (b :: p.1, p.2)
      else some ([], b :: rest) := by
  dsimp only [readExponentPart]
  by_cases hb : b = Octet.ofChar 'e' ∨ b = Octet.ofChar 'E'
  · rw [if_pos hb, if_pos hb]
    cases readExponent atEnd rest <;> rfl
  · rw [if_neg hb, if_neg hb]
    rfl

theorem outcome_fraction (s : Bytes) :
    Part.outcome (readFraction atEnd s) =
      if (!(takeDigits s).isEmpty) = true then
        (Part.outcome (readExponentPart atEnd (dropDigits s))).map fun p =>
          (takeDigits s ++ p.1, p.2)
      else none := by
  unfold readFraction
  dsimp only [Part.digits]
  cases hempty : (takeDigits s).isEmpty with
  | true => rfl
  | false =>
    simp only [Bool.false_eq_true, if_false, Bool.not_false, if_true]
    cases readExponentPart atEnd (dropDigits s) <;> rfl

theorem outcome_fractionPart_cons (b : UInt8) (rest : Bytes) :
    Part.outcome (readFractionPart atEnd (b :: rest)) =
      if b = Octet.point then
        (Part.outcome (readFraction atEnd rest)).map fun p => (b :: p.1, p.2)
      else Part.outcome (readExponentPart atEnd (b :: rest)) := by
  dsimp only [readFractionPart]
  by_cases hb : b = Octet.point
  · rw [if_pos hb, if_pos hb]
    cases readFraction atEnd rest <;> rfl
  · rw [if_neg hb, if_neg hb]

/-- Behind a zero there are no more digits, and otherwise there is at least one. -/
theorem outcome_unsigned_cons (b : UInt8) (rest : Bytes) :
    (readUnsigned atEnd (b :: rest)).outcome =
      if b = Octet.zero then
        (if rest.head?.any Octet.isDigit then none
          else Part.outcome (readFractionPart atEnd rest)).map fun p => (b :: p.1, p.2)
      else if (!(takeDigits (b :: rest)).isEmpty) = true then
        (Part.outcome (readFractionPart atEnd (dropDigits (b :: rest)))).map fun p =>
          (takeDigits (b :: rest) ++ p.1, p.2)
      else none := by
  dsimp only [readUnsigned, Part.digits]
  by_cases hzero : b = Octet.zero
  · rw [if_pos hzero, if_pos hzero]
    by_cases hhead : rest.head?.any Octet.isDigit = true
    · rw [if_pos hhead, if_pos hhead]
      rfl
    · rw [if_neg hhead, if_neg hhead]
      cases readFractionPart atEnd rest <;> rfl
  · rw [if_neg hzero, if_neg hzero]
    by_cases hb : Octet.isDigit b = true
    · rw [if_pos hb, takeDigits_cons hb, dropDigits_cons hb]
      cases readFractionPart atEnd (dropDigits rest) <;> rfl
    · rw [if_neg hb, takeDigits_cons_of_not_digit hb]
      rfl

theorem outcome_number_cons (b : UInt8) (rest : Bytes) :
    (readNumber atEnd (b :: rest)).outcome =
      if b = Octet.minus then
        (readUnsigned atEnd rest).outcome.map fun p => (b :: p.1, p.2)
      else (readUnsigned atEnd (b :: rest)).outcome := by
  dsimp only [readNumber]
  by_cases hb : b = Octet.minus
  · rw [if_pos hb, if_pos hb]
    cases readUnsigned atEnd rest <;> rfl
  · rw [if_neg hb, if_neg hb]

theorem readsWord_exponentDigits :
    ReadsWord fun s => Part.outcome (readExponentDigits atEnd s) := by
  rw [funext (outcome_exponentDigits atEnd)]
  exact .afterDigits .empty fun digits => !digits.isEmpty

theorem readsWord_exponent : ReadsWord fun s => Part.outcome (readExponent atEnd s) := by
  have hdigits := readsWord_exponentDigits atEnd
  refine .headed (fun b => b = Octet.plus ∨ b = Octet.minus) hdigits hdigits ?_ rfl
    (outcome_exponent_cons atEnd)
  rintro b (rfl | rfl) <;> decide

theorem readsWord_exponentPart :
    ReadsWord fun s => Part.outcome (readExponentPart atEnd s) := by
  refine .headed (fun b => b = Octet.ofChar 'e' ∨ b = Octet.ofChar 'E')
    (readsWord_exponent atEnd) .empty ?_ rfl (outcome_exponentPart_cons atEnd)
  rintro b (rfl | rfl) <;> decide

theorem readsWord_fraction : ReadsWord fun s => Part.outcome (readFraction atEnd s) := by
  rw [funext (outcome_fraction atEnd)]
  exact (readsWord_exponentPart atEnd).afterDigits fun digits => !digits.isEmpty

theorem readsWord_fractionPart :
    ReadsWord fun s => Part.outcome (readFractionPart atEnd s) := by
  refine .headed (fun b => b = Octet.point) (readsWord_fraction atEnd)
    (readsWord_exponentPart atEnd) ?_ rfl (outcome_fractionPart_cons atEnd)
  rintro b rfl
  decide

/-- Behind a zero no digit may stand. -/
theorem ReadsWord.notDigit {f : Bytes → Option (Bytes × Bytes)} (hf : ReadsWord f) :
    ReadsWord fun s => if s.head?.any Octet.isDigit then none else f s := by
  have hcases : ∀ {s text rest}, (if s.head?.any Octet.isDigit then none else f s)
      = some (text, rest) → s.head?.any Octet.isDigit = false ∧ f s = some (text, rest) := by
    intro s text rest hs
    split at hs
    · cases hs
    · next hhead => exact ⟨by simpa using hhead, hs⟩
  constructor
  · intro s text rest hs
    exact hf.split (hcases hs).2
  · intro s text rest r hs hr
    obtain ⟨hhead, hread⟩ := hcases hs
    have hsame : (text ++ r).head?.any Octet.isDigit = false := by
      obtain ⟨rfl, -⟩ := hf.split hread
      cases text with
      | cons b t => exact hhead
      | nil =>
        cases r with
        | nil => rfl
        | cons b more => exact hr.not_digit rfl
    rw [hsame]
    exact hf.again hread hr

theorem readsWord_unsigned : ReadsWord fun s => (readUnsigned atEnd s).outcome := by
  have hpart := readsWord_fractionPart atEnd
  refine .headed (fun b => b = Octet.zero) hpart.notDigit
    (hpart.afterDigits fun digits => !digits.isEmpty) ?_ rfl (outcome_unsigned_cons atEnd)
  rintro b rfl
  decide

theorem readsWord_number : ReadsWord fun s => (readNumber atEnd s).outcome := by
  have hunsigned := readsWord_unsigned atEnd
  refine .headed (fun b => b = Octet.minus) hunsigned hunsigned ?_ rfl (outcome_number_cons atEnd)
  rintro b rfl
  decide

/-! ## Keywords -/

theorem readsWord_expectWord {word : List Char}
    (hword : ∀ c ∈ word, Octet.isWord (Octet.ofChar c) = true) :
    ReadsWord fun s => Part.outcome (expectWord word s) := by
  induction word with
  | nil =>
    have heq : (fun s => Part.outcome (expectWord [] s)) = fun s => some ([], s) := by
      funext s
      cases s <;> rfl
    rw [heq]
    exact .empty
  | cons c word ih =>
    rw [List.forall_mem_cons] at hword
    refine .headed (fun b => b = Octet.ofChar c) (ih hword.2) .fails ?_ rfl ?_
    · rintro b rfl
      exact hword.1
    · intro b rest
      dsimp only [expectWord]
      by_cases hb : b = Octet.ofChar c
      · rw [if_pos hb, if_pos hb]
        cases expectWord word rest <;> rfl
      · rw [if_neg hb, if_neg hb]
        rfl

end SampleTypes.Json
