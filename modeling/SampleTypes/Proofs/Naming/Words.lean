import SampleTypes.Naming.Words
import SampleTypes.Proofs.Unicode.CaseMapping

set_option autoImplicit false

/-! # Words and what is made of them

The words of a text hold its alphanumeric characters, all of them and in their order. Joining them
in another case makes alphanumeric characters again, apart from underscores, and what stands in
front comes from the first alphanumeric character of the text, so that a digit in front is that
character itself. -/

namespace SampleTypes.Naming

open SampleTypes.Unicode

theorem isAlphanumeric_underscore : isAlphanumeric '_' = false := by
  decide +kernel

/-! ## Cutting -/

theorem flatten_glue (c : Char) (ws : List (List Char)) : (glue c ws).flatten = c :: ws.flatten := by
  cases ws <;> rfl

mutual

theorem flatten_wordsAfter (before : Char) :
    ∀ s : List Char, (wordsAfter before s).flatten = s.filter isAlphanumeric
  | [] => rfl
  | c :: rest => by
    rw [wordsAfter, List.filter_cons]
    cases hc : isAlphanumeric c with
    | false => exact flatten_wordsOf rest
    | true =>
      rw [Bool.not_true, if_neg Bool.false_ne_true, if_pos rfl]
      have hglue : (glue c (wordsAfter c rest)).flatten = c :: rest.filter isAlphanumeric := by
        rw [flatten_glue, flatten_wordsAfter c rest]
      split
      · exact hglue
      · exact hglue

theorem flatten_wordsOf :
    ∀ s : List Char, (wordsAfter.wordsOf s).flatten = s.filter isAlphanumeric
  | [] => rfl
  | c :: rest => by
    rw [wordsAfter.wordsOf, List.filter_cons]
    split
    · rw [flatten_glue, flatten_wordsAfter c rest]
    · exact flatten_wordsOf rest

end

/-- The words of a text hold its alphanumeric characters, in their order. -/
theorem flatten_words (s : List Char) : (words s).flatten = s.filter isAlphanumeric :=
  flatten_wordsOf s

theorem ne_nil_of_mem_glue {c : Char} {ws : List (List Char)} (h : ∀ w ∈ ws.tail, w ≠ []) :
    ∀ w ∈ glue c ws, w ≠ [] := by
  cases ws with
  | nil => simp [glue]
  | cons v rest => exact List.forall_mem_cons.2 ⟨List.cons_ne_nil c v, h⟩

mutual

/-- Only the first word of a text that continues one may be empty. -/
theorem ne_nil_of_mem_tail_wordsAfter (before : Char) :
    ∀ s : List Char, ∀ w ∈ (wordsAfter before s).tail, w ≠ []
  | [] => fun w hw => by cases hw
  | c :: rest => by
    have hglue := ne_nil_of_mem_glue (c := c) (ne_nil_of_mem_tail_wordsAfter c rest)
    rw [wordsAfter]
    split
    · exact ne_nil_of_mem_wordsOf rest
    · split
      · exact hglue
      · exact fun w hw => hglue w (List.mem_of_mem_tail hw)

theorem ne_nil_of_mem_wordsOf : ∀ s : List Char, ∀ w ∈ wordsAfter.wordsOf s, w ≠ []
  | [] => fun w hw => by cases hw
  | c :: rest => by
    rw [wordsAfter.wordsOf]
    split
    · exact ne_nil_of_mem_glue (ne_nil_of_mem_tail_wordsAfter c rest)
    · exact ne_nil_of_mem_wordsOf rest

end

theorem ne_nil_of_mem_words {s w : List Char} (h : w ∈ words s) : w ≠ [] :=
  ne_nil_of_mem_wordsOf s w h

theorem mem_filter_of_mem_words {s w : List Char} {c : Char} (hw : w ∈ words s) (hc : c ∈ w) :
    c ∈ s.filter isAlphanumeric := by
  rw [← flatten_words]
  exact List.mem_flatten.2 ⟨w, hw, hc⟩

theorem mem_of_mem_words {s w : List Char} {c : Char} (hw : w ∈ words s) (hc : c ∈ w) : c ∈ s :=
  List.mem_of_mem_filter (mem_filter_of_mem_words hw hc)

theorem isAlphanumeric_of_mem_words {s w : List Char} {c : Char} (hw : w ∈ words s) (hc : c ∈ w) :
    isAlphanumeric c = true :=
  (List.mem_filter.1 (mem_filter_of_mem_words hw hc)).2

theorem wordsAfter_ne_nil (before : Char) (s : List Char) : wordsAfter before s ≠ [] := by
  have hglue : ∀ (c : Char) (ws : List (List Char)), glue c ws ≠ [] := by
    intro c ws
    cases ws <;> exact List.cons_ne_nil _ _
  cases s with
  | nil => exact List.cons_ne_nil _ _
  | cons c rest =>
    rw [wordsAfter]
    split
    · exact List.cons_ne_nil _ _
    · split
      · exact List.cons_ne_nil _ _
      · exact hglue c _

/-- The first word begins with the first alphanumeric character of the text. -/
theorem find?_eq_of_words {s w : List Char} {c : Char} {ws : List (List Char)}
    (h : words s = (c :: w) :: ws) : s.find? isAlphanumeric = some c := by
  rw [← List.head?_filter, ← flatten_words, h]
  rfl

theorem find?_eq_none_of_words {s : List Char} (h : words s = []) :
    s.find? isAlphanumeric = none := by
  rw [← List.head?_filter, ← flatten_words, h]
  rfl

/-! ## Where words end -/

theorem glue_append (c : Char) {ws : List (List Char)} (hws : ws ≠ []) (vs : List (List Char)) :
    glue c (ws ++ vs) = glue c ws ++ vs := by
  cases ws with
  | nil => exact absurd rfl hws
  | cons w rest => rfl

/-- A separator behind a capital is as good as nothing behind it. -/
theorem startsWord_append {sep : Char} (hsmall : isLowercase sep = false) (before c : Char)
    (a b : List Char) :
    startsWord before c (a ++ sep :: b).head? = startsWord before c a.head? := by
  cases a with
  | nil => simp [startsWord, hsmall]
  | cons d rest => rfl

mutual

theorem wordsAfter_append {sep : Char} (hsep : isAlphanumeric sep = false)
    (hsmall : isLowercase sep = false) (before : Char) (b : List Char) :
    ∀ a : List Char, wordsAfter before (a ++ sep :: b) = wordsAfter before a ++ words b
  | [] => by simp [wordsAfter, hsep, words]
  | c :: rest => by
    have hglue : glue c (wordsAfter c (rest ++ sep :: b)) = glue c (wordsAfter c rest) ++ words b := by
      rw [wordsAfter_append hsep hsmall c b rest, glue_append c (wordsAfter_ne_nil c rest)]
    rw [List.cons_append, wordsAfter, wordsAfter, startsWord_append hsmall, hglue,
      wordsOf_append hsep hsmall b rest]
    split
    · rfl
    · split <;> rfl

theorem wordsOf_append {sep : Char} (hsep : isAlphanumeric sep = false)
    (hsmall : isLowercase sep = false) (b : List Char) :
    ∀ a : List Char, wordsAfter.wordsOf (a ++ sep :: b) = wordsAfter.wordsOf a ++ words b
  | [] => by simp [wordsAfter.wordsOf, hsep, words]
  | c :: rest => by
    rw [List.cons_append, wordsAfter.wordsOf, wordsAfter.wordsOf]
    split
    · rw [wordsAfter_append hsep hsmall c b rest, glue_append c (wordsAfter_ne_nil c rest)]
    · exact wordsOf_append hsep hsmall b rest

end

section Separator

variable {sep : Char} (hsep : isAlphanumeric sep = false) (hsmall : isLowercase sep = false)

include hsep hsmall

/-- The words of a text with a separator are those in front of it and those behind it. -/
theorem words_append (a b : List Char) : words (a ++ sep :: b) = words a ++ words b :=
  wordsOf_append hsep hsmall b a

theorem words_intercalate (ls : List (List Char)) :
    words ([sep].intercalate ls) = ls.flatMap words := by
  induction ls with
  | nil => rfl
  | cons l rest ih =>
    cases rest with
    | nil => simp [List.intercalate_singleton]
    | cons l' rest =>
      rw [List.intercalate_cons_cons, List.append_assoc, List.singleton_append,
        words_append hsep hsmall, ih]
      rfl

end Separator

/-- Whether a word starts inside a text of alphanumeric characters. -/
def HasBoundary (s : List Char) : Prop :=
  ∃ front before c back, s = front ++ before :: c :: back ∧
    startsWord before c back.head? = true

theorem not_hasBoundary_singleton (c : Char) : ¬ HasBoundary [c] := by
  rintro ⟨front, before, d, back, heq, -⟩
  have hlength := congrArg List.length heq
  simp only [List.length_append, List.length_cons, List.length_nil] at hlength
  omega

theorem hasBoundary_cons_cons (before c : Char) (rest : List Char) :
    HasBoundary (before :: c :: rest) ↔
      startsWord before c rest.head? = true ∨ HasBoundary (c :: rest) := by
  constructor
  · rintro ⟨front, b, d, back, heq, hstart⟩
    cases front with
    | nil =>
      obtain ⟨rfl, rfl, rfl⟩ : before = b ∧ c = d ∧ rest = back := by simpa using heq
      exact .inl hstart
    | cons e front =>
      exact .inr ⟨front, b, d, back, (List.cons.inj heq).2, hstart⟩
  · rintro (hstart | ⟨front, b, d, back, heq, hstart⟩)
    · exact ⟨[], before, c, rest, rfl, hstart⟩
    · exact ⟨before :: front, b, d, back, congrArg (before :: ·) heq, hstart⟩

theorem glue_eq_singleton_iff (c : Char) (s : List Char) {ws : List (List Char)} (hws : ws ≠ []) :
    glue c ws = [c :: s] ↔ ws = [s] := by
  cases ws with
  | nil => exact absurd rfl hws
  | cons w rest => simp [glue]

theorem wordsAfter_eq_singleton_iff (before : Char) {s : List Char}
    (hs : ∀ c ∈ s, isAlphanumeric c = true) :
    wordsAfter before s = [s] ↔ ¬ HasBoundary (before :: s) := by
  induction s generalizing before with
  | nil => simp [wordsAfter, not_hasBoundary_singleton]
  | cons c rest ih =>
    obtain ⟨hc, hrest⟩ := List.forall_mem_cons.1 hs
    rw [wordsAfter, hc, Bool.not_true, if_neg Bool.false_ne_true, hasBoundary_cons_cons, not_or,
      ← ih c hrest]
    split
    · next hstart => simp [hstart]
    · next hstart => simp [hstart, glue_eq_singleton_iff c rest (wordsAfter_ne_nil c rest)]

/-- A text of alphanumeric characters is one word if and only if no word starts inside it. -/
theorem words_eq_singleton_iff {s : List Char} (hs : ∀ c ∈ s, isAlphanumeric c = true)
    (hne : s ≠ []) : words s = [s] ↔ ¬ HasBoundary s := by
  cases s with
  | nil => exact absurd rfl hne
  | cons c rest =>
    obtain ⟨hc, hrest⟩ := List.forall_mem_cons.1 hs
    rw [words, wordsAfter.wordsOf, if_pos hc,
      glue_eq_singleton_iff c rest (wordsAfter_ne_nil c rest), wordsAfter_eq_singleton_iff c hrest]

/-! ## Digits in another case -/

/-- A mapping that neither makes digits nor changes any leaves a digit in front alone. -/
theorem filter_map_of_keepsDigits {f : Char → Char}
    (hmaps : ∀ c, isDecimalDigit (f c) = isDecimalDigit c)
    (hkeeps : ∀ {c}, isDecimalDigit c = true → f c = c) (o : Option Char) :
    (o.map f).filter isDecimalDigit = o.filter isDecimalDigit := by
  cases o with
  | none => rfl
  | some c =>
    rw [Option.map_some, Option.filter_some, Option.filter_some, hmaps]
    split
    · next h => rw [hkeeps h]
    · rfl

/-! ## Pascal case -/

theorem isAlphanumeric_of_mem_pascalPass {s : List Char} {c : Char} (h : c ∈ pascalPass s) :
    isAlphanumeric c = true := by
  obtain ⟨w, hw, hc⟩ := List.mem_flatMap.1 h
  have hword := fun {d : Char} (hd : d ∈ w) => isAlphanumeric_of_mem_words hw hd
  cases w with
  | nil => cases hc
  | cons d rest =>
    rw [capitalize] at hc
    rcases List.mem_cons.1 hc with rfl | hc
    · exact isAlphanumeric_upperChar (hword List.mem_cons_self)
    · obtain ⟨e, he, rfl⟩ := List.mem_map.1 hc
      exact isAlphanumeric_lowerChar (hword (List.mem_cons_of_mem d he))

/-- A pass begins with the capital of the first alphanumeric character. -/
theorem head?_pascalPass (s : List Char) :
    (pascalPass s).head? = (s.find? isAlphanumeric).map upperChar := by
  cases hwords : words s with
  | nil =>
    rw [pascalPass, hwords, find?_eq_none_of_words hwords]
    rfl
  | cons w ws =>
    have hw : w ≠ [] := ne_nil_of_mem_words (hwords ▸ List.mem_cons_self)
    obtain ⟨c, rest, rfl⟩ := List.exists_cons_of_ne_nil hw
    rw [pascalPass, hwords, find?_eq_of_words hwords]
    rfl

/-- What every pass makes, and keeps of what another has made, holds of pascal case. -/
theorem pascalCase_of_pass {P : List Char → Prop} {s : List Char} (hfirst : P (pascalPass s))
    (hpass : ∀ t, P t → P (pascalPass t)) : P (pascalCase s) := by
  have hrepeat : ∀ (fuel : Nat) (t : List Char), P t → P (pascalRepeat fuel t) := by
    intro fuel
    induction fuel with
    | zero => exact fun t ht => ht
    | succ fuel ih =>
      intro t ht
      rw [pascalRepeat]
      split
      · exact ht
      · exact ih _ (hpass t ht)
  exact hrepeat _ _ hfirst

theorem isAlphanumeric_of_mem_pascalCase {s : List Char} {c : Char} (h : c ∈ pascalCase s) :
    isAlphanumeric c = true :=
  pascalCase_of_pass (P := fun t => ∀ c ∈ t, isAlphanumeric c = true)
    (fun _ => isAlphanumeric_of_mem_pascalPass) (fun _ _ _ => isAlphanumeric_of_mem_pascalPass) c h

/-- Pascal case does not begin with one of the letters a to z. -/
theorem isLower_head?_pascalCase (s : List Char) : (pascalCase s).head?.any Char.isLower = false := by
  have hpass : ∀ t : List Char, (pascalPass t).head?.any Char.isLower = false := by
    intro t
    rw [head?_pascalPass]
    cases t.find? isAlphanumeric with
    | none => rfl
    | some c => exact isLower_upperChar c
  exact pascalCase_of_pass (P := fun t => t.head?.any Char.isLower = false) (hpass s)
    fun t _ => hpass t

/-- A digit in front of pascal case is the first alphanumeric character of the text. -/
theorem digit_head?_pascalCase (s : List Char) :
    (pascalCase s).head?.filter isDecimalDigit = (s.find? isAlphanumeric).filter isDecimalDigit := by
  have hpass : ∀ t, (pascalPass t).head?.filter isDecimalDigit
      = (t.find? isAlphanumeric).filter isDecimalDigit := by
    intro t
    rw [head?_pascalPass,
      filter_map_of_keepsDigits isDecimalDigit_upperChar upperChar_of_isDecimalDigit]
  refine (pascalCase_of_pass (P := fun t => (∀ c ∈ t, isAlphanumeric c = true) ∧
    t.head?.filter isDecimalDigit = (s.find? isAlphanumeric).filter isDecimalDigit)
    ⟨fun _ => isAlphanumeric_of_mem_pascalPass, hpass s⟩ ?_).2
  rintro t ⟨hall, hdigit⟩
  refine ⟨fun _ => isAlphanumeric_of_mem_pascalPass, ?_⟩
  -- All of `t` is alphanumeric, and so is what stands in front of it.
  rw [hpass, ← List.head?_filter, List.filter_eq_self.2 hall, hdigit]

/-! ## Snake case -/

theorem mem_intercalate {sep : List Char} {ls : List (List Char)} {c : Char}
    (h : c ∈ sep.intercalate ls) : c ∈ sep ∨ ∃ l ∈ ls, c ∈ l := by
  induction ls with
  | nil => cases h
  | cons l rest ih =>
    cases rest with
    | nil =>
      rw [List.intercalate_singleton] at h
      exact .inr ⟨l, List.mem_cons_self, h⟩
    | cons l' rest =>
      rw [List.intercalate_cons_cons, List.mem_append, List.mem_append] at h
      rcases h with (h | h) | h
      · exact .inr ⟨l, List.mem_cons_self, h⟩
      · exact .inl h
      · rcases ih h with h | ⟨k, hk, hc⟩
        · exact .inl h
        · exact .inr ⟨k, List.mem_cons_of_mem l hk, hc⟩

/-- Snake case is made of small forms and of underscores. -/
theorem exists_of_mem_snakeCase {s : List Char} {c : Char} (h : c ∈ snakeCase s) :
    (∃ w ∈ words s, ∃ d ∈ w, c = lowerChar d) ∨ c = '_' := by
  rcases mem_intercalate h with h | ⟨w, hw, hc⟩
  · exact .inr (List.mem_singleton.1 h)
  · obtain ⟨v, hv, rfl⟩ := List.mem_map.1 hw
    obtain ⟨d, hd, rfl⟩ := List.mem_map.1 hc
    exact .inl ⟨v, hv, d, hd, rfl⟩

theorem isAlphanumeric_of_mem_snakeCase {s : List Char} {c : Char} (h : c ∈ snakeCase s) :
    isAlphanumeric c = true ∨ c = '_' := by
  rcases exists_of_mem_snakeCase h with ⟨w, hw, d, hd, rfl⟩ | rfl
  · exact .inl (isAlphanumeric_lowerChar (isAlphanumeric_of_mem_words hw hd))
  · exact .inr rfl

/-- Snake case begins with the small form of the first alphanumeric character. -/
theorem head?_snakeCase (s : List Char) :
    (snakeCase s).head? = (s.find? isAlphanumeric).map lowerChar := by
  cases hwords : words s with
  | nil =>
    rw [snakeCase, hwords, find?_eq_none_of_words hwords]
    rfl
  | cons w ws =>
    have hw : w ≠ [] := ne_nil_of_mem_words (hwords ▸ List.mem_cons_self)
    obtain ⟨c, rest, rfl⟩ := List.exists_cons_of_ne_nil hw
    rw [snakeCase, hwords, find?_eq_of_words hwords]
    cases ws <;> rfl

/-- A digit in front of snake case is the first alphanumeric character of the text. -/
theorem digit_head?_snakeCase (s : List Char) :
    (snakeCase s).head?.filter isDecimalDigit = (s.find? isAlphanumeric).filter isDecimalDigit := by
  rw [head?_snakeCase,
    filter_map_of_keepsDigits isDecimalDigit_lowerChar lowerChar_of_isDecimalDigit]

end SampleTypes.Naming
