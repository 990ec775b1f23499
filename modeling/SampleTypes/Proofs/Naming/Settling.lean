import SampleTypes.Naming.Identifier
import SampleTypes.Proofs.Naming.Words

set_option autoImplicit false

/-! # Names that are cased already

Converting a name to pascal case a second time changes nothing. Once a text is joined, a pass
capitalizes only what is a capital, and else puts small letters in the place of letters that have
other ones: so the number of these falls with every pass that changes something, and the passes
allowed are enough. Snake case makes one pass only, and is settled if and only if that pass leaves
over no capital at which a new word starts. -/

namespace SampleTypes.Naming

open SampleTypes.Unicode

/-! ## A pass over a joined text -/

/-- What a pass makes of the characters that follow `before` in a text without separators. -/
def recase (before : Char) : List Char → List Char
  | [] => []
  | c :: rest =>
    (if startsWord before c rest.head? then upperChar c else lowerChar c) :: recase c rest

/-- Join words of which the first one continues a word that has been capitalized. -/
def joinAfter : List (List Char) → List Char
  | [] => []
  | w :: ws => w.map lowerChar ++ ws.flatMap capitalize

theorem joinAfter_glue (c : Char) (ws : List (List Char)) :
    joinAfter (glue c ws) = lowerChar c :: joinAfter ws := by
  cases ws <;> rfl

theorem flatMap_capitalize_glue (c : Char) (ws : List (List Char)) :
    (glue c ws).flatMap capitalize = upperChar c :: joinAfter ws := by
  cases ws <;> rfl

theorem joinAfter_wordsAfter (before : Char) {s : List Char}
    (hs : ∀ c ∈ s, isAlphanumeric c = true) : joinAfter (wordsAfter before s) = recase before s := by
  induction s generalizing before with
  | nil => rfl
  | cons c rest ih =>
    obtain ⟨hc, hrest⟩ := List.forall_mem_cons.1 hs
    rw [wordsAfter, hc, Bool.not_true, if_neg Bool.false_ne_true, recase, ← ih c hrest]
    split
    · rw [← flatMap_capitalize_glue]
      rfl
    · exact joinAfter_glue c _

theorem pascalPass_cons {c : Char} {rest : List Char}
    (h : ∀ d ∈ c :: rest, isAlphanumeric d = true) :
    pascalPass (c :: rest) = upperChar c :: recase c rest := by
  obtain ⟨hc, hrest⟩ := List.forall_mem_cons.1 h
  rw [pascalPass, words, wordsAfter.wordsOf, if_pos hc, flatMap_capitalize_glue,
    joinAfter_wordsAfter c hrest]

/-! ## Every pass that changes something makes letters small -/

/-- How many characters of a text are not small forms. -/
def unsettled (s : List Char) : Nat :=
  s.countP fun c => lowerChar c != c

theorem unsettled_cons (c : Char) (s : List Char) :
    unsettled (c :: s) = unsettled s + if lowerChar c = c then 0 else 1 := by
  by_cases hc : lowerChar c = c <;> simp [unsettled, hc]

/-- Where a word starts there is a capital already. -/
theorem upperChar_of_startsWord {before c : Char} {after : Option Char}
    (h : startsWord before c after = true) : upperChar c = c := by
  rw [startsWord, Bool.and_eq_true] at h
  exact upperChar_of_isUppercase h.1

theorem recase_eq_or_lt (before : Char) (s : List Char) :
    recase before s = s ∨ unsettled (recase before s) < unsettled s := by
  induction s generalizing before with
  | nil => exact .inl rfl
  | cons c rest ih =>
    have hhead : (if startsWord before c rest.head? then upperChar c else lowerChar c) = c ∨
        lowerChar c ≠ c ∧
          (if startsWord before c rest.head? then upperChar c else lowerChar c) = lowerChar c := by
      split
      · next hstart => exact .inl (upperChar_of_startsWord hstart)
      · exact or_iff_not_imp_left.2 fun hne => ⟨hne, rfl⟩
    rw [recase]
    rcases hhead with heq | ⟨hmoved, heq⟩
    · rw [heq]
      rcases ih c with hrest | hrest
      · exact .inl (congrArg (c :: ·) hrest)
      · rw [unsettled_cons, unsettled_cons]
        exact .inr (Nat.add_lt_add_right hrest _)
    · -- One letter has become small here, and behind it there are no more that have not.
      have hrest : unsettled (recase c rest) ≤ unsettled rest := by
        rcases ih c with hrest | hrest
        · exact (congrArg unsettled hrest).le
        · exact hrest.le
      rw [heq, unsettled_cons, unsettled_cons, if_pos (lowerChar_lowerChar c), if_neg hmoved]
      exact .inr (Nat.lt_succ_of_le hrest)

/-! ## Pascal case -/

/-- What a pass makes: alphanumeric characters, the first of them its own capital. -/
structure IsJoined (t : List Char) : Prop where
  chars : ∀ c ∈ t, isAlphanumeric c = true
  head : ∀ c ∈ t.head?, upperChar c = c

theorem isJoined_pascalPass (s : List Char) : IsJoined (pascalPass s) where
  chars := fun _ => isAlphanumeric_of_mem_pascalPass
  head := by
    intro c hc
    rw [head?_pascalPass] at hc
    obtain ⟨d, -, rfl⟩ := Option.map_eq_some_iff.1 hc
    exact upperChar_upperChar d

theorem IsJoined.pascalPass_eq_or_lt {t : List Char} (h : IsJoined t) :
    pascalPass t = t ∨ unsettled (pascalPass t) < unsettled t := by
  cases t with
  | nil => exact .inl rfl
  | cons c rest =>
    rw [pascalPass_cons h.chars, h.head c rfl]
    rcases recase_eq_or_lt c rest with hrest | hrest
    · exact .inl (congrArg (c :: ·) hrest)
    · rw [unsettled_cons, unsettled_cons]
      exact .inr (Nat.add_lt_add_right hrest _)

/-- As many passes as there are letters to make small are enough to come to a text that a further
    pass leaves alone. -/
theorem IsJoined.pascalPass_pascalRepeat {t : List Char} (h : IsJoined t) {fuel : Nat}
    (hfuel : unsettled t ≤ fuel) : pascalPass (pascalRepeat fuel t) = pascalRepeat fuel t := by
  induction fuel generalizing t with
  | zero =>
    rcases h.pascalPass_eq_or_lt with heq | hlt
    · exact heq
    · omega
  | succ fuel ih =>
    rw [pascalRepeat]
    split
    · next heq => exact heq
    · next hne =>
      rcases h.pascalPass_eq_or_lt with heq | hlt
      · exact absurd heq hne
      · exact ih (isJoined_pascalPass t) (by omega)

theorem pascalPass_pascalCase (s : List Char) : pascalPass (pascalCase s) = pascalCase s := by
  have hbudget : unsettled (pascalPass s) ≤ (pascalPass s).length + 1 :=
    List.countP_le_length.trans (Nat.le_succ _)
  exact (isJoined_pascalPass s).pascalPass_pascalRepeat hbudget

/-- A text that a pass leaves alone is in pascal case. -/
theorem pascalCase_of_pascalPass {t : List Char} (h : pascalPass t = t) : pascalCase t = t := by
  rw [pascalCase, h, pascalRepeat, if_pos h]

theorem pascalCase_pascalCase (s : List Char) : pascalCase (pascalCase s) = pascalCase s :=
  pascalCase_of_pascalPass (pascalPass_pascalCase s)

/-! ## Names of types -/

/-- An underscore in front is no part of the first word. -/
theorem pascalCase_underscore (t : List Char) : pascalCase ('_' :: t) = pascalCase t := by
  have hwords : words ('_' :: t) = words t := by
    rw [words, wordsAfter.wordsOf, isAlphanumeric_underscore, if_neg Bool.false_ne_true, words]
  rw [pascalCase, pascalPass, hwords, pascalCase, pascalPass]

/-- The guarded name is found again in a name that is guarded already. -/
theorem guardDigit_pascalCase_guardDigit {t : List Char} (h : pascalCase t = t) (hne : t ≠ []) :
    guardDigit (orElse "Item" (pascalCase (guardDigit t))) = guardDigit t := by
  obtain ⟨c, rest, rfl⟩ := List.exists_cons_of_ne_nil hne
  rw [guardDigit]
  split
  · next hdigit =>
    rw [pascalCase_underscore, h, orElse, List.isEmpty_cons, if_neg Bool.false_ne_true, guardDigit,
      if_pos hdigit]
  · next hdigit =>
    rw [h, orElse, List.isEmpty_cons, if_neg Bool.false_ne_true, guardDigit, if_neg hdigit]

/-- The names that are given in place of others are names of types themselves. -/
theorem typeIdentifier_of_given :
    ∀ name ∈ "Item" :: capitalKeywords.map (· ++ "Type"), typeIdentifier name = name := by
  decide +kernel

theorem typeIdentifier_typeIdentifier (raw : String) :
    typeIdentifier (typeIdentifier raw) = typeIdentifier raw := by
  cases hname : pascalCase raw.toList with
  | nil =>
    have hitem : typeIdentifier raw = "Item" := by
      rw [typeIdentifier, hname]
      decide
    rw [hitem]
    exact typeIdentifier_of_given "Item" List.mem_cons_self
  | cons c rest =>
    have hfixed : pascalCase (c :: rest) = c :: rest := hname ▸ pascalCase_pascalCase raw.toList
    have hguard := guardDigit_pascalCase_guardDigit hfixed (List.cons_ne_nil c rest)
    have hraw : typeIdentifier raw =
        if String.ofList (guardDigit (c :: rest)) ∈ capitalKeywords
        then String.ofList (guardDigit (c :: rest)) ++ "Type"
        else String.ofList (guardDigit (c :: rest)) := by
      rw [typeIdentifier, hname]
      rfl
    rw [hraw]
    split
    · next hkeyword =>
      exact typeIdentifier_of_given _ (List.mem_cons_of_mem _ (List.mem_map_of_mem hkeyword))
    · next hkeyword =>
      rw [typeIdentifier, String.toList_ofList, hguard]
      exact if_neg hkeyword

/-- Pascal case is a text that a further pass leaves alone, so that casing it again changes
    nothing, and neither does making the name of a type of one. -/
theorem pascalCase_settled (raw : String) :
    pascalPass (pascalCase raw.toList) = pascalCase raw.toList ∧
    pascalCase (pascalCase raw.toList) = pascalCase raw.toList ∧
    typeIdentifier (typeIdentifier raw) = typeIdentifier raw :=
  ⟨pascalPass_pascalCase raw.toList, pascalCase_pascalCase raw.toList,
    typeIdentifier_typeIdentifier raw⟩

/-! ## Snake case

The words of snake case are cut out of the small words of the text. They are the same words unless
a small word falls apart, which takes a capital in it. -/

/-- The words of a text in small letters. -/
def smallWords (s : List Char) : List (List Char) :=
  (words s).map fun w => w.map lowerChar

theorem ne_nil_of_mem_smallWords {s l : List Char} (hl : l ∈ smallWords s) : l ≠ [] := by
  obtain ⟨w, hw, rfl⟩ := List.mem_map.1 hl
  simpa using ne_nil_of_mem_words hw

theorem isAlphanumeric_of_mem_smallWords {s l : List Char} (hl : l ∈ smallWords s) :
    ∀ c ∈ l, isAlphanumeric c = true := by
  intro c hc
  obtain ⟨w, hw, rfl⟩ := List.mem_map.1 hl
  obtain ⟨d, hd, rfl⟩ := List.mem_map.1 hc
  exact isAlphanumeric_lowerChar (isAlphanumeric_of_mem_words hw hd)

theorem underscore_not_mem_smallWords {s l : List Char} (hl : l ∈ smallWords s) : '_' ∉ l := by
  intro hmem
  have halnum := isAlphanumeric_of_mem_smallWords hl '_' hmem
  rw [isAlphanumeric_underscore] at halnum
  cases halnum

theorem lowerChar_of_mem_smallWords {s l : List Char} (hl : l ∈ smallWords s) :
    ∀ c ∈ l, lowerChar c = c := by
  intro c hc
  obtain ⟨w, -, rfl⟩ := List.mem_map.1 hl
  obtain ⟨d, -, rfl⟩ := List.mem_map.1 hc
  exact lowerChar_lowerChar d

theorem words_snakeCase (s : List Char) : words (snakeCase s) = (smallWords s).flatMap words :=
  words_intercalate isAlphanumeric_underscore (by decide +kernel) (smallWords s)

/-- Words that are cut out of small words are small. -/
theorem smallWords_snakeCase (s : List Char) :
    smallWords (snakeCase s) = (smallWords s).flatMap words := by
  rw [smallWords, words_snakeCase]
  refine (List.map_congr_left ?_).trans (List.map_id _)
  intro w hw
  obtain ⟨l, hl, hwl⟩ := List.mem_flatMap.1 hw
  have hsmall : ∀ c ∈ w, lowerChar c = c := by
    intro c hc
    exact lowerChar_of_mem_smallWords hl c (mem_of_mem_words hwl hc)
  exact (List.map_congr_left hsmall).trans (List.map_id w)

/-- Cutting words once more leaves them as they are if and only if each of them is one word. -/
theorem flatMap_words_eq_self_iff {ls : List (List Char)}
    (hls : ∀ l ∈ ls, l ≠ [] ∧ ∀ c ∈ l, isAlphanumeric c = true) :
    ls.flatMap words = ls ↔ ∀ l ∈ ls, words l = [l] := by
  induction ls with
  | nil => simp
  | cons l rest ih =>
    obtain ⟨⟨hne, halnum⟩, hrest⟩ := List.forall_mem_cons.1 hls
    rw [List.forall_mem_cons, ← ih hrest, List.flatMap_cons]
    constructor
    · intro heq
      have hflat : (words l).flatten = l := by
        rw [flatten_words, List.filter_eq_self.2 halnum]
      cases hwords : words l with
      | nil =>
        rw [hwords] at hflat
        exact absurd hflat.symm hne
      | cons w ws =>
        rw [hwords, List.cons_append] at heq
        obtain ⟨rfl, htail⟩ := List.cons.inj heq
        -- The first word is all of the text, and no word is empty.
        have hws : ws = [] := by
          rw [hwords, List.flatten_cons, List.append_right_eq_self, List.flatten_eq_nil_iff] at hflat
          by_contra hws
          obtain ⟨v, vs, rfl⟩ := List.exists_cons_of_ne_nil hws
          have hv : v ∈ words w := by rw [hwords]; simp
          exact ne_nil_of_mem_words hv (hflat v List.mem_cons_self)
        subst hws
        exact ⟨rfl, htail⟩
    · rintro ⟨hl, heq⟩
      rw [hl, heq]
      rfl

/-- The small words of a text are read off its snake case. -/
theorem smallWords_eq_filter (s : List Char) :
    smallWords s = ((snakeCase s).splitOn '_').filter fun l => !l.isEmpty := by
  by_cases hnil : smallWords s = []
  · have hempty : snakeCase s = [] := congrArg ['_'].intercalate hnil
    rw [hnil, hempty]
    rfl
  · have hsplit : (snakeCase s).splitOn '_' = smallWords s :=
      List.splitOn_intercalate '_' (fun _ => underscore_not_mem_smallWords) hnil
    rw [hsplit, List.filter_eq_self.2]
    intro l hl
    simpa using ne_nil_of_mem_smallWords hl

/-- The words of snake case are the small words of the text unless a word starts inside one. -/
theorem words_snakeCase_iff (s : List Char) :
    words (snakeCase s) = smallWords s ↔ ∀ w ∈ words s, ¬ HasBoundary (w.map lowerChar) := by
  have hsmall : ∀ l ∈ smallWords s, l ≠ [] ∧ ∀ c ∈ l, isAlphanumeric c = true := fun l hl =>
    ⟨ne_nil_of_mem_smallWords hl, isAlphanumeric_of_mem_smallWords hl⟩
  calc words (snakeCase s) = smallWords s
      ↔ ∀ l ∈ smallWords s, words l = [l] := by
        rw [words_snakeCase, flatMap_words_eq_self_iff hsmall]
    _ ↔ ∀ l ∈ smallWords s, ¬ HasBoundary l := by
        refine forall₂_congr fun l hl => ?_
        exact words_eq_singleton_iff (hsmall l hl).2 (hsmall l hl).1
    _ ↔ ∀ w ∈ words s, ¬ HasBoundary (w.map lowerChar) := List.forall_mem_map

theorem snakeCase_snakeCase_iff (s : List Char) :
    snakeCase (snakeCase s) = snakeCase s ↔ ∀ w ∈ words s, ¬ HasBoundary (w.map lowerChar) := by
  calc snakeCase (snakeCase s) = snakeCase s
      ↔ smallWords (snakeCase s) = smallWords s := by
        constructor
        · intro heq
          rw [smallWords_eq_filter, heq, ← smallWords_eq_filter]
        · exact congrArg ['_'].intercalate
    _ ↔ words (snakeCase s) = smallWords s := by rw [smallWords_snakeCase, words_snakeCase]
    _ ↔ ∀ w ∈ words s, ¬ HasBoundary (w.map lowerChar) := words_snakeCase_iff s

/-- No word starts inside a small word of ASCII, since no capital is left over in it. -/
theorem not_hasBoundary_of_ascii {w : List Char} (h : ∀ c ∈ w, c.toNat < 128) :
    ¬ HasBoundary (w.map lowerChar) := by
  rintro ⟨front, before, c, back, heq, hstart⟩
  have hmem : c ∈ w.map lowerChar := by simp [heq]
  obtain ⟨d, hd, rfl⟩ := List.mem_map.1 hmem
  rw [startsWord, isUppercase_lowerChar_of_ascii (h d hd)] at hstart
  cases hstart

/-- Text in ASCII is in its final form after one pass. -/
theorem snakeCase_snakeCase_of_ascii {s : List Char} (h : ∀ c ∈ s, c.toNat < 128) :
    snakeCase (snakeCase s) = snakeCase s := by
  rw [snakeCase_snakeCase_iff]
  intro w hw
  exact not_hasBoundary_of_ascii fun c hc => h c (mem_of_mem_words hw hc)

/-! ## Capitals that stay

A word falls apart where a capital without a small form of its own is left over in it. -/

/-- Whether a character is a capital that has no other small form. -/
def staysCapital (c : Char) : Bool :=
  isUppercase c && lowerChar c == c

theorem isUppercase_lowerChar (c : Char) : isUppercase (lowerChar c) = staysCapital c := by
  rw [staysCapital, Bool.eq_iff_iff, Bool.and_eq_true, beq_iff_eq]
  constructor
  · intro h
    have hsame := lowerChar_of_isUppercase h
    exact ⟨hsame ▸ h, hsame⟩
  · rintro ⟨h, hsame⟩
    rw [hsame, h]

/-- Whether a capital is left over in a word behind a character that is none, or in front of a
    small letter. -/
def FallsApart (w : List Char) : Prop :=
  ∃ front before c back, w = front ++ before :: c :: back ∧ staysCapital c = true ∧
    (staysCapital before = false ∨
      back.head?.any (fun after => isLowercase (lowerChar after)) = true)

theorem startsWord_lowerChar (before c : Char) (after : Option Char) :
    startsWord (lowerChar before) (lowerChar c) (after.map lowerChar) = true ↔
      staysCapital c = true ∧ (staysCapital before = false ∨
        after.any (fun a => isLowercase (lowerChar a)) = true) := by
  rw [startsWord, isUppercase_lowerChar, isUppercase_lowerChar, Option.any_map]
  simp

theorem hasBoundary_map_lowerChar_iff (w : List Char) :
    HasBoundary (w.map lowerChar) ↔ FallsApart w := by
  constructor
  · rintro ⟨front, before, c, back, heq, hstart⟩
    obtain ⟨front', tail, rfl, -, htail⟩ := List.map_eq_append_iff.1 heq
    obtain ⟨before', tail', rfl, rfl, htail'⟩ := List.map_eq_cons_iff.1 htail
    obtain ⟨c', back', rfl, rfl, rfl⟩ := List.map_eq_cons_iff.1 htail'
    rw [List.head?_map, startsWord_lowerChar] at hstart
    exact ⟨front', before', c', back', rfl, hstart⟩
  · rintro ⟨front, before, c, back, rfl, hstays⟩
    refine ⟨front.map lowerChar, lowerChar before, lowerChar c, back.map lowerChar, by simp, ?_⟩
    rw [List.head?_map, startsWord_lowerChar]
    exact hstays

/-- Snake case is left as it is by a second conversion if and only if no word of the text falls
    apart when it is made small. -/
theorem snakeCase_settled_iff (s : List Char) :
    snakeCase (snakeCase s) = snakeCase s ↔ ∀ w ∈ words s, ¬ FallsApart w := by
  rw [snakeCase_snakeCase_iff]
  exact forall₂_congr fun w _ => not_congr (hasBoundary_map_lowerChar_iff w)

/-- The capital I with a dot has no small form that is one character: it continues the word of a
    capital in front of it, and starts a word behind a small letter. -/
theorem snakeCase_unsettled :
    snakeCase "A\u0130".toList = "a\u0130".toList ∧
    snakeCase (snakeCase "A\u0130".toList) = "a_\u0130".toList ∧
    snakeCase (snakeCase "A\u0130".toList) ≠ snakeCase "A\u0130".toList := by
  decide +kernel

end SampleTypes.Naming
