import SampleTypes.Proofs.Naming.Settling

set_option autoImplicit false

/-! # Where words begin

Cutting a text into words loses none of its alphanumeric characters, and cuts at the places that
the neighbours of a character tell: in front of the first character, behind one that is not
alphanumeric, and in front of a capital that follows none or precedes a small letter. This
determines the words (`IsCut.eq_words`).

The scan reads a text from its front, so the induction is on what stands in front of a character.
It goes side by side through the texts that continue a word, whose first word does not begin in
them, and those that do not.

Snake case joins the words again, with one underscore in each place between two of them. -/

namespace SampleTypes.Naming

open SampleTypes.Unicode

/-! ## The condition -/

/-- Whether an alphanumeric character opens a word between these neighbours: there is none in
    front, or one that is not alphanumeric, or the character is a capital and the one in front is
    none or the one behind is a small letter. -/
def OpensWord (before : Option Char) (c : Char) (after : Option Char) : Prop :=
  before = none ∨ (∃ b ∈ before, isAlphanumeric b = false) ∨
    isUppercase c = true ∧
      ((∃ b ∈ before, isUppercase b = false) ∨ ∃ a ∈ after, isLowercase a = true)

theorem opensWord_none (c : Char) (after : Option Char) : OpensWord none c after :=
  .inl rfl

theorem opensWord_behind_separator {b : Char} (hb : isAlphanumeric b = false) (c : Char)
    (after : Option Char) : OpensWord (some b) c after :=
  .inr (.inl ⟨b, rfl, hb⟩)

/-- Inside a run of alphanumeric characters the letters decide. -/
theorem opensWord_inside {b : Char} (hb : isAlphanumeric b = true) (c : Char)
    (after : Option Char) : OpensWord (some b) c after ↔ startsWord b c after = true := by
  simp [OpensWord, startsWord, hb, Option.any_eq_true]

/-! ## Places in a list of words -/

/-- Whether one of the words begins right behind the characters `front`. -/
def BeginsBehind (front : List Char) (ws : List (List Char)) : Prop :=
  ∃ before w after, ws = before ++ w :: after ∧ before.flatten = front

/-- Whether one of the words behind the first begins right behind the characters `front`. -/
def BeginsLater (front : List Char) (ws : List (List Char)) : Prop :=
  ∃ first rest tail, ws = first :: rest ∧ front = first ++ tail ∧ BeginsBehind tail rest

theorem beginsBehind_nil_glue (c : Char) (ws : List (List Char)) : BeginsBehind [] (glue c ws) := by
  cases ws with
  | nil => exact ⟨[], [c], [], rfl, rfl⟩
  | cons w rest => exact ⟨[], c :: w, rest, rfl, rfl⟩

theorem not_beginsLater_nil_glue (c : Char) (ws : List (List Char)) :
    ¬ BeginsLater [] (glue c ws) := by
  rintro ⟨first, rest, tail, heq, hnil, -⟩
  obtain ⟨rfl, -⟩ := List.append_eq_nil_iff.1 hnil.symm
  cases ws <;> simp [glue] at heq

/-- A first word that is empty ends where it begins. -/
theorem beginsLater_nil_cons (front : List Char) (ws : List (List Char)) :
    BeginsLater front ([] :: ws) ↔ BeginsBehind front ws := by
  constructor
  · rintro ⟨first, rest, tail, heq, rfl, hbegins⟩
    obtain ⟨rfl, rfl⟩ := List.cons.inj heq
    exact hbegins
  · exact fun hbegins => ⟨[], ws, front, rfl, rfl, hbegins⟩

theorem beginsLater_cons_glue (c : Char) (front : List Char) {ws : List (List Char)}
    (hws : ws ≠ []) : BeginsLater (c :: front) (glue c ws) ↔ BeginsLater front ws := by
  obtain ⟨w, rest, rfl⟩ := List.exists_cons_of_ne_nil hws
  rw [glue]
  constructor
  · rintro ⟨first, rest', tail, heq, hfront, hbegins⟩
    obtain ⟨rfl, rfl⟩ := List.cons.inj heq
    exact ⟨w, rest, tail, rfl, (List.cons.inj hfront).2, hbegins⟩
  · rintro ⟨first, rest', tail, heq, rfl, hbegins⟩
    obtain ⟨rfl, rfl⟩ := List.cons.inj heq
    exact ⟨c :: w, rest, tail, rfl, rfl, hbegins⟩

/-- Behind at least one character, a word that begins is not the first. -/
theorem beginsBehind_cons_glue (c : Char) (front : List Char) {ws : List (List Char)}
    (hws : ws ≠ []) : BeginsBehind (c :: front) (glue c ws) ↔ BeginsLater front ws := by
  rw [← beginsLater_cons_glue c front hws]
  constructor
  · rintro ⟨before, w, after, heq, hfront⟩
    cases before with
    | nil => cases hfront
    | cons first before =>
      exact ⟨first, _, before.flatten, heq, hfront.symm, before, w, after, rfl, rfl⟩
  · rintro ⟨first, rest, tail, heq, hfront, before, w, after, rfl, rfl⟩
    exact ⟨first :: before, w, after, heq, hfront.symm⟩

/-! ## The scan -/

section Scan

variable {c : Char} (hc : isAlphanumeric c = true) (back : List Char)

/-- A separator in front of everything is as good as nothing. -/
theorem opensWord_getLast?_cons {d : Char} (hd : isAlphanumeric d = false) (front : List Char)
    (after : Option Char) :
    OpensWord (d :: front).getLast? c after ↔ OpensWord front.getLast? c after := by
  cases front with
  | nil => exact iff_of_true (opensWord_behind_separator hd c after) (opensWord_none c after)
  | cons e rest => rw [List.getLast?_cons_cons]

include hc

mutual

/-- A word begins at `c` inside a text that continues a word. -/
theorem beginsLater_wordsAfter {b : Char} (hb : isAlphanumeric b = true) :
    ∀ front : List Char,
      BeginsLater (front.filter isAlphanumeric) (wordsAfter b (front ++ c :: back)) ↔
        OpensWord (b :: front).getLast? c back.head?
  | [] => by
    rw [List.nil_append, List.filter_nil, wordsAfter, hc, Bool.not_true, if_neg Bool.false_ne_true,
      List.getLast?_singleton, opensWord_inside hb]
    split
    · next hstart =>
      exact iff_of_true ((beginsLater_nil_cons _ _).2 (beginsBehind_nil_glue c _)) hstart
    · next hstart => exact iff_of_false (not_beginsLater_nil_glue c _) hstart
  | d :: rest => by
    rw [List.cons_append, wordsAfter, List.getLast?_cons_cons]
    cases hd : isAlphanumeric d with
    | false =>
      rw [Bool.not_false, if_pos rfl, List.filter_cons_of_neg (by simp [hd]), beginsLater_nil_cons,
        opensWord_getLast?_cons hd]
      exact beginsBehind_wordsOf rest
    | true =>
      have hne := wordsAfter_ne_nil d (rest ++ c :: back)
      rw [Bool.not_true, if_neg Bool.false_ne_true, List.filter_cons_of_pos hd]
      -- Whether `d` opens a word or continues the one of `b`, what is left continues that of `d`.
      split
      · rw [beginsLater_nil_cons, beginsBehind_cons_glue d _ hne]
        exact beginsLater_wordsAfter hd rest
      · rw [beginsLater_cons_glue d _ hne]
        exact beginsLater_wordsAfter hd rest

/-- A word begins at `c` inside a text that does not continue one. -/
theorem beginsBehind_wordsOf :
    ∀ front : List Char,
      BeginsBehind (front.filter isAlphanumeric) (wordsAfter.wordsOf (front ++ c :: back)) ↔
        OpensWord front.getLast? c back.head?
  | [] => by
    rw [List.nil_append, List.filter_nil, wordsAfter.wordsOf, if_pos hc]
    exact iff_of_true (beginsBehind_nil_glue c _) (opensWord_none c _)
  | d :: rest => by
    rw [List.cons_append, wordsAfter.wordsOf]
    cases hd : isAlphanumeric d with
    | false =>
      rw [if_neg Bool.false_ne_true, List.filter_cons_of_neg (by simp [hd]),
        opensWord_getLast?_cons hd]
      exact beginsBehind_wordsOf rest
    | true =>
      rw [if_pos rfl, List.filter_cons_of_pos hd,
        beginsBehind_cons_glue d _ (wordsAfter_ne_nil d _)]
      exact beginsLater_wordsAfter hd rest

end

end Scan

/-! ## The words are the only cut -/

/-- A list of words that holds the alphanumeric characters of a text and is cut where its
    neighbours make a character open a word. -/
structure IsCut (s : List Char) (ws : List (List Char)) : Prop where
  ne_nil : ∀ w ∈ ws, w ≠ []
  flatten_eq : ws.flatten = s.filter isAlphanumeric
  begins_iff : ∀ {front c back}, s = front ++ c :: back → isAlphanumeric c = true →
    (BeginsBehind (front.filter isAlphanumeric) ws ↔ OpensWord front.getLast? c back.head?)

theorem isCut_words (s : List Char) : IsCut s (words s) where
  ne_nil := fun _ => ne_nil_of_mem_words
  flatten_eq := flatten_words s
  begins_iff := by
    rintro front c back rfl hc
    exact beginsBehind_wordsOf hc back front

/-- Where a word begins there is a character of the text. -/
theorem IsCut.exists_split {s : List Char} {ws : List (List Char)} (h : IsCut s ws)
    {front : List Char} (hbegins : BeginsBehind front ws) :
    ∃ left c right, s = left ++ c :: right ∧ isAlphanumeric c = true ∧
      left.filter isAlphanumeric = front := by
  obtain ⟨before, w, after, rfl, rfl⟩ := hbegins
  obtain ⟨c, rest, rfl⟩ := List.exists_cons_of_ne_nil (h.ne_nil w (by simp))
  have hflat : s.filter isAlphanumeric = before.flatten ++ (c :: (rest ++ after.flatten)) := by
    rw [← h.flatten_eq, List.flatten_append, List.flatten_cons, List.cons_append]
  obtain ⟨front, back, rfl, hfront, hback⟩ := List.filter_eq_append_iff.1 hflat
  obtain ⟨skipped, right, rfl, hskipped, hc, -⟩ := List.filter_eq_cons_iff.1 hback
  refine ⟨front ++ skipped, c, right, (List.append_assoc ..).symm, hc, ?_⟩
  rw [List.filter_append, hfront, List.filter_eq_nil_iff.2 hskipped, List.append_nil]

/-- Two cuts of a text have their words begin at the same places. -/
theorem IsCut.beginsBehind {s : List Char} {ws ws' : List (List Char)} (h : IsCut s ws)
    (h' : IsCut s ws') {front : List Char} (hbegins : BeginsBehind front ws) :
    BeginsBehind front ws' := by
  obtain ⟨left, c, right, hs, hc, rfl⟩ := h.exists_split hbegins
  exact (h'.begins_iff hs hc).2 ((h.begins_iff hs hc).1 hbegins)

theorem beginsBehind_append_cons {w : List Char} (hw : w ≠ []) (front : List Char)
    (ws : List (List Char)) : BeginsBehind (w ++ front) (w :: ws) ↔ BeginsBehind front ws := by
  constructor
  · rintro ⟨before, v, after, heq, hfront⟩
    cases before with
    | nil => exact absurd (List.append_eq_nil_iff.1 hfront.symm).1 hw
    | cons first before =>
      obtain ⟨rfl, rfl⟩ := List.cons.inj heq
      exact ⟨before, v, after, rfl, List.append_cancel_left hfront⟩
  · rintro ⟨before, v, after, rfl, rfl⟩
    exact ⟨w :: before, v, after, rfl, rfl⟩

/-- A first word is not continued where a word of another list with the same characters begins. -/
theorem more_eq_nil_of_beginsBehind {w more : List Char} {ws ws' : List (List Char)} (hw : w ≠ [])
    (hws : ws.flatten = more ++ ws'.flatten)
    (hbegins : BeginsBehind w (w :: ws) → BeginsBehind w ((w ++ more) :: ws')) : more = [] := by
  by_contra hmore
  have hne : ws ≠ [] := by
    rintro rfl
    exact hmore (List.append_eq_nil_iff.1 hws.symm).1
  obtain ⟨v, rest, rfl⟩ := List.exists_cons_of_ne_nil hne
  obtain ⟨before, v', after, heq, hfront⟩ := hbegins ⟨[w], v, rest, rfl, by simp⟩
  cases before with
  | nil => exact hw hfront.symm
  | cons first before =>
    obtain ⟨rfl, -⟩ := List.cons.inj heq
    rw [List.flatten_cons, List.append_assoc, List.append_right_eq_self] at hfront
    exact hmore (List.append_eq_nil_iff.1 hfront).1

/-- Words with the same characters that begin at the same places are the same words. -/
theorem words_eq_of_beginsBehind {ws ws' : List (List Char)} (hne : ∀ w ∈ ws, w ≠ [])
    (hne' : ∀ w ∈ ws', w ≠ []) (hflat : ws.flatten = ws'.flatten)
    (hbegins : ∀ front, BeginsBehind front ws ↔ BeginsBehind front ws') : ws = ws' := by
  induction ws generalizing ws' with
  | nil =>
    refine (List.eq_nil_iff_forall_not_mem.2 fun w hw => hne' w hw ?_).symm
    exact List.flatten_eq_nil_iff.1 hflat.symm w hw
  | cons w rest ih =>
    obtain ⟨hw, hrest⟩ := List.forall_mem_cons.1 hne
    cases ws' with
    | nil => exact absurd (List.append_eq_nil_iff.1 hflat).1 hw
    | cons w' rest' =>
      obtain ⟨hw', hrest'⟩ := List.forall_mem_cons.1 hne'
      rw [List.flatten_cons, List.flatten_cons] at hflat
      have hsame : w = w' := by
        rcases List.append_eq_append_iff.1 hflat with ⟨more, rfl, hmore⟩ | ⟨more, rfl, hmore⟩
        · rw [more_eq_nil_of_beginsBehind hw hmore (hbegins w).1, List.append_nil]
        · rw [more_eq_nil_of_beginsBehind hw' hmore (hbegins w').2, List.append_nil]
      subst hsame
      rw [ih hrest hrest' (List.append_cancel_left hflat) fun front => ?_]
      rw [← beginsBehind_append_cons hw front rest, ← beginsBehind_append_cons hw front rest']
      exact hbegins (w ++ front)

theorem IsCut.eq_words {s : List Char} {ws : List (List Char)} (h : IsCut s ws) : ws = words s :=
  words_eq_of_beginsBehind h.ne_nil (isCut_words s).ne_nil
    (h.flatten_eq.trans (isCut_words s).flatten_eq.symm)
    fun _ => ⟨h.beginsBehind (isCut_words s), (isCut_words s).beginsBehind h⟩

/-! ## Joining by a separator -/

/-- A separator stands at neither end of the text, and no two of them stand side by side. -/
structure WellSeparated (sep : Char) (s : List Char) : Prop where
  head : s.head? ≠ some sep
  last : s.getLast? ≠ some sep
  single : ¬ [sep, sep] <:+: s

section Separator

variable {sep : Char} {ls : List (List Char)}

theorem isChain_separator_append {l t : List Char} (hne : l ≠ []) (hl : sep ∉ l)
    (ht : (sep :: t).IsChain fun a b => ¬ (a = sep ∧ b = sep)) :
    (sep :: (l ++ sep :: t)).IsChain fun a b => ¬ (a = sep ∧ b = sep) := by
  have hinside : ∀ c ∈ l, c ≠ sep := fun c hc heq => hl (heq ▸ hc)
  have hchain : l.IsChain fun a b => ¬ (a = sep ∧ b = sep) := by
    refine (List.pairwise_of_forall_mem_list ?_).isChain
    exact fun a ha _ _ h => hinside a ha h.1
  rw [← List.cons_append, List.isChain_append, List.isChain_cons]
  refine ⟨⟨fun c hc h => hinside c (List.mem_of_mem_head? hc) h.2, hchain⟩, ht, ?_⟩
  obtain ⟨d, rest, rfl⟩ := List.exists_cons_of_ne_nil hne
  intro c hc _ _ h
  rw [List.getLast?_cons_cons] at hc
  exact hinside c (List.mem_of_getLast? hc) h.1

/-- With a separator put at both ends, every separator still stands by itself. -/
theorem isChain_intercalate (hls : ∀ l ∈ ls, l ≠ [] ∧ sep ∉ l) (hne : ls ≠ []) :
    (sep :: ([sep].intercalate ls ++ [sep])).IsChain fun a b => ¬ (a = sep ∧ b = sep) := by
  induction ls with
  | nil => exact absurd rfl hne
  | cons l rest ih =>
    obtain ⟨⟨hl, hsep⟩, hrest⟩ := List.forall_mem_cons.1 hls
    cases rest with
    | nil =>
      rw [List.intercalate_singleton]
      exact isChain_separator_append hl hsep (List.isChain_singleton sep)
    | cons l' rest =>
      rw [List.intercalate_cons_cons, List.append_assoc, List.append_assoc]
      exact isChain_separator_append hl hsep (ih hrest (List.cons_ne_nil l' rest))

theorem wellSeparated_intercalate (hls : ∀ l ∈ ls, l ≠ [] ∧ sep ∉ l) :
    WellSeparated sep ([sep].intercalate ls) := by
  by_cases hne : ls = []
  · subst hne
    exact ⟨by simp, by simp, by simp⟩
  · have hchain := isChain_intercalate hls hne
    refine ⟨fun hhead => ?_, fun hlast => ?_, fun hdouble => ?_⟩
    · refine (List.isChain_cons.1 hchain).1 sep ?_ ⟨rfl, rfl⟩
      rw [List.head?_append, hhead]
      rfl
    · rw [← List.cons_append, List.isChain_append] at hchain
      refine hchain.2.2 sep ?_ sep rfl ⟨rfl, rfl⟩
      rw [List.getLast?_cons, hlast]
      rfl
    · have hwhole : [sep, sep] <:+: sep :: ([sep].intercalate ls ++ [sep]) :=
        (hdouble.trans (List.prefix_append _ _).isInfix).trans (List.suffix_cons sep _).isInfix
      have hpair := List.IsChain.infix hchain hwhole
      exact (List.isChain_cons_cons.1 hpair).1 ⟨rfl, rfl⟩

/-- What stands between the separators is found again when they are taken out. -/
theorem filter_intercalate (hls : ∀ l ∈ ls, sep ∉ l) :
    ([sep].intercalate ls).filter (· ≠ sep) = ls.flatten := by
  induction ls with
  | nil => rfl
  | cons l rest ih =>
    obtain ⟨hl, hrest⟩ := List.forall_mem_cons.1 hls
    have hkept : l.filter (· ≠ sep) = l :=
      List.filter_eq_self.2 fun c hc => decide_eq_true fun heq => hl (heq ▸ hc)
    cases rest with
    | nil => rw [List.intercalate_singleton, hkept, List.flatten_singleton]
    | cons l' rest =>
      rw [List.intercalate_cons_cons, List.filter_append, List.filter_append, hkept, ih hrest,
        List.flatten_cons]
      simp

end Separator

/-! ## What is lost -/

theorem flatten_smallWords (s : List Char) :
    (smallWords s).flatten = (s.filter isAlphanumeric).map lowerChar := by
  rw [smallWords, ← List.map_flatten, flatten_words]

/-- The words of a text are its alphanumeric characters, cut where a character opens a word, and no
    other list of words is. Snake case puts one underscore in each place between two words, and
    else consists of the same characters in their small forms. -/
theorem words_lossless (s : List Char) :
    IsCut s (words s) ∧ (∀ ws, IsCut s ws → ws = words s) ∧
    WellSeparated '_' (snakeCase s) ∧
    (snakeCase s).filter (· ≠ '_') = (s.filter isAlphanumeric).map lowerChar := by
  refine ⟨isCut_words s, fun _ => IsCut.eq_words, ?_, ?_⟩
  · exact wellSeparated_intercalate fun l hl =>
      ⟨ne_nil_of_mem_smallWords hl, underscore_not_mem_smallWords hl⟩
  · rw [← flatten_smallWords]
    exact filter_intercalate fun l => underscore_not_mem_smallWords

/-- An acronym, a separator, a digit and a letter without case. -/
theorem words_lossless_httpServer :
    IsCut "HTTPServer--v2Ka\u4E2D".toList
      ["HTTP".toList, "Server".toList, "v2".toList, "Ka\u4E2D".toList] ∧
    snakeCase "HTTPServer--v2Ka\u4E2D".toList = "http_server_v2_ka\u4E2D".toList ∧
    WellSeparated '_' "http_server_v2_ka\u4E2D".toList := by
  have hwords : words "HTTPServer--v2Ka\u4E2D".toList
      = ["HTTP".toList, "Server".toList, "v2".toList, "Ka\u4E2D".toList] := by
    decide +kernel
  have hsnake : snakeCase "HTTPServer--v2Ka\u4E2D".toList = "http_server_v2_ka\u4E2D".toList := by
    decide +kernel
  obtain ⟨hcut, -, hseparated, -⟩ := words_lossless "HTTPServer--v2Ka\u4E2D".toList
  exact ⟨hwords ▸ hcut, hsnake, hsnake ▸ hseparated⟩

end SampleTypes.Naming
