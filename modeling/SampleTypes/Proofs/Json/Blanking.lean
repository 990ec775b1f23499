import SampleTypes.Json.Relaxed
import SampleTypes.Proofs.Json.Layout

set_option autoImplicit false

/-! # What becomes of gaps and tokens

`relax` passes over a source twice, once for comments and once for commas. Between two tokens the
state of both passes is one octet (`relaxFrom`), and inside a string there is none (`relaxText`).
For gaps, scalars and keys this module says what the two passes make of them, and which source a
given result comes from. -/

namespace SampleTypes.Json

/-- What is left of a source between two tokens, relaxed. `before` is the last octet in front of
    it that is no blank. -/
def relaxFrom (before : Option UInt8) (s : Bytes) : Bytes :=
  blankCommas (.plain before) (blankComments .plain s)

/-- What is left of a source inside a string, relaxed. -/
def relaxText (s : Bytes) : Bytes :=
  blankCommas .text (blankComments .text s)

/-- What is left of a source behind the octet `b`, which begins a token, relaxed. -/
def relaxBehind (b : UInt8) (s : Bytes) : Bytes :=
  if b = Octet.quote then relaxText s else relaxFrom (some b) s

/-! ## Comments -/

theorem isBlank_blankOctet (b : UInt8) : Octet.isBlank (blankOctet b) = true := by
  unfold blankOctet
  split
  · next h => rcases h with rfl | rfl <;> decide
  · decide

theorem isBlank_map_blankOctet (s : Bytes) : ∀ b ∈ s.map blankOctet, Octet.isBlank b = true :=
  List.forall_mem_map.2 fun b _ => isBlank_blankOctet b

theorem blankComments_blank {b : UInt8} (h : Octet.isBlank b = true) (r : Bytes) :
    blankComments .plain (b :: r) = b :: blankComments .plain r := by
  rcases Octet.eq_of_isBlank h with rfl | rfl | rfl | rfl <;> rfl

/-- What ends with a line ends no sooner. -/
theorem blankComments_line {body : Bytes} (h : Octet.newline ∉ body) (r : Bytes) :
    blankComments .line (body ++ Octet.newline :: r) =
      body.map blankOctet ++ Octet.newline :: blankComments .plain r := by
  induction body with
  | nil => rfl
  | cons b body ih =>
    rw [List.mem_cons, not_or] at h
    rw [List.cons_append, blankComments, if_neg (Ne.symm h.1), ih h.2]
    rfl

theorem blankComments_line_end {body : Bytes} (h : Octet.newline ∉ body) :
    blankComments .line body = body.map blankOctet := by
  induction body with
  | nil => rfl
  | cons b body ih =>
    rw [List.mem_cons, not_or] at h
    rw [blankComments, if_neg (Ne.symm h.1), ih h.2]
    rfl

/-- No block comment ends in front of the body's second octet. -/
theorem not_closes_in_body {b : UInt8} {body : Bytes}
    (h : ¬ [Octet.star, Octet.slash] <:+: b :: body) (r : Bytes) :
    ¬ (b = Octet.star ∧ (body ++ Octet.star :: r).head? = some Octet.slash) := by
  rintro ⟨rfl, hhead⟩
  cases body with
  | nil => exact absurd (Option.some.inj hhead) (by decide)
  | cons c body =>
    cases hhead
    exact h ⟨[], body, rfl⟩

theorem blankComments_block {body : Bytes} (h : ¬ [Octet.star, Octet.slash] <:+: body)
    (r : Bytes) :
    blankComments .block (body ++ Octet.star :: Octet.slash :: r) =
      body.map blankOctet ++ Octet.space :: Octet.space :: blankComments .plain r := by
  induction body with
  | nil => rfl
  | cons b body ih =>
    rw [List.cons_append, blankComments, if_neg (not_closes_in_body h _),
      ih (fun hsub => h (List.IsInfix.trans hsub (List.suffix_cons b body).isInfix))]
    rfl

theorem closesComment_append (body r : Bytes) :
    closesComment (body ++ Octet.star :: Octet.slash :: r) = true := by
  induction body with
  | nil => rfl
  | cons b body ih => rw [List.cons_append, closesComment, ih, Bool.or_true]

/-- Where a block comment ends, it ends at the first star with a slash behind it. -/
theorem exists_body_of_closesComment {s : Bytes} (h : closesComment s = true) :
    ∃ body r, s = body ++ Octet.star :: Octet.slash :: r ∧
      ¬ [Octet.star, Octet.slash] <:+: body := by
  induction s with
  | nil => cases h
  | cons b s ih =>
    by_cases hend : b = Octet.star ∧ s.head? = some Octet.slash
    · obtain ⟨rfl, hhead⟩ := hend
      obtain ⟨r, rfl⟩ := List.head?_eq_some_iff.mp hhead
      exact ⟨[], r, rfl, by simp⟩
    · rw [closesComment, Bool.or_eq_true, Bool.and_eq_true, beq_iff_eq, beq_iff_eq] at h
      obtain ⟨body, r, rfl, hbody⟩ := ih (h.resolve_left hend)
      refine ⟨b :: body, r, rfl, ?_⟩
      intro hsub
      rcases List.infix_cons_iff.mp hsub with hfront | hsub
      · obtain ⟨rest, hrest⟩ := hfront
        obtain ⟨rfl, hbody'⟩ := List.cons.inj hrest
        apply hend
        rw [← hbody']
        exact ⟨rfl, rfl⟩
      · exact hbody hsub

/-! ## Gaps -/

/-- What becomes of a piece between two tokens. -/
def Filler.blanked : Filler → Bytes
  | .blank b _ => [b]
  | .line body _ _ => Octet.space :: Octet.space :: (body.map blankOctet ++ [Octet.newline])
  | .block body _ =>
    Octet.space :: Octet.space :: (body.map blankOctet ++ [Octet.space, Octet.space])

/-- What becomes of all that stands between two tokens. -/
def Gap.blanked (g : Gap) : Bytes := g.flatMap Filler.blanked

theorem Filler.isBlank_blanked (f : Filler) : ∀ b ∈ f.blanked, Octet.isBlank b = true := by
  intro b hb
  cases f with
  | blank c hc =>
    rw [Filler.blanked, List.mem_singleton] at hb
    exact hb ▸ hc
  | line body h kept =>
    simp only [Filler.blanked, List.mem_cons, List.mem_append, List.not_mem_nil, or_false] at hb
    rcases hb with rfl | rfl | hb | rfl
    · decide
    · decide
    · exact isBlank_map_blankOctet body b hb
    · decide
  | block body h =>
    simp only [Filler.blanked, List.mem_cons, List.mem_append, List.not_mem_nil, or_false] at hb
    rcases hb with rfl | rfl | hb | rfl | rfl
    · decide
    · decide
    · exact isBlank_map_blankOctet body b hb
    · decide
    · decide

theorem writesBlanks_blanked : WritesBlanks Gap.blanked [Octet.space] where
  gap := by
    intro g b hb
    obtain ⟨f, -, hb⟩ := List.mem_flatMap.mp hb
    exact f.isBlank_blanked b hb
  comma := List.forall_mem_singleton.mpr (by decide)

theorem blankComments_filler (f : Filler) (r : Bytes) :
    blankComments .plain (f.text ++ r) = f.blanked ++ blankComments .plain r := by
  cases f with
  | blank b h => exact blankComments_blank h r
  | line body h kept =>
    simp only [Filler.text, Filler.blanked, List.cons_append, List.append_assoc, List.nil_append]
    rw [← blankComments_line h r]
    rfl
  | block body h =>
    have hcloses : closesComment (body ++ Octet.star :: Octet.slash :: r) = true :=
      closesComment_append body r
    simp only [Filler.text, Filler.blanked, List.cons_append, List.append_assoc, List.nil_append]
    rw [← blankComments_block h r, blankComments, if_neg (by decide), if_neg (by simp; decide),
      if_pos ⟨rfl, rfl, hcloses⟩]
    rfl

theorem blankCommas_blanks (before : Option UInt8) {blanks : Bytes}
    (h : ∀ b ∈ blanks, Octet.isBlank b = true) (r : Bytes) :
    blankCommas (.plain before) (blanks ++ r) = blanks ++ blankCommas (.plain before) r := by
  induction blanks with
  | nil => rfl
  | cons b blanks ih =>
    rw [List.forall_mem_cons] at h
    rw [List.cons_append, blankCommas, if_pos h.1, ih h.2, List.cons_append]

theorem blankComments_gap (g : Gap) (r : Bytes) :
    blankComments .plain (g.text ++ r) = g.blanked ++ blankComments .plain r := by
  induction g with
  | nil => rfl
  | cons f g ih =>
    rw [Gap.text, Gap.blanked, List.flatMap_cons, List.flatMap_cons, List.append_assoc,
      blankComments_filler, List.append_assoc]
    exact congrArg _ ih

theorem relaxFrom_gap (before : Option UInt8) (g : Gap) (r : Bytes) :
    relaxFrom before (g.text ++ r) = g.blanked ++ relaxFrom before r := by
  rw [relaxFrom, blankComments_gap, blankCommas_blanks before (writesBlanks_blanked.gap g)]
  rfl

/-! ## Punctuation -/

/-- An octet that begins neither a string nor a comment. -/
theorem blankComments_cons {b : UInt8} (hquote : b ≠ Octet.quote) (hslash : b ≠ Octet.slash)
    (r : Bytes) : blankComments .plain (b :: r) = b :: blankComments .plain r := by
  rw [blankComments, if_neg hquote, if_neg (fun h => hslash h.1), if_neg (fun h => hslash h.1)]

theorem relaxFrom_quote (before : Option UInt8) (r : Bytes) :
    relaxFrom before (Octet.quote :: r) = Octet.quote :: relaxText r := by
  rw [relaxFrom, blankComments, if_pos rfl, blankCommas, if_neg (by decide), if_pos rfl]
  rfl

theorem relaxFrom_cons (before : Option UInt8) {b : UInt8} (hblank : Octet.isBlank b = false)
    (hquote : b ≠ Octet.quote) (hslash : b ≠ Octet.slash) (hcomma : b ≠ Octet.comma) (r : Bytes) :
    relaxFrom before (b :: r) = b :: relaxFrom (some b) r := by
  rw [relaxFrom, blankComments_cons hquote hslash, blankCommas,
    if_neg (by rw [hblank]; decide), if_neg hquote, if_neg (fun h => hcomma h.1)]
  rfl

/-- A comma behind which a value or a key follows. -/
theorem relaxFrom_comma (before : Option UInt8) {r : Bytes}
    (h : closesNext (blankComments .plain r) = false) :
    relaxFrom before (Octet.comma :: r) = Octet.comma :: relaxFrom (some Octet.comma) r := by
  rw [relaxFrom, blankComments_cons (by decide) (by decide), blankCommas, if_neg (by decide),
    if_neg (by decide), if_neg (by rw [h]; simp)]
  rfl

/-- A comma behind a last element. -/
theorem relaxFrom_trailing {before : Option UInt8} (hbefore : endsElement before = true)
    {r : Bytes} (h : closesNext (blankComments .plain r) = true) :
    relaxFrom before (Octet.comma :: r) = Octet.space :: relaxFrom (some Octet.comma) r := by
  rw [relaxFrom, blankComments_cons (by decide) (by decide), blankCommas, if_neg (by decide),
    if_neg (by decide), if_pos ⟨rfl, hbefore, h⟩]
  rfl

/-- Whether an array or an object closes behind a gap shows in the octet that follows. -/
theorem closesNext_gap (g : Gap) {b : UInt8} (hblank : Octet.isBlank b = false)
    (hslash : b ≠ Octet.slash) (r : Bytes) :
    closesNext (blankComments .plain (g.text ++ b :: r)) =
      (b == Octet.closeBracket || b == Octet.closeBrace) := by
  have hkept : ∃ more, blankComments .plain (b :: r) = b :: more := by
    by_cases hquote : b = Octet.quote
    · exact ⟨_, by rw [blankComments, if_pos hquote]⟩
    · exact ⟨_, blankComments_cons hquote hslash r⟩
  obtain ⟨more, hmore⟩ := hkept
  rw [blankComments_gap, hmore, closesNext,
    skipBlanks_append_cons (writesBlanks_blanked.gap g) hblank]

/-- The octets that close an array or an object. -/
inductive Closes : UInt8 → Prop where
  | bracket : Closes Octet.closeBracket
  | brace : Closes Octet.closeBrace

theorem Closes.not_blank {b : UInt8} (h : Closes b) : Octet.isBlank b = false := by
  cases h <;> decide

theorem Closes.not_startsValue {b : UInt8} (h : Closes b) : Octet.startsValue b = false := by
  cases h <;> decide

theorem Closes.relaxFrom_cons {b : UInt8} (h : Closes b) (before : Option UInt8) (r : Bytes) :
    relaxFrom before (b :: r) = b :: relaxFrom (some b) r := by
  cases h <;> exact Json.relaxFrom_cons before (by decide) (by decide) (by decide) (by decide) r

/-- A closing keeps its bracket, and its comma turns into a space. -/
theorem Closing.relaxFrom (c : Closing) {before : Option UInt8}
    (hbefore : endsElement before = true) {b : UInt8} (hb : Closes b) (r : Bytes) :
    relaxFrom before (c.write Gap.text [Octet.comma] ++ b :: r) =
      c.write Gap.blanked [Octet.space] ++ b :: relaxFrom (some b) r := by
  obtain ⟨after, comma⟩ := c
  cases comma with
  | none =>
    simp only [Closing.write, List.append_nil]
    rw [relaxFrom_gap, hb.relaxFrom_cons]
  | some gap =>
    have hcloses : closesNext (blankComments .plain (gap.text ++ b :: r)) = true := by
      cases hb with
      | bracket => rw [closesNext_gap gap (by decide) (by decide)]; rfl
      | brace => rw [closesNext_gap gap (by decide) (by decide)]; rfl
    simp only [Closing.write, List.append_assoc, List.cons_append, List.nil_append]
    rw [relaxFrom_gap, relaxFrom_trailing hbefore hcloses, relaxFrom_gap, hb.relaxFrom_cons]

/-! ## Strings and words -/

theorem relaxText_body {body : Bytes} (h : TextBody body) (r : Bytes) :
    relaxText (body ++ r) = body ++ relaxFrom (some Octet.quote) r := by
  unfold relaxText
  induction h with
  | close =>
    rw [List.singleton_append, blankComments, if_neg (by decide), if_pos rfl, blankCommas,
      if_neg (by decide), if_pos rfl]
    rfl
  | plain hquote hslash hw ih =>
    rw [List.cons_append, blankComments, if_neg hslash, if_neg hquote, blankCommas,
      if_neg hslash, if_neg hquote, ih, List.cons_append]
  | escape b hw ih =>
    rw [List.cons_append, List.cons_append, blankComments, if_pos rfl, blankComments,
      blankCommas, if_pos rfl, blankCommas, ih, List.cons_append, List.cons_append]

theorem Octet.ne_of_isWord {b c : UInt8} (hb : isWord b = true) (hc : isWord c = false) :
    b ≠ c := by
  rintro rfl
  rw [hb] at hc
  cases hc

theorem relaxFrom_word (before : Option UInt8) {b : UInt8} (h : Octet.isWord b = true)
    (r : Bytes) : relaxFrom before (b :: r) = b :: relaxFrom (some b) r :=
  relaxFrom_cons before (Octet.not_blank_of_startsValue (Octet.startsValue_of_isWord h))
    (Octet.ne_of_isWord h (by decide)) (Octet.ne_of_isWord h (by decide))
    (Octet.ne_of_isWord h (by decide)) r

theorem endsElement_word {b : UInt8} (h : Octet.isWord b = true) :
    endsElement (some b) = true := by
  have hbracket : b ≠ Octet.openBracket := Octet.ne_of_isWord h (by decide)
  have hbrace : b ≠ Octet.openBrace := Octet.ne_of_isWord h (by decide)
  have hcomma : b ≠ Octet.comma := Octet.ne_of_isWord h (by decide)
  simp [endsElement, hbracket, hbrace, hcomma]

/-- A scalar stays as it is, and a comma may follow it. -/
theorem ScalarShape.exists_relaxFrom {b : UInt8} {more : Bytes} (h : ScalarShape b more) :
    ∃ last, endsElement (some last) = true ∧ ∀ before r,
      relaxFrom before (b :: (more ++ r)) = b :: (more ++ relaxFrom (some last) r) := by
  cases h with
  | text hb hmore =>
    subst hb
    refine ⟨Octet.quote, by decide, ?_⟩
    intro before r
    rw [relaxFrom_quote, relaxText_body hmore]
  | word hb hmore =>
    -- The last octet of the word is known where the word ends.
    suffices hword : ∃ last, Octet.isWord last = true ∧ ∀ before r,
        relaxFrom before (b :: (more ++ r)) = b :: (more ++ relaxFrom (some last) r) by
      obtain ⟨last, hlast, hrelax⟩ := hword
      exact ⟨last, endsElement_word hlast, hrelax⟩
    induction more generalizing b with
    | nil => exact ⟨b, hb, fun before r => relaxFrom_word before hb r⟩
    | cons c more ih =>
      rw [List.forall_mem_cons] at hmore
      obtain ⟨last, hlast, hrelax⟩ := ih hmore.1 hmore.2
      refine ⟨last, hlast, ?_⟩
      intro before r
      rw [relaxFrom_word before hb, List.cons_append, hrelax, List.cons_append]

/-! ## Where a relaxed source comes from -/

/-- An octet that is no blank is kept, or a space stands in its place. -/
theorem relaxFrom_head (before : Option UInt8) {b : UInt8} (hblank : Octet.isBlank b = false)
    (s : Bytes) : relaxFrom before (b :: s) = b :: relaxBehind b s ∨
      ∃ r, relaxFrom before (b :: s) = Octet.space :: r := by
  by_cases hquote : b = Octet.quote
  · subst hquote
    exact Or.inl (relaxFrom_quote before s)
  · have hspace : ∀ r, relaxFrom before (b :: s) = blankCommas (.plain before)
        (Octet.space :: r) → ∃ r, relaxFrom before (b :: s) = Octet.space :: r :=
      fun r h => ⟨_, h.trans (by rw [blankCommas, if_pos (by decide)])⟩
    by_cases hline : b = Octet.slash ∧ s.head? = some Octet.slash
    · refine Or.inr (hspace (blankComments .line s) ?_)
      rw [relaxFrom, blankComments, if_neg hquote, if_pos hline]
    · by_cases hblock : b = Octet.slash ∧ s.head? = some Octet.star ∧ closesComment s.tail
      · refine Or.inr (hspace (blankComments .opening s) ?_)
        rw [relaxFrom, blankComments, if_neg hquote, if_neg hline, if_pos hblock]
      · rw [relaxFrom, blankComments, if_neg hquote, if_neg hline, if_neg hblock, blankCommas,
          if_neg (by rw [hblank]; decide), if_neg hquote]
        split
        · exact Or.inr ⟨_, rfl⟩
        · rw [relaxBehind, if_neg hquote]
          exact Or.inl rfl

/-- A first octet that is no blank was there before. -/
theorem cons_of_relaxFrom {before : Option UInt8} {s r : Bytes} {b : UInt8}
    (h : relaxFrom before s = b :: r) (hblank : Octet.isBlank b = false) :
    ∃ more, s = b :: more ∧ r = relaxBehind b more := by
  cases s with
  | nil => cases h
  | cons c s =>
    have hspace : b ≠ Octet.space := by
      rintro rfl
      cases hblank
    cases hc : Octet.isBlank c with
    | true =>
      rw [relaxFrom, blankComments_blank hc, blankCommas, if_pos hc] at h
      obtain ⟨rfl, -⟩ := List.cons.inj h
      rw [hc] at hblank
      cases hblank
    | false =>
      rcases relaxFrom_head before hc s with hkept | ⟨r', hr'⟩
      · rw [hkept] at h
        obtain ⟨rfl, rfl⟩ := List.cons.inj h
        exact ⟨s, rfl, rfl⟩
      · rw [hr'] at h
        exact absurd (List.cons.inj h).1.symm hspace

theorem relaxText_cons (b : UInt8) (s : Bytes) : relaxText (b :: s) = b ::
    if b = Octet.backslash then blankCommas .escaped (blankComments .escaped s)
    else if b = Octet.quote then relaxFrom (some b) s
    else relaxText s := by
  rw [relaxText, blankComments]
  by_cases hslash : b = Octet.backslash
  · rw [if_pos hslash, blankCommas, if_pos hslash, if_pos hslash]
  · by_cases hquote : b = Octet.quote
    · rw [if_neg hslash, if_pos hquote, blankCommas, if_neg hslash, if_pos hquote,
        if_neg hslash, if_pos hquote]
      rfl
    · rw [if_neg hslash, if_neg hquote, blankCommas, if_neg hslash, if_neg hquote,
        if_neg hslash, if_neg hquote]
      rfl

theorem text_of_relaxText {body : Bytes} (h : TextBody body) {s r : Bytes}
    (hs : relaxText s = body ++ r) :
    ∃ more, s = body ++ more ∧ r = relaxFrom (some Octet.quote) more := by
  induction h generalizing s with
  | close =>
    match s, hs with
    | b :: s, hs =>
      rw [relaxText_cons] at hs
      obtain ⟨rfl, hmore⟩ := List.cons.inj hs
      rw [if_neg (by decide), if_pos rfl] at hmore
      exact ⟨s, rfl, hmore.symm⟩
  | plain hquote hslash hw ih =>
    match s, hs with
    | b :: s, hs =>
      rw [relaxText_cons] at hs
      obtain ⟨rfl, hmore⟩ := List.cons.inj hs
      rw [if_neg hslash, if_neg hquote] at hmore
      obtain ⟨more, rfl, hr⟩ := ih hmore
      exact ⟨more, rfl, hr⟩
  | escape c hw ih =>
    match s, hs with
    | [b], hs =>
      rw [relaxText_cons] at hs
      obtain ⟨rfl, hmore⟩ := List.cons.inj hs
      rw [if_pos rfl] at hmore
      cases hmore
    | b :: d :: s, hs =>
      rw [relaxText_cons] at hs
      obtain ⟨rfl, hmore⟩ := List.cons.inj hs
      rw [if_pos rfl, blankComments, blankCommas] at hmore
      obtain ⟨rfl, hrest⟩ := List.cons.inj hmore
      obtain ⟨more, rfl, hr⟩ := ih hrest
      exact ⟨more, rfl, hr⟩

/-- What is left of a scalar behind its first octet was there before. -/
theorem ScalarShape.exists_of_relaxBehind {b : UInt8} {text : Bytes} (h : ScalarShape b text)
    {s r : Bytes} (hs : relaxBehind b s = text ++ r) :
    ∃ more last, s = text ++ more ∧ endsElement (some last) = true ∧
      r = relaxFrom (some last) more := by
  cases h with
  | text hb htext =>
    rw [relaxBehind, if_pos hb] at hs
    obtain ⟨more, rfl, hr⟩ := text_of_relaxText htext hs
    exact ⟨more, Octet.quote, rfl, by decide, hr⟩
  | word hb htext =>
    suffices hword : ∃ more last, s = text ++ more ∧ Octet.isWord last = true ∧
        r = relaxFrom (some last) more by
      obtain ⟨more, last, hsplit, hlast, hr⟩ := hword
      exact ⟨more, last, hsplit, endsElement_word hlast, hr⟩
    rw [relaxBehind, if_neg (Octet.ne_of_isWord hb (by decide))] at hs
    induction text generalizing b s with
    | nil => exact ⟨s, b, rfl, hb, hs.symm⟩
    | cons c text ih =>
      rw [List.forall_mem_cons] at htext
      have hc : Octet.isBlank c = false :=
        Octet.not_blank_of_startsValue (Octet.startsValue_of_isWord htext.1)
      obtain ⟨s', rfl, hbehind⟩ := cons_of_relaxFrom hs hc
      rw [relaxBehind, if_neg (Octet.ne_of_isWord htext.1 (by decide))] at hbehind
      obtain ⟨more, last, rfl, hlast, hr⟩ := ih hbehind.symm htext.1 htext.2
      exact ⟨more, last, rfl, hlast, hr⟩

/-! ## The gap in front of a token -/

/-- What may stand behind a gap that goes on as far as it can: nothing but a comment that the end
    of the source ends, or an octet that begins no comment. -/
inductive BehindGap : Bytes → Prop where
  | ending (tail : EndComment) : BehindGap tail.text
  | token {b : UInt8} {more rest : Bytes} (hblank : Octet.isBlank b = false)
      (hkept : blankComments .plain (b :: more) = b :: rest) : BehindGap (b :: more)

/-- Every source begins with a gap that goes on as far as it can. -/
theorem exists_gap (s : Bytes) : ∃ (g : Gap) (s' : Bytes), s = g.text ++ s' ∧ BehindGap s' := by
  induction hlength : s.length using Nat.strong_induction_on generalizing s with
  | _ n ih =>
    -- One piece of the gap, and the rest of the gap behind it.
    have hstep : ∀ (f : Filler) (r : Bytes), s = f.text ++ r → r.length < n →
        ∃ (g : Gap) (s' : Bytes), s = g.text ++ s' ∧ BehindGap s' := by
      rintro f r rfl hr
      obtain ⟨g, s', rfl, hs'⟩ := ih r.length hr r rfl
      exact ⟨f :: g, s', (List.append_assoc f.text g.text s').symm, hs'⟩
    match s, hlength with
    | [], _ => exact ⟨[], [], rfl, .ending none⟩
    | b :: s, hlength =>
      rw [List.length_cons] at hlength
      cases hblank : Octet.isBlank b with
      | true => exact hstep (.blank b hblank) s rfl (by omega)
      | false =>
        by_cases hline : b = Octet.slash ∧ s.head? = some Octet.slash
        · obtain ⟨rfl, hhead⟩ := hline
          obtain ⟨s, rfl⟩ := List.head?_eq_some_iff.mp hhead
          by_cases hend : Octet.newline ∈ s
          · obtain ⟨body, r, rfl, hbody⟩ := List.eq_append_cons_of_mem hend
            refine hstep (.line body hbody true) r ?_ ?_
            · simp [Filler.text]
            · simp only [List.length_cons, List.length_append] at hlength
              omega
          · exact ⟨[], _, rfl, .ending (some ⟨s, hend⟩)⟩
        · by_cases hblock : b = Octet.slash ∧ s.head? = some Octet.star ∧ closesComment s.tail
          · obtain ⟨rfl, hhead, hcloses⟩ := hblock
            obtain ⟨s, rfl⟩ := List.head?_eq_some_iff.mp hhead
            obtain ⟨body, r, hsplit, hbody⟩ := exists_body_of_closesComment hcloses
            rw [List.tail_cons] at hsplit
            subst hsplit
            refine hstep (.block body hbody) r ?_ ?_
            · simp [Filler.text]
            · simp only [List.length_cons, List.length_append] at hlength
              omega
          · refine ⟨[], b :: s, rfl, ?_⟩
            by_cases hquote : b = Octet.quote
            · exact .token hblank (by rw [blankComments, if_pos hquote])
            · exact .token hblank
                (by rw [blankComments, if_neg hquote, if_neg hline, if_neg hblock])

theorem blankComments_endComment (tail : EndComment) :
    ∀ b ∈ blankComments .plain tail.text, Octet.isBlank b = true := by
  intro b hb
  cases tail with
  | none => cases hb
  | some body =>
    have hline : blankComments .plain (EndComment.text (some body)) =
        Octet.space :: Octet.space :: body.val.map blankOctet := by
      rw [← blankComments_line_end body.property]
      rfl
    rw [hline, List.mem_cons, List.mem_cons] at hb
    rcases hb with rfl | rfl | hb
    · decide
    · decide
    · exact isBlank_map_blankOctet body b hb

/-- What `relax` makes of a source, up to the first token of the result. -/
inductive Upcoming (before : Option UInt8) (s : Bytes) : Bytes → Prop where
  /-- There is no token. -/
  | ending (g : Gap) (tail : EndComment) (hs : s = g.text ++ tail.text) : Upcoming before s []
  /-- The first token of the source itself. -/
  | token (g : Gap) {b : UInt8} {more : Bytes} (hs : s = g.text ++ b :: more) :
      Upcoming before s (b :: relaxBehind b more)
  /-- The closing bracket behind a comma that is blanked. -/
  | closing (g₁ g₂ : Gap) {b : UInt8} {more : Bytes} (hbefore : endsElement before = true)
      (hb : Closes b) (hs : s = g₁.text ++ Octet.comma :: (g₂.text ++ b :: more)) :
      Upcoming before s (b :: relaxFrom (some b) more)

/-- If an array or object closes next, it does so behind a gap. -/
theorem exists_gap_of_closesNext {s : Bytes} (h : closesNext (blankComments .plain s) = true) :
    ∃ (g : Gap) (b : UInt8) (more : Bytes), s = g.text ++ b :: more ∧ Closes b := by
  obtain ⟨g, s', rfl, hs'⟩ := exists_gap s
  rw [blankComments_gap, closesNext, skipBlanks_append (writesBlanks_blanked.gap g)] at h
  cases hs' with
  | ending tail =>
    rw [← List.append_nil (blankComments .plain tail.text),
      skipBlanks_append (blankComments_endComment tail)] at h
    cases h
  | token hblank hkept =>
    rw [hkept, skipBlanks_cons_of_not_blank hblank] at h
    simp only [Bool.or_eq_true, beq_iff_eq] at h
    rcases h with rfl | rfl
    · exact ⟨g, _, _, rfl, .bracket⟩
    · exact ⟨g, _, _, rfl, .brace⟩

theorem upcoming (before : Option UInt8) (s : Bytes) :
    Upcoming before s (skipBlanks (relaxFrom before s)) := by
  obtain ⟨g, s', rfl, hs'⟩ := exists_gap s
  rw [relaxFrom_gap, skipBlanks_append (writesBlanks_blanked.gap g)]
  cases hs' with
  | ending tail =>
    rw [relaxFrom, ← List.append_nil (blankComments .plain tail.text),
      blankCommas_blanks before (blankComments_endComment tail),
      skipBlanks_append (blankComments_endComment tail)]
    exact .ending g tail rfl
  | @token b more rest hblank hkept =>
    by_cases htrailing : b = Octet.comma ∧ endsElement before = true ∧
        closesNext (blankComments .plain more) = true
    · -- The comma is blanked, and the bracket behind the next gap comes first.
      obtain ⟨rfl, hbefore, hcloses⟩ := htrailing
      rw [relaxFrom_trailing hbefore hcloses]
      obtain ⟨g', b, more, rfl, hb⟩ := exists_gap_of_closesNext hcloses
      rw [relaxFrom_gap, hb.relaxFrom_cons, skipBlanks_cons_of_blank (by decide),
        skipBlanks_append_cons (writesBlanks_blanked.gap g') hb.not_blank]
      exact .closing g g' hbefore hb rfl
    · have hfirst : relaxFrom before (b :: more) = b :: relaxBehind b more := by
        rcases relaxFrom_head before hblank more with hhead | ⟨r, hr⟩
        · exact hhead
        · -- A space in place of `b` means a comment or a comma, and `b` begins neither.
          have hspace : b ≠ Octet.space := by
            rintro rfl
            cases hblank
          rw [relaxFrom, hkept, blankCommas, if_neg (by rw [hblank]; decide)] at hr
          split at hr
          · exact absurd (List.cons.inj hr).1 hspace
          · split at hr
            · next hcomma =>
              obtain ⟨rfl, hbefore, hcloses⟩ := hcomma
              rw [blankComments_cons (by decide) (by decide)] at hkept
              rw [← (List.cons.inj hkept).2] at hcloses
              exact absurd ⟨rfl, hbefore, hcloses⟩ htrailing
            · exact absurd (List.cons.inj hr).1 hspace
      rw [hfirst, skipBlanks_cons_of_not_blank hblank]
      exact .token g rfl

/-- The first token of a relaxed source was there before, behind a gap, unless it closes an array
    or an object and a comma may stand in front of it. -/
theorem exists_gap_of_relaxFrom {before : Option UInt8} {s r : Bytes} {b : UInt8}
    (h : skipBlanks (relaxFrom before s) = b :: r)
    (hb : ¬ Closes b ∨ endsElement before = false) :
    ∃ (g : Gap) (more : Bytes), s = g.text ++ b :: more ∧ r = relaxBehind b more := by
  have hup := upcoming before s
  rw [h] at hup
  cases hup with
  | token g hs => exact ⟨g, _, hs, rfl⟩
  | closing g₁ g₂ hbefore hclose hs =>
    rcases hb with hb | hb
    · exact absurd hclose hb
    · rw [hbefore] at hb
      cases hb

theorem Closes.relaxBehind {b : UInt8} (h : Closes b) (s : Bytes) :
    relaxBehind b s = relaxFrom (some b) s := by
  cases h <;> rfl

/-- An octet that closes an array or an object was there before, behind a closing. -/
theorem exists_closing_of_relaxFrom {before : Option UInt8} {s r : Bytes} {b : UInt8}
    (h : skipBlanks (relaxFrom before s) = b :: r) (hb : Closes b) :
    ∃ (c : Closing) (more : Bytes), s = c.write Gap.text [Octet.comma] ++ b :: more ∧
      r = relaxFrom (some b) more := by
  have hup := upcoming before s
  rw [h] at hup
  cases hup with
  | token g hs =>
    refine ⟨⟨g, none⟩, _, ?_, hb.relaxBehind _⟩
    rw [hs, Closing.write, List.append_nil]
  | closing g₁ g₂ hbefore hclose hs =>
    refine ⟨⟨g₁, some g₂⟩, _, ?_, rfl⟩
    simp [hs, Closing.write]

end SampleTypes.Json
