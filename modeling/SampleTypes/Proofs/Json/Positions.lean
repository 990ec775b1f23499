import SampleTypes.Proofs.Json.Pieces

set_option autoImplicit false

/-! # What relaxing changes

Relaxing a source goes by its pieces (`Pieces.relaxed`): a mark and a comment turn into blanks, a
comma that a closing bracket follows may turn into a space, and every other piece stays as it is.
So each octet keeps its place, only spaces are new, and none of them takes the place of a line
break. What comes out has no comments and no such commas, and relaxing it again changes nothing. -/

namespace SampleTypes.Json

/-! ## Octets in their places -/

/-- An octet is kept, or it is no line break and a space stands in its place. -/
def KeptOrBlank (b c : UInt8) : Prop :=
  c = b ∨ c = Octet.space ∧ b ≠ Octet.newline ∧ b ≠ Octet.carriageReturn

theorem KeptOrBlank.refl (b : UInt8) : KeptOrBlank b b := .inl rfl

theorem keptOrBlank_blankOctet (b : UInt8) : KeptOrBlank b (blankOctet b) := by
  unfold blankOctet
  split
  · exact .refl b
  · next h => exact .inr ⟨rfl, not_or.1 h⟩

/-- An octet other than a space is a kept one. -/
theorem KeptOrBlank.eq_of_ne {b c : UInt8} (h : KeptOrBlank b c) (hc : c ≠ Octet.space) : b = c :=
  h.elim Eq.symm fun hblank => absurd hblank.1 hc

/-- No mark of a comment comes about where octets turn into spaces. -/
theorem closesComment_of_keptOrBlank {s t : Bytes} (h : List.Forall₂ KeptOrBlank s t)
    (hcloses : closesComment t = true) : closesComment s = true := by
  induction h with
  | nil => exact hcloses
  | @cons b c s t hbc hrest ih =>
    rw [closesComment, Bool.or_eq_true, Bool.and_eq_true, beq_iff_eq, beq_iff_eq] at hcloses ⊢
    refine hcloses.imp ?_ ih
    rintro ⟨rfl, hhead⟩
    obtain ⟨t, rfl⟩ := List.head?_eq_some_iff.1 hhead
    obtain ⟨d, s, hd, -, rfl⟩ := List.forall₂_cons_right_iff.1 hrest
    exact ⟨hbc.eq_of_ne (by decide), congrArg some (hd.eq_of_ne (by decide))⟩

/-! ## Pieces that are relaxed -/

/-- Pieces of one octet each. -/
def Pieces.ofOctets (s : Bytes) : Pieces :=
  s.map .octet

namespace Pieces

theorem source_ofOctets (s : Bytes) : (ofOctets s).source = s := by
  induction s with
  | nil => rfl
  | cons b s ih => exact congrArg (b :: ·) ih

/-- The first octet that is neither a blank nor in a comment. -/
def significant? : Pieces → Option UInt8
  | [] => none
  | .octet b :: rest => if Octet.isBlank b then significant? rest else some b
  | .text _ :: _ => some Octet.quote
  | .comment _ :: rest => significant? rest
  | .mark :: rest => significant? rest

/-- Whether the next token closes an array or an object. -/
def closesAhead (ps : Pieces) : Bool :=
  ps.significant?.any fun b => b == Octet.closeBracket || b == Octet.closeBrace

/-- The pieces of a relaxed source. `before` is the last octet in front that is neither a blank nor
    in a comment. -/
def relaxed : (before : Option UInt8) → Pieces → Pieces
  | _, [] => []
  | before, .octet b :: rest =>
    if Octet.isBlank b then .octet b :: relaxed before rest
    else if b = Octet.comma ∧ endsElement before ∧ closesAhead rest then
      .octet Octet.space :: relaxed (some b) rest
    else .octet b :: relaxed (some b) rest
  | _, .text literal :: rest => .text literal :: relaxed (some Octet.quote) rest
  | before, .comment note :: rest => ofOctets (note.map blankOctet) ++ relaxed before rest
  | before, .mark :: rest => ofOctets (byteOrderMark.map blankOctet) ++ relaxed before rest

end Pieces

/-! ## Relaxing by pieces -/

/-- An octet stands for itself where the scan for comments goes by it. -/
theorem Piece.fits_octet_iff {b : UInt8} {rest : Bytes} : (Piece.octet b).Fits rest ↔
    b ≠ Octet.quote ∧ ¬ (b = Octet.slash ∧ rest.head? = some Octet.slash) ∧
      ¬ (b = Octet.slash ∧ rest.head? = some Octet.star ∧ closesComment rest.tail = true) := by
  constructor
  · intro h
    refine ⟨?_, ?_, ?_⟩
    · rintro rfl
      by_cases hclosed : ∃ w, w <+: rest ∧ TextBody w
      · obtain ⟨w, ⟨r, rfl⟩, hw⟩ := hclosed
        exact h (.text (Octet.quote :: w)) r (IsString.closed hw) rfl
      · refine h (.text (Octet.quote :: rest)) [] (IsString.unclosed fun w hw hbody => ?_)
          (List.append_nil _)
        exact hclosed ⟨w, hw, hbody⟩
    · rintro ⟨rfl, hhead⟩
      obtain ⟨s, rfl⟩ := List.head?_eq_some_iff.1 hhead
      by_cases hend : Octet.newline ∈ s
      · obtain ⟨body, r, rfl, hbody⟩ := List.eq_append_cons_of_mem hend
        refine h (.comment (Octet.slash :: Octet.slash :: body)) (Octet.newline :: r)
          (IsComment.line hbody ?_) rfl
        intro b hb
        exact (Option.some.inj hb).symm
      · refine h (.comment (Octet.slash :: Octet.slash :: s)) [] (IsComment.line hend ?_)
          (List.append_nil _)
        rintro b ⟨⟩
    · rintro ⟨rfl, hhead, hcloses⟩
      obtain ⟨s, rfl⟩ := List.head?_eq_some_iff.1 hhead
      obtain ⟨body, r, hsplit, hbody⟩ := exists_body_of_closesComment hcloses
      rw [List.tail_cons] at hsplit
      refine h (.comment (Octet.slash :: Octet.star :: (body ++ [Octet.star, Octet.slash]))) r
        (IsComment.block hbody) ?_
      simp [written, hsplit]
  · rintro ⟨hquote, hline, hblock⟩ p r hp heq
    cases p with
    | mark => exact hp
    | octet c => exact hp
    | text literal =>
      obtain ⟨body, rfl⟩ := IsString.exists_cons hp
      exact hquote (List.cons.inj heq).1.symm
    | comment note =>
      cases (hp : IsComment note r) with
      | line =>
        obtain ⟨rfl, rfl⟩ := List.cons.inj heq
        exact hline ⟨rfl, rfl⟩
      | block =>
        obtain ⟨rfl, rfl⟩ := List.cons.inj heq
        refine hblock ⟨rfl, rfl, ?_⟩
        simp [closesComment_append]

theorem Piece.fits_octet_of_ne {b : UInt8} (hquote : b ≠ Octet.quote) (hslash : b ≠ Octet.slash)
    (rest : Bytes) : (Piece.octet b).Fits rest :=
  fits_octet_iff.2 ⟨hquote, fun hline => hslash hline.1, fun hblock => hslash hblock.1⟩

theorem Piece.fits_octet_of_isBlank {b : UInt8} (h : Octet.isBlank b = true) (rest : Bytes) :
    (Piece.octet b).Fits rest := by
  have hne : ∀ c : UInt8, Octet.isBlank c = false → b ≠ c := by
    rintro c hc rfl
    rw [h] at hc
    cases hc
  exact fits_octet_of_ne (hne Octet.quote rfl) (hne Octet.slash rfl) rest

/-- An octet stands for itself if it does so in front of more octets than spaces. -/
theorem Piece.Fits.of_keptOrBlank {b : UInt8} {s t : Bytes} (h : (Piece.octet b).Fits s)
    (hst : List.Forall₂ KeptOrBlank s t) : (Piece.octet b).Fits t := by
  obtain ⟨hquote, hline, hblock⟩ := fits_octet_iff.1 h
  have hsame : ∀ c, c ≠ Octet.space → t.head? = some c →
      s.head? = some c ∧ List.Forall₂ KeptOrBlank s.tail t.tail := by
    intro c hc ht
    obtain ⟨t, rfl⟩ := List.head?_eq_some_iff.1 ht
    obtain ⟨d, s, hd, hrest, rfl⟩ := List.forall₂_cons_right_iff.1 hst
    exact ⟨congrArg some (hd.eq_of_ne hc), hrest⟩
  refine fits_octet_iff.2 ⟨hquote, ?_, ?_⟩
  · rintro ⟨hb, hslash⟩
    exact hline ⟨hb, (hsame Octet.slash (by decide) hslash).1⟩
  · rintro ⟨hb, hstar, hcloses⟩
    obtain ⟨hhead, hrest⟩ := hsame Octet.star (by decide) hstar
    exact hblock ⟨hb, hhead, closesComment_of_keptOrBlank hrest hcloses⟩

theorem IsString.of_keptOrBlank {literal s t : Bytes} (h : IsString literal s)
    (hst : List.Forall₂ KeptOrBlank s t) : IsString literal t := by
  cases h with
  | closed hbody => exact .closed hbody
  | unclosed hopen =>
    cases hst
    exact .unclosed hopen

theorem Piece.Fits.blankComments {b : UInt8} {rest : Bytes} (h : (Piece.octet b).Fits rest) :
    blankComments .plain (b :: rest) = b :: blankComments .plain rest := by
  obtain ⟨hquote, hline, hblock⟩ := Piece.fits_octet_iff.1 h
  rw [Json.blankComments, if_neg hquote, if_neg hline, if_neg hblock]

theorem IsComment.blankComments {note rest : Bytes} (h : IsComment note rest) :
    blankComments .plain (note ++ rest) = note.map blankOctet ++ blankComments .plain rest := by
  cases h with
  | @line body _ hbody hrest =>
    have hline : Json.blankComments .line (body ++ rest) =
        body.map blankOctet ++ Json.blankComments .plain rest := by
      cases rest with
      | nil =>
        rw [List.append_nil, blankComments_line_end hbody]
        exact (List.append_nil _).symm
      | cons b rest =>
        obtain rfl := hrest b rfl
        rw [blankComments_line hbody, blankComments_blank (by decide)]
    simp only [List.map_cons, List.cons_append]
    rw [← hline]
    rfl
  | @block body _ hbody =>
    have hmarks : (Octet.slash :: Octet.star :: (body ++ [Octet.star, Octet.slash])).map
        blankOctet = Filler.blanked (.block body hbody) := by
      simp only [List.map_cons, List.map_append, List.map_nil]
      rfl
    rw [hmarks]
    exact blankComments_filler (.block body hbody) rest

theorem IsComment.relaxFrom {note rest : Bytes} (h : IsComment note rest)
    (before : Option UInt8) :
    relaxFrom before (note ++ rest) = note.map blankOctet ++ relaxFrom before rest := by
  rw [Json.relaxFrom, h.blankComments, blankCommas_blanks before (isBlank_map_blankOctet note),
    Json.relaxFrom]

/-- A string without a closing quote is kept up to the end of the source. -/
theorem relaxText_unclosed {body : Bytes} (h : ∀ w, w <+: body → ¬ TextBody w) :
    relaxText body = body := by
  induction hlength : body.length using Nat.strong_induction_on generalizing body with
  | _ n ih =>
    match body with
    | [] => rfl
    | b :: s =>
      rw [List.length_cons] at hlength
      rw [relaxText_cons]
      by_cases hslash : b = Octet.backslash
      · subst hslash
        rw [if_pos rfl]
        match s with
        | [] => rfl
        | c :: s =>
          rw [List.length_cons] at hlength
          have hrest : relaxText s = s := by
            refine ih s.length (by omega) (fun w hw hbody => ?_) rfl
            exact h _ (by simpa using hw) (.escape c hbody)
          rw [blankComments, blankCommas]
          exact congrArg (fun r => Octet.backslash :: c :: r) hrest
      · by_cases hquote : b = Octet.quote
        · subst hquote
          exact absurd .close (h [Octet.quote] (by simp))
        · rw [if_neg hslash, if_neg hquote]
          refine congrArg (b :: ·) (ih s.length (by omega) (fun w hw hbody => ?_) rfl)
          exact h (b :: w) (by simpa using hw) (.plain hquote hslash hbody)

theorem IsString.relaxFrom {literal rest : Bytes} (h : IsString literal rest)
    (before : Option UInt8) :
    relaxFrom before (literal ++ rest) = literal ++ relaxFrom (some Octet.quote) rest := by
  cases h with
  | closed hbody =>
    rw [List.cons_append, relaxFrom_quote, relaxText_body hbody]
    rfl
  | unclosed hopen =>
    rw [List.append_nil, relaxFrom_quote, relaxText_unclosed hopen]
    exact (List.append_nil _).symm

namespace Pieces

/-- Which token comes next shows in the pieces as it does in the source without comments. -/
theorem closesNext_source {ps : Pieces} (h : ps.AreCut) :
    closesNext (blankComments .plain ps.source) = ps.closesAhead := by
  induction ps with
  | nil => rfl
  | cons p ps ih =>
    cases p with
    | mark => exact h.1.elim
    | octet b =>
      rw [source_cons, Piece.written, List.singleton_append, Piece.Fits.blankComments h.1,
        closesAhead, significant?]
      cases hb : Octet.isBlank b with
      | true =>
        rw [closesNext, skipBlanks_cons_of_blank hb, if_pos rfl]
        exact ih h.2
      | false =>
        rw [closesNext, skipBlanks_cons_of_not_blank hb]
        rfl
    | text literal =>
      obtain ⟨body, rfl⟩ := IsString.exists_cons h.1
      rw [source_cons, Piece.written, List.cons_append, blankComments, if_pos rfl, closesNext,
        skipBlanks_cons_of_not_blank (by decide)]
      rfl
    | comment note =>
      have hnote : IsComment note (source ps) := h.1
      rw [source_cons, Piece.written, hnote.blankComments, closesNext,
        skipBlanks_append (isBlank_map_blankOctet note)]
      exact ih h.2

/-- Relaxing a source is relaxing its pieces. -/
theorem source_relaxed {ps : Pieces} (h : ps.AreCut) (before : Option UInt8) :
    (ps.relaxed before).source = relaxFrom before ps.source := by
  induction ps generalizing before with
  | nil => rfl
  | cons p ps ih =>
    cases p with
    | mark => exact h.1.elim
    | octet b =>
      have hquote := (Piece.fits_octet_iff.1 h.1).1
      rw [source_cons, Piece.written, List.singleton_append, relaxFrom,
        Piece.Fits.blankComments h.1, blankCommas, closesNext_source h.2, relaxed, if_neg hquote]
      split
      · exact congrArg (b :: ·) (ih h.2 before)
      · split
        · exact congrArg (Octet.space :: ·) (ih h.2 (some b))
        · exact congrArg (b :: ·) (ih h.2 (some b))
    | text literal =>
      have hliteral : IsString literal (source ps) := h.1
      rw [source_cons, Piece.written, hliteral.relaxFrom, relaxed, source_cons, ih h.2]
      rfl
    | comment note =>
      have hnote : IsComment note (source ps) := h.1
      rw [source_cons, Piece.written, hnote.relaxFrom, relaxed, source_append, source_ofOctets,
        ih h.2]

/-! ## Pieces in their places -/

/-- Where the next token closes an array or an object, a closing bracket is the next octet that is
    neither a blank nor in a comment. -/
theorem exists_closes_of_closesAhead {ps : Pieces} (h : ps.closesAhead = true) :
    ∃ b, ps.significant? = some b ∧ Closes b := by
  obtain ⟨b, hb, hcloses⟩ := (Option.any_eq_true _ _).1 h
  rw [Bool.or_eq_true, beq_iff_eq, beq_iff_eq] at hcloses
  rcases hcloses with rfl | rfl
  · exact ⟨_, hb, .bracket⟩
  · exact ⟨_, hb, .brace⟩

end Pieces

/-- Whether octets of a piece may change: those of a mark and of a comment may, and a comma that a
    closing bracket follows, with nothing but blanks and comments in between. -/
def Piece.MayChange : Piece → (behind : Pieces) → Prop
  | .mark, _ => True
  | .octet b, behind => b = Octet.comma ∧ ∃ c, behind.significant? = some c ∧ Closes c
  | .text _, _ => False
  | .comment _, _ => True

namespace Pieces

/-- What relaxing makes of one piece: octets turn into spaces in their places, if the piece may
    change at all. -/
theorem relaxed_cons (before : Option UInt8) (p : Piece) (ps : Pieces) :
    ∃ (qs : Pieces) (before' : Option UInt8),
      relaxed before (p :: ps) = qs ++ relaxed before' ps ∧
      List.Forall₂ KeptOrBlank p.written qs.source ∧
      (¬ p.MayChange ps → qs.source = p.written) := by
  have hblank : ∀ s : Bytes, List.Forall₂ KeptOrBlank s (ofOctets (s.map blankOctet)).source := by
    intro s
    rw [source_ofOctets]
    exact List.forall₂_map_right_iff.2 (List.forall₂_same.2 fun b _ => keptOrBlank_blankOctet b)
  have hsame : ∀ s : Bytes, List.Forall₂ KeptOrBlank s s :=
    fun s => List.forall₂_same.2 fun b _ => .refl b
  cases p with
  | mark => exact ⟨_, before, rfl, hblank byteOrderMark, fun h => absurd trivial h⟩
  | comment note => exact ⟨_, before, rfl, hblank note, fun h => absurd trivial h⟩
  | text literal =>
    have hsource : source [.text literal] = literal := List.append_nil literal
    exact ⟨[.text literal], _, rfl, hsource.symm ▸ hsame literal, fun _ => hsource⟩
  | octet b =>
    rw [relaxed]
    split
    · exact ⟨[.octet b], before, rfl, hsame [b], fun _ => rfl⟩
    · split
      · next hcomma =>
        obtain ⟨rfl, -, hcloses⟩ := hcomma
        refine ⟨[.octet Octet.space], _, rfl, .cons (.inr ⟨rfl, by decide, by decide⟩) .nil, ?_⟩
        intro h
        exact absurd ⟨rfl, exists_closes_of_closesAhead hcloses⟩ h
      · exact ⟨[.octet b], _, rfl, hsame [b], fun _ => rfl⟩

theorem keptOrBlank_relaxed (before : Option UInt8) (ps : Pieces) :
    List.Forall₂ KeptOrBlank ps.source (ps.relaxed before).source := by
  induction ps generalizing before with
  | nil => exact .nil
  | cons p ps ih =>
    obtain ⟨qs, before', hrelaxed, hp, -⟩ := relaxed_cons before p ps
    rw [hrelaxed, source_cons, source_append]
    exact List.rel_append hp (ih before')

/-- An octet of a piece that may not change is kept. -/
theorem At.getElem?_relaxed {ps behind : Pieces} {i : Nat} {p : Piece} (h : ps.At i p behind)
    (hp : ¬ p.MayChange behind) (before : Option UInt8) :
    (ps.relaxed before).source[i]? = ps.source[i]? := by
  obtain ⟨front, rfl, hle, hlt⟩ := h
  induction front generalizing i before with
  | nil =>
    obtain ⟨qs, before', hrelaxed, -, hkept⟩ := relaxed_cons before p behind
    have hi : i < p.written.length := by simpa [source] using hlt
    rw [List.nil_append, hrelaxed, source_append, hkept hp, source_cons,
      List.getElem?_append_left hi, List.getElem?_append_left hi]
  | cons q front ih =>
    obtain ⟨qs, before', hrelaxed, hq, -⟩ := relaxed_cons before q (front ++ p :: behind)
    rw [source_cons, List.length_append] at hle hlt
    have hlength := hq.length_eq
    have hbehind : q.written.length ≤ i := by omega
    rw [List.cons_append, hrelaxed, source_append, source_cons,
      List.getElem?_append_right (hlength ▸ hbehind), List.getElem?_append_right hbehind, ← hlength]
    exact ih (i := i - q.written.length) before' (by omega) (by omega)

/-! ## Relaxing twice -/

/-- Blanks in front are pieces of their own. -/
theorem AreCut.blanks {blanks : Bytes} (hblanks : ∀ b ∈ blanks, Octet.isBlank b = true)
    {ps : Pieces} (h : ps.AreCut) : AreCut (ofOctets blanks ++ ps) := by
  induction blanks with
  | nil => exact h
  | cons b blanks ih =>
    rw [List.forall_mem_cons] at hblanks
    exact ⟨Piece.fits_octet_of_isBlank hblanks.1 _, ih hblanks.2⟩

/-- What comes out is pieces of the same kind: no new string and no new comment comes about. -/
theorem AreCut.relaxed {ps : Pieces} (h : ps.AreCut) (before : Option UInt8) :
    (ps.relaxed before).AreCut := by
  induction ps generalizing before with
  | nil => exact h
  | cons p ps ih =>
    cases p with
    | mark => exact h.1.elim
    | comment note => exact (ih h.2 before).blanks (isBlank_map_blankOctet note)
    | text literal =>
      exact ⟨IsString.of_keptOrBlank h.1 (keptOrBlank_relaxed _ ps), ih h.2 _⟩
    | octet b =>
      have hkept : ∀ before, (Piece.octet b).Fits (source (Pieces.relaxed before ps)) :=
        fun before => h.1.of_keptOrBlank (keptOrBlank_relaxed before ps)
      rw [Pieces.relaxed]
      split
      · exact ⟨hkept _, ih h.2 _⟩
      · split
        · exact ⟨Piece.fits_octet_of_isBlank rfl _, ih h.2 _⟩
        · exact ⟨hkept _, ih h.2 _⟩

theorem significant?_blanks {blanks : Bytes} (h : ∀ b ∈ blanks, Octet.isBlank b = true)
    (ps : Pieces) : (ofOctets blanks ++ ps).significant? = ps.significant? := by
  induction blanks with
  | nil => rfl
  | cons b blanks ih =>
    rw [List.forall_mem_cons] at h
    exact (if_pos h.1).trans (ih h.2)

theorem relaxed_blanks (before : Option UInt8) {blanks : Bytes}
    (h : ∀ b ∈ blanks, Octet.isBlank b = true) (ps : Pieces) :
    (ofOctets blanks ++ ps).relaxed before = ofOctets blanks ++ ps.relaxed before := by
  induction blanks with
  | nil => rfl
  | cons b blanks ih =>
    rw [List.forall_mem_cons] at h
    exact (if_pos h.1).trans (congrArg (.octet b :: ·) (ih h.2))

/-- Where no comma may stand, the first octet is none that turns into a space. -/
theorem significant?_relaxed {before : Option UInt8} (h : endsElement before = false)
    (ps : Pieces) : (ps.relaxed before).significant? = ps.significant? := by
  induction ps with
  | nil => rfl
  | cons p ps ih =>
    cases p with
    | mark => exact (significant?_blanks (isBlank_map_blankOctet byteOrderMark) _).trans ih
    | comment note => exact (significant?_blanks (isBlank_map_blankOctet note) _).trans ih
    | text literal => rfl
    | octet b =>
      rw [relaxed, h]
      cases hb : Octet.isBlank b with
      | true =>
        rw [if_pos rfl, significant?, significant?, if_pos hb, if_pos hb]
        exact ih
      | false =>
        rw [if_neg (by decide), if_neg (by simp), significant?, significant?, hb]
        rfl

/-- What stands in front does not matter where a closing bracket comes next. -/
theorem relaxed_of_closesAhead {ps : Pieces} (h : ps.closesAhead = true)
    (before before' : Option UInt8) : ps.relaxed before = ps.relaxed before' := by
  induction ps with
  | nil => rfl
  | cons p ps ih =>
    cases p with
    | mark => exact congrArg (ofOctets (byteOrderMark.map blankOctet) ++ ·) (ih h)
    | comment note => exact congrArg (ofOctets (note.map blankOctet) ++ ·) (ih h)
    | text literal => rfl
    | octet b =>
      rw [relaxed, relaxed]
      rw [closesAhead, significant?] at h
      cases hb : Octet.isBlank b with
      | true =>
        rw [hb, if_pos rfl] at h
        exact congrArg (.octet b :: ·) (ih h)
      | false =>
        have hcomma : b ≠ Octet.comma := by
          rintro rfl
          cases h
        rw [if_neg Bool.false_ne_true, if_neg fun hc => hcomma hc.1, if_neg Bool.false_ne_true,
          if_neg fun hc => hcomma hc.1]

/-- Relaxed pieces are not changed any more. -/
theorem relaxed_relaxed (before : Option UInt8) (ps : Pieces) :
    (ps.relaxed before).relaxed before = ps.relaxed before := by
  induction ps generalizing before with
  | nil => rfl
  | cons p ps ih =>
    cases p with
    | mark =>
      rw [relaxed, relaxed_blanks before (isBlank_map_blankOctet byteOrderMark), ih]
    | comment note => rw [relaxed, relaxed_blanks before (isBlank_map_blankOctet note), ih]
    | text literal => exact congrArg (.text literal :: ·) (ih _)
    | octet b =>
      rw [relaxed]
      cases hb : Octet.isBlank b with
      | true => rw [if_pos rfl, relaxed, if_pos hb, ih]
      | false =>
        rw [if_neg (by decide)]
        split
        · next hcomma =>
          -- The space is passed over, and the bracket behind it is reached from `before` now.
          rw [relaxed_of_closesAhead hcomma.2.2 _ before, relaxed, if_pos (by decide), ih]
        · next hcomma =>
          rw [relaxed, hb, if_neg (by decide), if_neg, ih]
          rintro ⟨rfl, hbefore, hcloses⟩
          rw [closesAhead, significant?_relaxed (by decide)] at hcloses
          exact hcomma ⟨rfl, hbefore, hcloses⟩

end Pieces

/-! ## Relaxing a source -/

/-- A source that relaxed octets begin with, none of them a space, begins so itself. -/
theorem prefix_of_keptOrBlank {w s r : Bytes} (h : List.Forall₂ KeptOrBlank s (w ++ r))
    (hw : Octet.space ∉ w) : w <+: s := by
  induction w generalizing s with
  | nil => exact List.nil_prefix
  | cons c w ih =>
    rw [List.mem_cons, not_or] at hw
    obtain ⟨b, s, hb, hrest, rfl⟩ := List.forall₂_cons_right_iff.1 h
    rw [hb.eq_of_ne (Ne.symm hw.1), List.cons_prefix_cons]
    exact ⟨rfl, ih hrest hw.2⟩

namespace CutInto

variable {s : Bytes} {ps : Pieces}

theorem relax_eq (h : CutInto s ps) : relax s = (ps.relaxed none).source := by
  cases h with
  | marked hs hcut =>
    rw [hs, relax_mark, Pieces.relaxed, Pieces.source_append, Pieces.source_ofOctets,
      Pieces.source_relaxed hcut]
    rfl
  | unmarked hs hmark hcut =>
    have hkept : blankMark s = s :=
      (blankMark_cases s).resolve_left fun ⟨r, hr⟩ => hmark ⟨r, hr.symm⟩
    rw [relax, hkept, Pieces.source_relaxed hcut, ← hs]
    rfl

theorem keptOrBlank (h : CutInto s ps) : List.Forall₂ KeptOrBlank s (relax s) := by
  have hps := Pieces.keptOrBlank_relaxed none ps
  rwa [h.source_eq, ← h.relax_eq] at hps

/-- The pieces of a relaxed source are those of the source, relaxed. -/
theorem relaxed (h : CutInto s ps) : CutInto (relax s) (ps.relaxed none) := by
  have hkept := h.keptOrBlank
  have heq := h.relax_eq
  cases h with
  | marked hs hcut =>
    refine .unmarked heq ?_ ((hcut.relaxed none).blanks (isBlank_map_blankOctet byteOrderMark))
    rintro ⟨r, hr⟩
    rw [hs, relax_mark] at hr
    exact absurd (List.cons.inj hr).1 (by decide)
  | unmarked hs hmark hcut =>
    refine .unmarked heq ?_ (hcut.relaxed none)
    rintro ⟨r, hr⟩
    rw [← hr] at hkept
    exact hmark (prefix_of_keptOrBlank hkept (by decide))

end CutInto

theorem relax_relax (s : Bytes) : relax (relax s) = relax s := by
  obtain ⟨ps, hps, -⟩ := existsUnique_cutInto s
  rw [hps.relaxed.relax_eq, Pieces.relaxed_relaxed, ← hps.relax_eq]

/-- Relaxing a source, well-formed or not, turns octets into spaces in their places: no line break,
    and none but those of a mark in front, of comments, and commas that a closing bracket follows.
    There is one way to tell its strings and comments apart, and each octet is in one piece. To
    relax it again changes nothing. -/
theorem relax_blanks (s : Bytes) :
    (relax s).length = s.length ∧
    (∀ (i : Nat) (b : UInt8), s[i]? = some b → ∃ c, (relax s)[i]? = some c ∧ KeptOrBlank b c) ∧
    (∃! ps, CutInto s ps) ∧
    (∀ ps, CutInto s ps → ∀ i < s.length, (∃ p behind, ps.At i p behind) ∧
      ∀ p behind, ps.At i p behind → (relax s)[i]? ≠ s[i]? → p.MayChange behind) ∧
    relax (relax s) = relax s := by
  obtain ⟨ps, hps, -⟩ := existsUnique_cutInto s
  have hkept := hps.keptOrBlank
  refine ⟨hkept.length_eq.symm, ?_, existsUnique_cutInto s, ?_, relax_relax s⟩
  · intro i b hb
    obtain ⟨hi, rfl⟩ := List.getElem?_eq_some_iff.1 hb
    have hi' : i < (relax s).length := hkept.length_eq ▸ hi
    exact ⟨_, List.getElem?_eq_getElem hi', hkept.get hi hi'⟩
  · intro qs hqs i hi
    rw [← hqs.source_eq] at hi
    refine ⟨Pieces.exists_at hi, ?_⟩
    intro p behind hat hne
    by_contra hp
    apply hne
    rw [hqs.relax_eq, hat.getElem?_relaxed hp, hqs.source_eq]

/-- In `[1,/*a*/]` the comma turns into a space, and so does the comment. -/
theorem relax_blanks_array :
    let behind : Pieces := [
      .comment [Octet.slash, Octet.star, 0x61, Octet.star, Octet.slash], .octet Octet.closeBracket]
    let ps : Pieces := .octet Octet.openBracket :: .octet 0x31 :: .octet Octet.comma :: behind
    CutInto ps.source ps ∧ (Piece.octet Octet.comma).MayChange behind ∧ relax ps.source =
      Octet.openBracket :: 0x31 :: (List.replicate 6 Octet.space ++ [Octet.closeBracket]) := by
  intro behind ps
  have hcomment : IsComment [Octet.slash, Octet.star, 0x61, Octet.star, Octet.slash]
      [Octet.closeBracket] := @IsComment.block [0x61] _ (by decide)
  have hps : CutInto ps.source ps := by
    refine .unmarked rfl (by decide) ⟨?_, ?_, ?_, hcomment, ?_, trivial⟩
    all_goals exact Piece.fits_octet_of_ne (by decide) (by decide) _
  refine ⟨hps, ?_, by decide⟩
  obtain ⟨-, -, -, hchange, -⟩ := relax_blanks ps.source
  exact (hchange ps hps 2 (by decide)).2 _ behind
    ⟨[.octet Octet.openBracket, .octet 0x31], rfl, by decide, by decide⟩ (by decide)

end SampleTypes.Json
