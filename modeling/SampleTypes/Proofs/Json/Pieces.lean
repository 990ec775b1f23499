import SampleTypes.Proofs.Json.Relaxing

set_option autoImplicit false

/-! # Pieces of a source

A source, well-formed or not, falls into a byte-order mark in front, strings, comments and single
octets. A string goes up to its closing quote or, if there is none, up to the end of the source; a
comment goes up to the end of its line or up to its mark, and a block comment without that mark is
none. Whatever begins no string and no comment stands for itself. So there is one way to cut a
source (`existsUnique_cutInto`), and each octet belongs to one piece. -/

namespace SampleTypes.Json

/-! ## Pieces -/

/-- A piece of a source. -/
inductive Piece where
  | mark
  /-- An octet outside of strings and comments. -/
  | octet (b : UInt8)
  /-- A string with its quotes, the second of which may be missing at the end of the source. -/
  | text (literal : Bytes)
  /-- A comment with its marks. -/
  | comment (note : Bytes)

/-- The octets of a piece. -/
def Piece.written : Piece → Bytes
  | .mark => byteOrderMark
  | .octet b => [b]
  | .text literal => literal
  | .comment note => note

/-- Pieces that follow one another. -/
abbrev Pieces := List Piece

/-- The source that is made of these pieces. -/
def Pieces.source (ps : Pieces) : Bytes :=
  ps.flatMap Piece.written

theorem Pieces.source_cons (p : Piece) (ps : Pieces) :
    source (p :: ps) = p.written ++ source ps :=
  List.flatMap_cons

theorem Pieces.source_append (ps qs : Pieces) : source (ps ++ qs) = source ps ++ source qs :=
  List.flatMap_append

/-! ## Strings and comments in front -/

/-- Whether a string may stand in front of `rest`: it has its closing quote, or there is none and
    nothing is left. -/
inductive IsString : (literal rest : Bytes) → Prop where
  | closed {body rest : Bytes} (hbody : TextBody body) : IsString (Octet.quote :: body) rest
  | unclosed {body : Bytes} (hopen : ∀ w, w <+: body → ¬ TextBody w) :
    IsString (Octet.quote :: body) []

/-- Whether a comment may stand in front of `rest`: it ends in front of the first line feed, or
    with the first star that a slash follows. -/
inductive IsComment : (note rest : Bytes) → Prop where
  | line {body rest : Bytes} (hbody : Octet.newline ∉ body)
      (hrest : ∀ b ∈ rest.head?, b = Octet.newline) :
    IsComment (Octet.slash :: Octet.slash :: body) rest
  | block {body rest : Bytes} (hbody : ¬ [Octet.star, Octet.slash] <:+: body) :
    IsComment (Octet.slash :: Octet.star :: (body ++ [Octet.star, Octet.slash])) rest

theorem IsString.exists_cons {literal rest : Bytes} (h : IsString literal rest) :
    ∃ body, literal = Octet.quote :: body := by
  cases h <;> exact ⟨_, rfl⟩

theorem IsComment.exists_cons {note rest : Bytes} (h : IsComment note rest) :
    ∃ body, note = Octet.slash :: body := by
  cases h <;> exact ⟨_, rfl⟩

/-- No string is the beginning of another one. -/
theorem TextBody.eq_of_append {w v r r' : Bytes} (hw : TextBody w) (hv : TextBody v)
    (h : w ++ r = v ++ r') : w = v := by
  induction hw generalizing v with
  | close =>
    cases hv with
    | close => rfl
    | plain hquote => exact absurd (List.cons.inj h).1.symm hquote
    | escape b hv => exact absurd (List.cons.inj h).1 (by decide)
  | plain hquote hslash hw ih =>
    cases hv with
    | close => exact absurd (List.cons.inj h).1 hquote
    | plain _ _ hv =>
      obtain ⟨rfl, hrest⟩ := List.cons.inj h
      rw [ih hv hrest]
    | escape b hv => exact absurd (List.cons.inj h).1 hslash
  | escape b hw ih =>
    cases hv with
    | close => exact absurd (List.cons.inj h).1 (by decide)
    | plain _ hslash => exact absurd (List.cons.inj h).1.symm hslash
    | escape c hv =>
      obtain ⟨rfl, hrest⟩ := List.cons.inj (List.cons.inj h).2
      rw [ih hv hrest]

/-- A comment that ends with its line is known by what stands in front of the line feed. -/
theorem line_eq_of_append {body body' r r' : Bytes} (hbody : Octet.newline ∉ body)
    (hbody' : Octet.newline ∉ body') (hr : ∀ b ∈ r.head?, b = Octet.newline)
    (hr' : ∀ b ∈ r'.head?, b = Octet.newline) (h : body ++ r = body' ++ r') : body = body' := by
  have htake : ∀ {body r : Bytes}, Octet.newline ∉ body → (∀ b ∈ r.head?, b = Octet.newline) →
      (body ++ r).takeWhile (· ≠ Octet.newline) = body := by
    intro body r hbody hr
    have hnone : r.takeWhile (· ≠ Octet.newline) = [] := by
      cases r with
      | nil => rfl
      | cons b r =>
        obtain rfl := hr b rfl
        rfl
    rw [List.takeWhile_append_of_pos, hnone, List.append_nil]
    intro b hb
    rw [decide_eq_true_iff]
    rintro rfl
    exact hbody hb
  rw [← htake hbody hr, h, htake hbody' hr']

/-- What stands in front of the first star with a slash behind it is not the beginning of what
    does in the same source. -/
theorem block_eq_of_append {body body' r r' : Bytes}
    (hbody : ¬ [Octet.star, Octet.slash] <:+: body)
    (hbody' : ¬ [Octet.star, Octet.slash] <:+: body')
    (h : body ++ Octet.star :: Octet.slash :: r = body' ++ Octet.star :: Octet.slash :: r') :
    body = body' := by
  -- What one body has more than the other begins with the mark, or is its star alone.
  have hmore : ∀ {body c r r' : Bytes}, ¬ [Octet.star, Octet.slash] <:+: body ++ c →
      Octet.star :: Octet.slash :: r = c ++ Octet.star :: Octet.slash :: r' → c = [] := by
    intro body c r r' hnot heq
    match c, heq with
    | [], _ => rfl
    | [b], heq => exact absurd (List.cons.inj (List.cons.inj heq).2).1 (by decide)
    | b :: d :: c, heq =>
      obtain ⟨rfl, htail⟩ := List.cons.inj heq
      obtain ⟨rfl, -⟩ := List.cons.inj htail
      exact absurd ⟨body, c, by simp⟩ hnot
  rcases List.append_eq_append_iff.1 h with ⟨c, rfl, hc⟩ | ⟨c, rfl, hc⟩
  · rw [hmore hbody' hc, List.append_nil]
  · rw [hmore hbody hc, List.append_nil]

/-- One string at most begins a source. -/
theorem IsString.eq_of_append {literal literal' r r' : Bytes} (h : IsString literal r)
    (h' : IsString literal' r') (heq : literal ++ r = literal' ++ r') : literal = literal' := by
  cases h with
  | closed hbody =>
    cases h' with
    | closed hbody' => rw [hbody.eq_of_append hbody' (List.cons.inj heq).2]
    | unclosed hopen =>
      rw [List.append_nil] at heq
      exact absurd hbody (hopen _ ⟨r, (List.cons.inj heq).2⟩)
  | unclosed hopen =>
    rw [List.append_nil] at heq
    cases h' with
    | closed hbody' => exact absurd hbody' (hopen _ ⟨r', (List.cons.inj heq).2.symm⟩)
    | unclosed => rwa [List.append_nil] at heq

/-- One comment at most begins a source. -/
theorem IsComment.eq_of_append {note note' r r' : Bytes} (h : IsComment note r)
    (h' : IsComment note' r') (heq : note ++ r = note' ++ r') : note = note' := by
  cases h with
  | line hbody hr =>
    cases h' with
    | line hbody' hr' =>
      have hbodies := (List.cons.inj (List.cons.inj heq).2).2
      rw [line_eq_of_append hbody hbody' hr hr' hbodies]
    | block => exact absurd (List.cons.inj (List.cons.inj heq).2).1 (by decide)
  | block hbody =>
    cases h' with
    | line => exact absurd (List.cons.inj (List.cons.inj heq).2).1 (by decide)
    | block hbody' =>
      have hbodies := (List.cons.inj (List.cons.inj heq).2).2
      simp only [List.append_eq, List.append_assoc, List.cons_append, List.nil_append] at hbodies
      rw [block_eq_of_append hbody hbody' hbodies]

/-! ## Cutting -/

/-- Whether a piece is a string or a comment that ends where `rest` begins. -/
def Piece.Opens : Piece → Bytes → Prop
  | .mark, _ => False
  | .octet _, _ => False
  | .text literal, rest => IsString literal rest
  | .comment note, rest => IsComment note rest

/-- Whether a piece stands in front of `rest` as it does in a source: a single octet only where no
    string and no comment begins. -/
def Piece.Fits : Piece → Bytes → Prop
  | .octet b, rest => ∀ (p : Piece) (r : Bytes), p.Opens r → p.written ++ r ≠ b :: rest
  | p, rest => p.Opens rest

namespace Piece.Opens

theorem ne_nil {p : Piece} {r : Bytes} (h : p.Opens r) : p.written ≠ [] := by
  cases p with
  | mark => exact h.elim
  | octet b => exact h.elim
  | text literal =>
    obtain ⟨body, rfl⟩ := IsString.exists_cons h
    exact List.cons_ne_nil _ body
  | comment note =>
    obtain ⟨body, rfl⟩ := IsComment.exists_cons h
    exact List.cons_ne_nil _ body

theorem fits {p : Piece} {r : Bytes} (h : p.Opens r) : p.Fits r := by
  cases p with
  | octet b => exact h.elim
  | _ => exact h

/-- One string or comment at most begins a source. -/
theorem eq_of_append {p q : Piece} {r r' : Bytes} (hp : p.Opens r) (hq : q.Opens r')
    (h : p.written ++ r = q.written ++ r') : p = q := by
  cases p with
  | mark => exact hp.elim
  | octet b => exact hp.elim
  | text literal =>
    cases q with
    | mark => exact hq.elim
    | octet b => exact hq.elim
    | text literal' => rw [IsString.eq_of_append hp hq h]
    | comment note =>
      obtain ⟨body, rfl⟩ := IsString.exists_cons hp
      obtain ⟨body', rfl⟩ := IsComment.exists_cons hq
      exact absurd (List.cons.inj h).1 (by decide)
  | comment note =>
    cases q with
    | mark => exact hq.elim
    | octet b => exact hq.elim
    | text literal =>
      obtain ⟨body, rfl⟩ := IsComment.exists_cons hp
      obtain ⟨body', rfl⟩ := IsString.exists_cons hq
      exact absurd (List.cons.inj h).1 (by decide)
    | comment note' => rw [IsComment.eq_of_append hp hq h]

end Piece.Opens

theorem Piece.Fits.ne_nil {p : Piece} {r : Bytes} (h : p.Fits r) : p.written ≠ [] := by
  cases p with
  | mark => exact h.elim
  | octet b => exact List.cons_ne_nil b []
  | text literal => exact Opens.ne_nil (p := .text literal) h
  | comment note => exact Opens.ne_nil (p := .comment note) h

/-- The piece in front of a source is known by the source. -/
theorem Piece.Fits.eq_of_append {p q : Piece} {r r' : Bytes} (hp : p.Fits r) (hq : q.Fits r')
    (h : p.written ++ r = q.written ++ r') : p = q := by
  cases p with
  | mark => exact hp.elim
  | octet b =>
    cases q with
    | octet c => rw [(List.cons.inj h).1]
    | _ => exact absurd h.symm (hp _ r' hq)
  | text literal =>
    cases q with
    | octet c => exact absurd h (hq _ r hp)
    | _ => exact Opens.eq_of_append hp hq h
  | comment note =>
    cases q with
    | octet c => exact absurd h (hq _ r hp)
    | _ => exact Opens.eq_of_append hp hq h

namespace Pieces

/-- Whether each piece stands as it does in a source. -/
def AreCut : Pieces → Prop
  | [] => True
  | p :: ps => p.Fits (source ps) ∧ AreCut ps

theorem AreCut.eq_of_source {ps qs : Pieces} (hps : ps.AreCut) (hqs : qs.AreCut)
    (h : ps.source = qs.source) : ps = qs := by
  have hne : ∀ (p : Piece) (rest : Pieces), AreCut (p :: rest) → source (p :: rest) ≠ [] := by
    intro p rest hcut hnil
    rw [source_cons, List.append_eq_nil_iff] at hnil
    exact hcut.1.ne_nil hnil.1
  induction ps generalizing qs with
  | nil =>
    cases qs with
    | nil => rfl
    | cons q qs => exact absurd h.symm (hne q qs hqs)
  | cons p ps ih =>
    cases qs with
    | nil => exact absurd h (hne p ps hps)
    | cons q qs =>
      rw [source_cons, source_cons] at h
      obtain rfl := hps.1.eq_of_append hqs.1 h
      rw [ih hps.2 hqs.2 (List.append_cancel_left h)]

theorem exists_areCut (s : Bytes) : ∃ ps : Pieces, ps.source = s ∧ ps.AreCut := by
  induction hlength : s.length using Nat.strong_induction_on generalizing s with
  | _ n ih =>
    by_cases hopens : ∃ (p : Piece) (r : Bytes), p.Opens r ∧ p.written ++ r = s
    · obtain ⟨p, r, hp, rfl⟩ := hopens
      have hpos := List.length_pos_iff.2 hp.ne_nil
      rw [List.length_append] at hlength
      obtain ⟨ps, rfl, hps⟩ := ih r.length (by omega) r rfl
      exact ⟨p :: ps, source_cons p ps, hp.fits, hps⟩
    · cases s with
      | nil => exact ⟨[], rfl, trivial⟩
      | cons b s =>
        rw [List.length_cons] at hlength
        obtain ⟨ps, rfl, hps⟩ := ih s.length (by omega) s rfl
        exact ⟨.octet b :: ps, rfl, fun p r hp heq => hopens ⟨p, r, hp, heq⟩, hps⟩

end Pieces

/-- Whether these are the pieces of a source, which has a mark at most in front. -/
inductive CutInto (s : Bytes) : Pieces → Prop where
  | marked {ps : Pieces} (hs : s = byteOrderMark ++ ps.source) (hcut : ps.AreCut) :
    CutInto s (.mark :: ps)
  | unmarked {ps : Pieces} (hs : s = ps.source) (hmark : ¬ byteOrderMark <+: s)
      (hcut : ps.AreCut) : CutInto s ps

theorem CutInto.source_eq {s : Bytes} {ps : Pieces} (h : CutInto s ps) : ps.source = s := by
  cases h with
  | marked hs => exact hs.symm
  | unmarked hs => exact hs.symm

/-- There is one way to cut a source. -/
theorem existsUnique_cutInto (s : Bytes) : ∃! ps, CutInto s ps := by
  by_cases hmark : byteOrderMark <+: s
  · obtain ⟨r, rfl⟩ := hmark
    obtain ⟨ps, rfl, hps⟩ := Pieces.exists_areCut r
    refine ⟨.mark :: ps, .marked rfl hps, ?_⟩
    intro qs hqs
    cases hqs with
    | marked hs hcut => rw [hcut.eq_of_source hps (List.append_cancel_left hs).symm]
    | unmarked _ hmark => exact absurd (List.prefix_append _ _) hmark
  · obtain ⟨ps, rfl, hps⟩ := Pieces.exists_areCut s
    refine ⟨ps, .unmarked rfl hmark hps, ?_⟩
    intro qs hqs
    cases hqs with
    | marked hs => exact absurd ⟨_, hs.symm⟩ hmark
    | unmarked hs _ hcut => exact hcut.eq_of_source hps hs.symm

/-! ## Places -/

namespace Pieces

/-- Whether the octet at place `i` belongs to the piece `p`, behind which the pieces `behind`
    stand. -/
def At (ps : Pieces) (i : Nat) (p : Piece) (behind : Pieces) : Prop :=
  ∃ front : Pieces, ps = front ++ p :: behind ∧
    front.source.length ≤ i ∧ i < front.source.length + p.written.length

/-- Every octet belongs to a piece. -/
theorem exists_at {ps : Pieces} {i : Nat} (hi : i < ps.source.length) :
    ∃ p behind, ps.At i p behind := by
  induction ps generalizing i with
  | nil => exact absurd hi (Nat.not_lt_zero i)
  | cons p ps ih =>
    rw [source_cons, List.length_append] at hi
    by_cases hp : i < p.written.length
    · exact ⟨p, ps, [], rfl, Nat.zero_le i, (Nat.zero_add p.written.length).symm ▸ hp⟩
    · obtain ⟨q, behind, front, rfl, hle, hlt⟩ := ih (i := i - p.written.length) (by omega)
      refine ⟨q, behind, p :: front, rfl, ?_, ?_⟩
      · rw [source_cons, List.length_append]
        omega
      · rw [source_cons, List.length_append]
        omega

end Pieces

end SampleTypes.Json
