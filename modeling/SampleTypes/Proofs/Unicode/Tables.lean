import Mathlib
import SampleTypes.Unicode.Span

set_option autoImplicit false

/-! # Runs of code points in tables

A fact about all characters is decided here run by run, and not character by character: a table
holds all of a run (`includes`) or nothing of it (`excludes`), and one pass over the table says
so. A case mapping moves characters by runs, so that such facts carry over to the characters it
makes. Where capital and small letters alternate, a run lies between the code points of a span,
and parity tells the two apart. -/

namespace SampleTypes.Unicode

namespace SpanTable

/-! ## Runs inside and outside a table -/

/-- Whether `first`, `first + step` and so on up to `last` are all even or all odd. -/
def ofOneParity (first last step : Nat) : Bool :=
  Nat.beq first last || step % 2 == 0

/-- Whether the table holds `first`, `first + step` and so on up to `last`. The first span that
    does not end before `first` must hold them all. -/
def includes (first last step : Nat) : SpanTable → Bool
  | [] => false
  | s :: rest =>
    bif Nat.ble first s.last then
      s.first ≤ first && last ≤ s.last && step % s.step == 0 && (first - s.first) % s.step == 0
    else includes first last step rest

/-- Whether the table holds nothing of `first`, `first + step` and so on up to `last`. The spans
    that do not end before `first` must be of the other parity, until one begins behind `last`. -/
def excludes (first last step : Nat) : SpanTable → Bool
  | [] => true
  | s :: rest =>
    bif Nat.ble first s.last then
      bif Nat.ble s.first last then
        ofOneParity first last step && ofOneParity s.first s.last s.step &&
          first % 2 != s.first % 2 && excludes first last step rest
      else Nat.ble s.first s.last
    else excludes first last step rest

variable {table : SpanTable} {first last step n : Nat}

theorem contains_of_includes (h : table.includes first last step = true) (hfirst : first ≤ n)
    (hlast : n ≤ last) (hstep : (n - first) % step = 0) : table.contains n = true := by
  induction table with
  | nil => cases h
  | cons s rest ih =>
    simp only [includes, Bool.cond_eq_ite, Nat.ble_eq] at h
    rw [contains]
    split at h
    · simp only [Bool.and_eq_true, decide_eq_true_eq, beq_iff_eq] at h
      obtain ⟨⟨⟨hs, hend⟩, hstride⟩, hoffset⟩ := h
      have hdvd : s.step ∣ (n - first) + (first - s.first) :=
        (Dvd.dvd.trans (Nat.dvd_of_mod_eq_zero hstride) (Nat.dvd_of_mod_eq_zero hstep)).add
          (Nat.dvd_of_mod_eq_zero hoffset)
      have hsum : n - s.first = (n - first) + (first - s.first) := by omega
      have hmod : (n - s.first) % s.step = 0 := by
        rw [hsum]
        exact Nat.mod_eq_zero_of_dvd hdvd
      have hbegin : s.first ≤ n := hs.trans hfirst
      have hbefore : n ≤ s.last := hlast.trans hend
      simp [Span.covers, hmod, hbegin, hbefore]
    · next hbehind =>
      rw [if_neg (by omega)]
      exact ih h

theorem contains_of_includes_all (h : table.includes first last 1 = true) (hfirst : first ≤ n)
    (hlast : n ≤ last) : table.contains n = true :=
  contains_of_includes h hfirst hlast (Nat.mod_one _)

theorem mod_two_of_ofOneParity (h : ofOneParity first last step = true) (hfirst : first ≤ n)
    (hlast : n ≤ last) (hstep : (n - first) % step = 0) : n % 2 = first % 2 := by
  rw [ofOneParity, Bool.or_eq_true, Nat.beq_eq, beq_iff_eq] at h
  rcases h with heq | heven
  · have hn : n = first := by omega
    rw [hn]
  · have hdvd : 2 ∣ n - first :=
      (Nat.dvd_of_mod_eq_zero heven).trans (Nat.dvd_of_mod_eq_zero hstep)
    omega

/-- A span of the other parity covers no code point of the run. -/
theorem not_covers_of_parity {s : Span} (hrun : n % 2 = first % 2)
    (hspan : ofOneParity s.first s.last s.step = true) (hparity : first % 2 ≠ s.first % 2) :
    s.covers n = false := by
  rw [← Bool.not_eq_true]
  intro hcovers
  simp only [Span.covers, Bool.and_eq_true, decide_eq_true_eq, beq_iff_eq] at hcovers
  obtain ⟨⟨hbegin, hend⟩, hoffset⟩ := hcovers
  have hmod := mod_two_of_ofOneParity hspan hbegin hend hoffset
  omega

theorem not_contains_of_excludes (h : table.excludes first last step = true) (hfirst : first ≤ n)
    (hlast : n ≤ last) (hstep : (n - first) % step = 0) : table.contains n = false := by
  induction table with
  | nil => rfl
  | cons s rest ih =>
    simp only [excludes, Bool.cond_eq_ite, Nat.ble_eq] at h
    rw [contains]
    split at h
    · split at h
      · next hoverlap =>
        simp only [Bool.and_eq_true, bne_iff_ne] at h
        obtain ⟨⟨⟨hrun, hspan⟩, hparity⟩, hrest⟩ := h
        split
        · exact not_covers_of_parity (mod_two_of_ofOneParity hrun hfirst hlast hstep) hspan hparity
        · exact ih hrest
      · next hoverlap =>
        have hspan : s.first ≤ s.last := Nat.le_of_ble_eq_true h
        have hbefore : ¬ s.first ≤ n := by omega
        rw [if_pos (by omega)]
        simp [Span.covers, hbefore]
    · next hbehind =>
      rw [if_neg (by omega)]
      exact ih h

theorem not_contains_of_excludes_all (h : table.excludes first last 1 = true) (hfirst : first ≤ n)
    (hlast : n ≤ last) : table.contains n = false :=
  not_contains_of_excludes h hfirst hlast (Nat.mod_one _)

theorem exists_covers_of_contains (h : table.contains n = true) :
    ∃ s ∈ table, s.covers n = true := by
  induction table with
  | nil => cases h
  | cons s rest ih =>
    rw [contains] at h
    split at h
    · exact ⟨s, List.mem_cons_self, h⟩
    · obtain ⟨t, hmem, hcovers⟩ := ih h
      exact ⟨t, List.mem_cons_of_mem _ hmem, hcovers⟩

/-- A table that holds nothing of the spans of another has no code point in common with it. -/
theorem not_contains_of_excludes_spans {other : SpanTable}
    (h : (other.all fun s => table.excludes s.first s.last s.step) = true)
    (hother : other.contains n = true) : table.contains n = false := by
  obtain ⟨s, hmem, hcovers⟩ := exists_covers_of_contains hother
  simp only [Span.covers, Bool.and_eq_true, decide_eq_true_eq, beq_iff_eq] at hcovers
  obtain ⟨⟨hbegin, hend⟩, hstep⟩ := hcovers
  exact not_contains_of_excludes (List.all_eq_true.mp h s hmem) hbegin hend hstep

end SpanTable

/-! ## Images of runs -/

/-- The code point that the last one of the run is moved to. -/
def CaseRun.lastImage (r : CaseRun) : Nat :=
  r.image + (r.last - r.first)

/-- Whether the code points of the run are moved to characters: the images do not reach into the
    surrogates or behind the last code point. -/
def CaseRun.isCharacters (r : CaseRun) : Bool :=
  r.lastImage < 0xD800 || (0xDFFF < r.image && r.lastImage < 0x110000)

namespace CaseTable

variable {table : CaseTable}

theorem exists_run_of_image? {n m : Nat} (h : table.image? n = some m) :
    ∃ r ∈ table, r.covers n = true ∧ m = r.image + (n - r.first) := by
  induction table with
  | nil => cases h
  | cons r rest ih =>
    rw [image?] at h
    split at h
    · split at h
      · next hcovers => exact ⟨r, List.mem_cons_self, hcovers, (Option.some.inj h).symm⟩
      · cases h
    · obtain ⟨r', hr', hcovers, hm⟩ := ih h
      exact ⟨r', List.mem_cons_of_mem r hr', hcovers, hm⟩

/-- The code points that the mapping moves. -/
def sources (table : CaseTable) : SpanTable :=
  table.map CaseRun.toSpan

theorem isSome_image? (table : CaseTable) (n : Nat) :
    (table.image? n).isSome = table.sources.contains n := by
  induction table with
  | nil => rfl
  | cons r rest ih =>
    rw [image?, sources, List.map_cons, SpanTable.contains]
    split
    · cases r.covers n <;> rfl
    · exact ih

/-- A character stays as it is, or a run moves it. -/
theorem apply_cases (hcharacters : table.all CaseRun.isCharacters = true) (c : Char) :
    table.apply c = c ∨ ∃ r ∈ table, r.covers c.toNat = true ∧
      (table.apply c).toNat = r.image + (c.toNat - r.first) := by
  unfold apply
  cases himage : table.image? c.toNat with
  | none => exact .inl rfl
  | some n =>
    obtain ⟨r, hr, hcovers, rfl⟩ := exists_run_of_image? himage
    refine .inr ⟨r, hr, hcovers, ?_⟩
    have hvalid := List.all_eq_true.1 hcharacters r hr
    simp only [Span.covers, Bool.and_eq_true, decide_eq_true_eq] at hcovers
    simp only [CaseRun.isCharacters, Bool.or_eq_true, Bool.and_eq_true, decide_eq_true_eq] at hvalid
    rw [CaseRun.lastImage] at hvalid
    dsimp only
    rw [Char.toNat_ofNat, if_pos (by rw [Nat.isValidChar]; omega)]

variable {spans : SpanTable} (hcharacters : table.all CaseRun.isCharacters = true)

include hcharacters

/-- If a table of spans holds all images, it holds what becomes of its characters. -/
theorem contains_apply
    (himages : (table.all fun r => spans.includes r.image r.lastImage r.step) = true) {c : Char}
    (h : spans.contains c.toNat = true) : spans.contains (table.apply c).toNat = true := by
  rcases apply_cases hcharacters c with heq | ⟨r, hr, hcovers, heq⟩
  · rw [heq]
    exact h
  · simp only [Span.covers, Bool.and_eq_true, decide_eq_true_eq, beq_iff_eq] at hcovers
    rw [heq]
    refine SpanTable.contains_of_includes (List.all_eq_true.1 himages r hr)
      (Nat.le_add_right _ _) ?_ ?_
    · rw [CaseRun.lastImage]
      omega
    · rw [Nat.add_sub_cancel_left]
      exact hcovers.2

/-- If a table of spans holds no image, what it holds has not been moved. -/
theorem apply_eq_of_contains
    (himages : (table.all fun r => spans.excludes r.image r.lastImage r.step) = true) {c : Char}
    (h : spans.contains (table.apply c).toNat = true) : table.apply c = c := by
  rcases apply_cases hcharacters c with heq | ⟨r, hr, hcovers, heq⟩
  · exact heq
  · simp only [Span.covers, Bool.and_eq_true, decide_eq_true_eq, beq_iff_eq] at hcovers
    rw [heq, SpanTable.not_contains_of_excludes (List.all_eq_true.1 himages r hr)
      (Nat.le_add_right _ _) (by rw [CaseRun.lastImage]; omega)
      (by rw [Nat.add_sub_cancel_left]; exact hcovers.2)] at h
    cases h

/-- If a table of spans holds no character that is moved, its characters stay as they are. -/
theorem apply_of_contains
    (hsources : (table.all fun r => spans.excludes r.first r.last r.step) = true) {c : Char}
    (h : spans.contains c.toNat = true) : table.apply c = c := by
  rcases apply_cases hcharacters c with heq | ⟨r, hr, hcovers, -⟩
  · exact heq
  · simp only [Span.covers, Bool.and_eq_true, decide_eq_true_eq, beq_iff_eq] at hcovers
    rw [SpanTable.not_contains_of_excludes (List.all_eq_true.1 hsources r hr) hcovers.1.1
      hcovers.1.2 hcovers.2] at h
    cases h

/-- If no image of the mapping is moved itself, a second application changes nothing. -/
theorem apply_apply
    (himages : (table.all fun r => table.sources.excludes r.image r.lastImage r.step) = true)
    (c : Char) : table.apply (table.apply c) = table.apply c := by
  cases hmoved : table.image? (table.apply c).toNat with
  | none =>
    unfold apply at hmoved ⊢
    rw [hmoved]
  | some n =>
    -- What is moved once more has not been moved before.
    have hsource : table.sources.contains (table.apply c).toNat = true := by
      rw [← isSome_image?, hmoved]
      rfl
    have hsame : table.apply c = c := apply_eq_of_contains hcharacters himages hsource
    rw [hsame, hsame]

/-- If a table of spans holds neither images nor characters that are moved, the mapping leads
    neither into it nor out of it. -/
theorem contains_apply_eq
    (hsources : (table.all fun r => spans.excludes r.first r.last r.step) = true)
    (himages : (table.all fun r => spans.excludes r.image r.lastImage r.step) = true) (c : Char) :
    spans.contains (table.apply c).toNat = spans.contains c.toNat := by
  rw [Bool.eq_iff_iff]
  constructor
  · intro h
    rwa [apply_eq_of_contains hcharacters himages h] at h
  · intro h
    rwa [apply_of_contains hcharacters hsources h]

end CaseTable

end SampleTypes.Unicode
