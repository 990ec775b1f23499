import SampleTypes.Proofs.Declaration.References
import SampleTypes.Proofs.Target.Imports
import SampleTypes.Proofs.Target.PythonMembers

set_option autoImplicit false

/-! # Lines and blocks

A block is the source of one declaration. It neither begins nor ends with a line break (`Solid`), so
that what is put between two blocks is all that stands between them. What a line begins with, behind
its indentation, is visible (`LinePiece`), and so no line of such pieces is blank. -/

namespace SampleTypes

open Naming (Wordlike)
open Unicode (isBlank isAlphanumeric)

/-! ## Lines -/

/-- The lines of a text. -/
def linesOf (text : String) : List (List Char) :=
  text.toList.splitOn '\n'

/-- The spaces and tabs in front of a line. -/
def indentOf (line : List Char) : List Char :=
  line.takeWhile fun c => c == ' ' || c == '\t'

/-- Texts without line breaks are the lines of what they make when they are put below one
    another. -/
theorem linesOf_intercalate {lines : List String} (hne : lines ≠ [])
    (h : ∀ line ∈ lines, '\n' ∉ line.toList) :
    linesOf ("\n".intercalate lines) = lines.map String.toList := by
  have hbreak : "\n".toList = ['\n'] := rfl
  rw [linesOf, String.toList_intercalate, hbreak, List.splitOn_intercalate]
  · intro line hline
    obtain ⟨text, htext, rfl⟩ := List.mem_map.1 hline
    exact h text htext
  · simpa using hne

theorem newline_not_mem_append {a b : String} (ha : '\n' ∉ a.toList) (hb : '\n' ∉ b.toList) :
    '\n' ∉ (a ++ b).toList := by
  rw [String.toList_append, List.mem_append, not_or]
  exact ⟨ha, hb⟩

theorem newline_not_mem_intercalate {separator : String} (hseparator : '\n' ∉ separator.toList)
    {texts : List String} (h : ∀ text ∈ texts, '\n' ∉ text.toList) :
    '\n' ∉ (separator.intercalate texts).toList := by
  rw [String.toList_intercalate]
  intro hmem
  rcases Naming.mem_intercalate hmem with hmem | ⟨l, hl, hmem⟩
  · exact hseparator hmem
  · obtain ⟨text, htext, rfl⟩ := List.mem_map.1 hl
    exact h text htext hmem

/-! ## What stands behind an indentation -/

/-- A text within a line that begins with something visible. -/
structure LinePiece (text : String) : Prop where
  visible : text.toList.head?.any (fun c => !isBlank c) = true
  newline : '\n' ∉ text.toList

namespace LinePiece

variable {text : String}

theorem exists_cons (h : LinePiece text) :
    ∃ c rest, text.toList = c :: rest ∧ isBlank c = false := by
  cases hlist : text.toList with
  | nil =>
    have hvisible := h.visible
    rw [hlist] at hvisible
    cases hvisible
  | cons c rest =>
    have hvisible := h.visible
    rw [hlist] at hvisible
    exact ⟨c, rest, rfl, by simpa using hvisible⟩

theorem append (h : LinePiece text) {rest : String} (hrest : '\n' ∉ rest.toList) :
    LinePiece (text ++ rest) where
  visible := by
    obtain ⟨c, tail, hlist, hc⟩ := h.exists_cons
    simp [String.toList_append, hlist, hc]
  newline := newline_not_mem_append h.newline hrest

/-- The indentation of a line is what stands in front of the piece. -/
theorem indentOf_append (h : LinePiece text) {front : List Char}
    (hfront : ∀ c ∈ front, (c == ' ' || c == '\t') = true) :
    indentOf (front ++ text.toList) = front := by
  obtain ⟨c, rest, hlist, hc⟩ := h.exists_cons
  have hother : (c == ' ' || c == '\t') = false := by
    rw [Bool.or_eq_false_iff, beq_eq_false_iff_ne, beq_eq_false_iff_ne]
    constructor
    · rintro rfl
      exact absurd hc (by decide +kernel)
    · rintro rfl
      exact absurd hc (by decide +kernel)
  rw [indentOf, List.takeWhile_append_of_pos hfront, hlist, List.takeWhile_cons, hother]
  simp

end LinePiece

theorem isBlank_of_isAlphanumeric {c : Char} (h : isAlphanumeric c = true) : isBlank c = false := by
  rw [← Bool.not_eq_true]
  intro hblank
  have hother : isAlphanumeric c = false :=
    Unicode.SpanTable.not_contains_of_excludes_spans (by decide +kernel) hblank
  rw [h] at hother
  cases hother

theorem newline_not_mem_of_wordlike {name : String} (h : Wordlike name) : '\n' ∉ name.toList :=
  h.not_mem (by decide +kernel) (by decide)

theorem linePiece_of_wordlike {name : String} (h : Wordlike name) : LinePiece name where
  visible := by
    have hne : name.toList ≠ [] := fun hnil => h.ne_empty (String.toList_eq_nil_iff.1 hnil)
    obtain ⟨c, rest, hlist⟩ := List.exists_cons_of_ne_nil hne
    rw [hlist]
    rcases h.chars c (by simp [hlist]) with hc | rfl
    · simp [isBlank_of_isAlphanumeric hc]
    · have hunderscore : isBlank '_' = false := by decide +kernel
      simp [hunderscore]
  newline := newline_not_mem_of_wordlike h

/-! ## Texts that begin and end within a line -/

/-- A text that is not empty and neither begins nor ends with a line break. -/
structure Solid (text : String) : Prop where
  first : text.toList.head?.any (· != '\n') = true
  last : text.toList.getLast?.any (· != '\n') = true

namespace Solid

variable {a b : String}

theorem first_append (h : a.toList.head?.any (· != '\n') = true) (b : String) :
    (a ++ b).toList.head?.any (· != '\n') = true := by
  rw [String.toList_append, List.head?_append]
  cases hhead : a.toList.head? with
  | none =>
    rw [hhead] at h
    cases h
  | some c =>
    rw [hhead] at h
    exact h

theorem last_append (a : String) (h : b.toList.getLast?.any (· != '\n') = true) :
    (a ++ b).toList.getLast?.any (· != '\n') = true := by
  rw [String.toList_append, List.getLast?_append]
  cases hlast : b.toList.getLast? with
  | none =>
    rw [hlast] at h
    cases h
  | some c =>
    rw [hlast] at h
    exact h

/-- Whatever stands between two solid texts. -/
theorem join (ha : Solid a) (between : String) (hb : Solid b) : Solid (a ++ between ++ b) :=
  ⟨first_append (first_append ha.first between) b, last_append (a ++ between) hb.last⟩

theorem of_line (hne : a ≠ "") (h : '\n' ∉ a.toList) : Solid a := by
  have hlist : a.toList ≠ [] := fun hnil => hne (String.toList_eq_nil_iff.1 hnil)
  constructor
  · rw [List.head?_eq_some_head hlist, Option.any_some, bne_iff_ne]
    exact fun heq => h (heq ▸ List.head_mem hlist)
  · rw [List.getLast?_eq_some_getLast hlist, Option.any_some, bne_iff_ne]
    exact fun heq => h (heq ▸ List.getLast_mem hlist)

theorem intercalate (separator : String) {texts : List String} (hne : texts ≠ [])
    (h : ∀ text ∈ texts, Solid text) : Solid (separator.intercalate texts) := by
  induction texts with
  | nil => exact absurd rfl hne
  | cons text rest ih =>
    obtain ⟨htext, hrest⟩ := List.forall_mem_cons.1 h
    by_cases hnil : rest = []
    · subst hnil
      rw [String.intercalate_singleton]
      exact htext
    · rw [String.intercalate_cons_of_ne_nil hnil]
      exact htext.join separator (ih hnil hrest)

end Solid

/-! ## Import lines -/

/-- The lines at the head of a source are lines. -/
theorem importLine_solid {imports : List Import} {language : Language} {line : String}
    (h : line ∈ Import.lines imports language) : line ≠ "" ∧ '\n' ∉ line.toList := by
  cases language with
  | csharp =>
    rw [Import.lines] at h
    split at h
    · rw [List.mem_singleton.1 h]
      decide
    · cases h
  | python =>
    have htable : ∀ p ∈ Import.libraries, '\n' ∉ p.1.toList ∧ ∀ q ∈ p.2, '\n' ∉ q.2.toList := by
      decide +kernel
    rw [Import.lines_python] at h
    obtain ⟨taken, htaken, rfl⟩ := List.mem_map.1 h
    obtain ⟨p, hp, rfl⟩ := List.mem_map.1 (List.mem_filter.1 htaken).1
    obtain ⟨hlibrary, hnames⟩ := htable p hp
    constructor
    · intro hempty
      have hlength := congrArg String.length hempty
      simp only [Python.ImportLine.text, String.length_append] at hlength
      have hfrom : "from ".length = 5 := by decide
      have hzero : "".length = 0 := by decide
      omega
    · refine newline_not_mem_append (newline_not_mem_append
        (newline_not_mem_append (by decide) hlibrary) (by decide)) ?_
      refine newline_not_mem_intercalate (by decide) fun name hname => ?_
      obtain ⟨i, -, hpair⟩ := Import.mem_needed_iff.1 hname
      exact hnames _ hpair

/-! ## C# blocks -/

namespace CSharp

theorem header_first (form : Form) (name : String) (o : Options) :
    (header form name o).toList.head?.any (· != '\n') = true := by
  have hkeyword : o.access.keyword.toList.head?.any (· != '\n') = true := by
    cases o.access <;> decide
  unfold header
  iterate 5 refine Solid.first_append ?_ _
  exact hkeyword

/-- Whatever the members, a block begins with its access and ends with a bracket. -/
theorem solid_block (form : Form) (o : Options) (name : String) (fields : List Field) :
    Solid (block form o name fields) := by
  have hfirst := header_first form name o
  have hround : "\n);".toList.getLast?.any (· != '\n') = true := by decide
  have hcurly : "\n\x7d".toList.getLast?.any (· != '\n') = true := by decide
  cases form with
  | record =>
    rw [block]
    refine ⟨?_, Solid.last_append _ hround⟩
    iterate 3 refine Solid.first_append ?_ _
    exact hfirst
  | classType | structType =>
    rw [block]
    refine ⟨?_, Solid.last_append _ hcurly⟩
    iterate 3 refine Solid.first_append ?_ _
    exact hfirst

theorem solid_of_render {form : Form} {o : Options} {d : Declaration} {source : String}
    (h : render form o d = .ok source) : Solid source := by
  unfold render at h
  split at h
  · cases h
    exact solid_block form o d.name _
  · cases h

end CSharp

end SampleTypes
