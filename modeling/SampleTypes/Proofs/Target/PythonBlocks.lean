import SampleTypes.Proofs.Declaration.Reachability
import SampleTypes.Proofs.Target.Blocks

set_option autoImplicit false

/-! # Python blocks

The lines of a block carry its meaning. All types and identifiers are spelled within a line, so that
the lines are those the declaration is put together from. None of them is blank, and below the header
of the class each is indented by as many levels as it is deep (`Python.Laid`), which is deeper than the
header if and only if a level has any width. -/

namespace SampleTypes

open Naming (Wordlike)
open Unicode (isBlank)

/-! ## Spellings -/

theorem newline_not_mem_spellingOf {type : ValueType} {spelling : String}
    (h : Language.python.spellingOf type = .ok spelling) : '\n' ∉ spelling.toList := by
  cases type <;>
    simp only [Language.spellingOf, Language.alias?, pythonAlias?, reduceCtorEq] at h <;>
    cases h <;> decide

theorem newline_not_mem_mark (nullable : Bool) {inner : String} (h : '\n' ∉ inner.toList) :
    '\n' ∉ (Language.python.mark nullable inner).toList := by
  cases nullable
  · exact h
  · exact newline_not_mem_append (newline_not_mem_append (by decide) h) (by decide)

/-- A type is spelled within a line if the names in it are. -/
theorem newline_not_mem_spell {type : TypeExpr} (hnames : ∀ name ∈ type.named?, Wordlike name)
    {spelling : String} (h : type.spell .python = .ok spelling) : '\n' ∉ spelling.toList := by
  induction type generalizing spelling with
  | any => exact newline_not_mem_spellingOf h
  | value type => exact newline_not_mem_spellingOf h
  | named name =>
    cases h
    exact newline_not_mem_of_wordlike (hnames name rfl)
  | list item itemNullable ih =>
    rw [TypeExpr.spell] at h
    split at h
    · next inner hinner =>
      cases h
      have hmark := newline_not_mem_mark itemNullable (ih hnames hinner)
      exact newline_not_mem_append (newline_not_mem_append (by decide) hmark) (by decide)
    · cases h

theorem newline_not_mem_memberSpell {m : Member} (hnames : ∀ name ∈ m.type.named?, Wordlike name)
    {spelling : String} (h : m.spell .python = .ok spelling) : '\n' ∉ spelling.toList := by
  rw [Member.spell] at h
  split at h
  · next inner hinner =>
    cases h
    exact newline_not_mem_mark m.nullable (newline_not_mem_spell hnames hinner)
  · cases h

theorem newline_not_mem_spellAll {members : List Member}
    (hnames : ∀ name ∈ references members, Wordlike name) {types : List String}
    (h : spellAll .python members = .ok types) : ∀ type ∈ types, '\n' ∉ type.toList := by
  induction members generalizing types with
  | nil =>
    cases h
    exact fun type htype => absurd htype List.not_mem_nil
  | cons m rest ih =>
    rw [spellAll] at h
    split at h
    · cases h
    · next spelling hspelling =>
      split at h
      · next spellings hspellings =>
        cases h
        refine List.forall_mem_cons.2 ⟨?_, ?_⟩
        · exact newline_not_mem_memberSpell
            (fun name hname => hnames name (mem_references_cons.2 (.inl hname))) hspelling
        · exact ih (fun name hname => hnames name (mem_references_cons.2 (.inr hname))) hspellings
      · cases h

/-! ## Indentation -/

/-- The character that indentation is made of. -/
def IndentChar.toChar : IndentChar → Char
  | .space => ' '
  | .tab => '\t'

/-- The indentation of a line at some depth. -/
def Indentation.levels (i : Indentation) (depth : Nat) : List Char :=
  List.replicate (depth * i.width) i.char.toChar

namespace Indentation

variable (i : Indentation)

theorem toList_unit : i.unit.toList = i.levels 1 := by
  rw [unit, String.toList_ofList, levels, Nat.one_mul]
  cases i.char <;> rfl

theorem levels_two : i.levels 2 = i.levels 1 ++ i.levels 1 := by
  rw [levels, levels, Nat.two_mul, Nat.one_mul, List.replicate_add]

theorem length_levels (depth : Nat) : (i.levels depth).length = depth * i.width :=
  List.length_replicate

theorem mem_levels {depth : Nat} {c : Char} (h : c ∈ i.levels depth) :
    (c == ' ' || c == '\t') = true := by
  rw [List.eq_of_mem_replicate h]
  cases i.char <;> rfl

theorem newline_not_mem_levels (depth : Nat) : '\n' ∉ i.levels depth := by
  intro h
  exact absurd (i.mem_levels h) (by decide)

end Indentation

namespace Python

/-! ## The lines of a declaration -/

/-- The lines above the header of the class. -/
def above (form : Form) (o : Options) : List String :=
  match form with
  | .dataClass => [decorator o.mutability]
  | .plainClass => []

/-- The header of the class. -/
def header (d : Declaration) : String :=
  "class " ++ d.name ++ ":"

/-- The lines below the header, with their depths in place of their indentation. -/
def pieces (form : Form) (o : Options) (d : Declaration) (parameters : List String) :
    List (Nat × String) :=
  match form with
  | .dataClass => parameters.map fun p => (1, p)
  | .plainClass =>
    let returns := if o.typeHints then " -> None" else ""
    (1, "def __init__(self, " ++ ", ".intercalate parameters ++ ")" ++ returns ++ ":")
      :: (memberNames d).map fun name => (2, "self." ++ name ++ " = " ++ name)

/-- The depths of the lines below the header: members are one level deep, or else the constructor
    is, and its assignments are two. -/
def depths (form : Form) (count : Nat) : List Nat :=
  match form with
  | .dataClass => List.replicate count 1
  | .plainClass => 1 :: List.replicate count 2

variable {form : Form} {o : Options} {d : Declaration} {ps : List String}

theorem lines_eq (form : Form) (o : Options) (d : Declaration) (ps : List String) :
    lines form o d ps = above form o ++ header d :: (pieces form o d ps).map fun p =>
      String.ofList (o.indentation.levels p.1) ++ p.2 := by
  have hunit : o.indentation.unit = String.ofList (o.indentation.levels 1) := by
    rw [← Indentation.toList_unit, String.ofList_toList]
  have htwo : String.ofList (o.indentation.levels 2) =
      String.ofList (o.indentation.levels 1) ++ String.ofList (o.indentation.levels 1) := by
    rw [Indentation.levels_two, String.ofList_append]
  cases form <;> simp [lines, above, header, pieces, hunit, htwo, String.append_assoc]

theorem depths_pieces (hps : ps.length = d.members.length) :
    (pieces form o d ps).map (·.1) = depths form d.members.length := by
  cases form with
  | dataClass => simp [pieces, depths, List.map_const', hps, Function.comp_def]
  | plainClass =>
    simp [pieces, depths, List.map_const', length_memberNames, Function.comp_def]

/-- A parameter begins with its identifier and does not leave the line. -/
theorem linePiece_of_mem_parameters (hnames : ∀ name ∈ references d.members, Wordlike name)
    (h : parameters form o d = .ok ps) : ∀ p ∈ ps, LinePiece p := by
  unfold parameters at h
  split at h
  · split at h
    · next types htypes =>
      cases h
      intro p hp
      obtain ⟨⟨name, type⟩, hmem, rfl⟩ := List.mem_map.1 hp
      obtain ⟨hname, htype⟩ := List.of_mem_zip hmem
      refine ((linePiece_of_wordlike (wordlike_of_mem_memberNames hname)).append ?_).append ?_
      · decide
      · exact newline_not_mem_spellAll hnames htypes type htype
    · cases h
  · cases h
    exact fun name hname => linePiece_of_wordlike (wordlike_of_mem_memberNames hname)

theorem linePiece_of_mem_pieces (hps : ∀ p ∈ ps, LinePiece p) :
    ∀ p ∈ pieces form o d ps, LinePiece p.2 := by
  cases form with
  | dataClass =>
    intro p hp
    obtain ⟨parameter, hparameter, rfl⟩ := List.mem_map.1 hp
    exact hps parameter hparameter
  | plainClass =>
    refine List.forall_mem_cons.2 ⟨?_, ?_⟩
    · have hopen : LinePiece "def __init__(self, " := ⟨by decide +kernel, by decide⟩
      have hlist : '\n' ∉ (", ".intercalate ps).toList :=
        newline_not_mem_intercalate (by decide) fun p hp => (hps p hp).newline
      have hreturns : '\n' ∉ (if o.typeHints then " -> None" else "").toList := by
        split <;> decide
      exact (((hopen.append hlist).append (by decide)).append hreturns).append (by decide)
    · intro p hp
      obtain ⟨name, hname, rfl⟩ := List.mem_map.1 hp
      have hself : LinePiece "self." := ⟨by decide +kernel, by decide⟩
      have hline := newline_not_mem_of_wordlike (wordlike_of_mem_memberNames hname)
      exact ((hself.append hline).append (by decide)).append hline

theorem linePiece_above (form : Form) (o : Options) : ∀ line ∈ above form o, LinePiece line := by
  cases form with
  | dataClass =>
    intro line hline
    rw [List.mem_singleton.1 hline]
    cases o.mutability with
    | initOnly => exact ⟨by decide +kernel, by decide⟩
    | settable => exact ⟨by decide +kernel, by decide⟩
  | plainClass => exact fun line hline => absurd hline List.not_mem_nil

theorem linePiece_header (hname : Wordlike d.name) : LinePiece (header d) := by
  have hclass : LinePiece "class " := ⟨by decide +kernel, by decide⟩
  exact (hclass.append (newline_not_mem_of_wordlike hname)).append (by decide)

/-- No line is blank, and none is two. -/
theorem visible_of_mem_lines (hname : Wordlike d.name) (hps : ∀ p ∈ ps, LinePiece p) :
    ∀ line ∈ lines form o d ps, '\n' ∉ line.toList ∧ ∃ c ∈ line.toList, isBlank c = false := by
  have hpiece {text : String} (h : LinePiece text) :
      '\n' ∉ text.toList ∧ ∃ c ∈ text.toList, isBlank c = false := by
    obtain ⟨c, rest, hlist, hc⟩ := h.exists_cons
    exact ⟨h.newline, c, by simp [hlist], hc⟩
  rw [lines_eq]
  intro line hline
  rcases List.mem_append.1 hline with hline | hline
  · exact hpiece (linePiece_above form o line hline)
  · rcases List.mem_cons.1 hline with rfl | hline
    · exact hpiece (linePiece_header hname)
    · obtain ⟨p, hp, rfl⟩ := List.mem_map.1 hline
      obtain ⟨hnewline, c, hc, hvisible⟩ := hpiece (linePiece_of_mem_pieces hps p hp)
      refine ⟨newline_not_mem_append ?_ hnewline, c, ?_, hvisible⟩
      · rw [String.toList_ofList]
        exact o.indentation.newline_not_mem_levels p.1
      · rw [String.toList_append]
        exact List.mem_append_right _ hc

/-! ## The block of a declaration -/

/-- A block whose class stands at the margin and has these lines below its header. -/
structure Laid (form : Form) (o : Options) (d : Declaration) (below : List (List Char))
    (block : String) : Prop where
  lines : linesOf block = (above form o).map String.toList ++ (header d).toList :: below
  indents : below.map indentOf = (depths form d.members.length).map o.indentation.levels
  visible : ∀ line ∈ linesOf block, ∃ c ∈ line, isBlank c = false

/-- Where names are made of word characters, a block is laid out as its declaration is. -/
theorem exists_laid (hname : Wordlike d.name)
    (hnames : ∀ name ∈ references d.members, Wordlike name) {block : String}
    (h : render form o d = .ok block) : Solid block ∧ ∃ below, Laid form o d below block := by
  unfold render at h
  split at h
  · next ps hparameters =>
    cases h
    have hps := linePiece_of_mem_parameters hnames hparameters
    have hcount : ps.length = d.members.length := by
      rw [← length_memberNames, ← map_parameterName hparameters, List.length_map]
    have hall : ∀ line ∈ lines form o d ps, '\n' ∉ line.toList ∧ _ :=
      visible_of_mem_lines hname hps
    have hne : lines form o d ps ≠ [] := by
      rw [lines_eq]
      simp
    have hlines := linesOf_intercalate hne fun line hline => (hall line hline).1
    constructor
    · refine Solid.intercalate "\n" hne fun line hline => ?_
      obtain ⟨hnewline, c, hc, -⟩ := hall line hline
      refine .of_line ?_ hnewline
      rintro rfl
      cases hc
    · refine ⟨(pieces form o d ps).map fun p => o.indentation.levels p.1 ++ p.2.toList, ?_, ?_, ?_⟩
      · rw [hlines, lines_eq, List.map_append, List.map_cons, List.map_map]
        simp [Function.comp_def]
      · rw [← depths_pieces hcount, List.map_map, List.map_map]
        refine List.map_congr_left fun p hp => ?_
        exact (linePiece_of_mem_pieces hps p hp).indentOf_append fun c => o.indentation.mem_levels
      · rw [hlines]
        intro line hline
        obtain ⟨text, htext, rfl⟩ := List.mem_map.1 hline
        exact (hall text htext).2
  · cases h

theorem indentOf_header (d : Declaration) : indentOf (header d).toList = [] := by
  rw [header, String.toList_append, String.toList_append]
  rfl

theorem pos_of_mem_depths {count depth : Nat} (h : depth ∈ depths form count) : 0 < depth := by
  cases form with
  | dataClass =>
    rw [List.eq_of_mem_replicate h]
    exact Nat.one_pos
  | plainClass =>
    rcases List.mem_cons.1 h with rfl | h
    · exact Nat.one_pos
    · rw [List.eq_of_mem_replicate h]
      exact Nat.two_pos

theorem depths_ne_nil {count : Nat} (h : count ≠ 0) : depths form count ≠ [] := by
  cases form with
  | dataClass => simpa [depths] using h
  | plainClass => exact List.cons_ne_nil _ _

/-- The lines below the header are deeper than it if and only if a level has any width. -/
theorem Laid.deeper_iff {below : List (List Char)} {block : String}
    (h : Laid form o d below block) (hne : d.members ≠ []) :
    (∀ line ∈ below, (indentOf (header d).toList).length < (indentOf line).length) ↔
      o.indentation.width ≠ 0 := by
  have hlength : below.map (fun line => (indentOf line).length) =
      (depths form d.members.length).map (· * o.indentation.width) := by
    have hindents := congrArg (List.map List.length) h.indents
    simpa [List.map_map, Function.comp_def, Indentation.length_levels] using hindents
  have hall : (∀ line ∈ below, 0 < (indentOf line).length) ↔
      ∀ depth ∈ depths form d.members.length, 0 < depth * o.indentation.width := by
    rw [← List.forall_mem_map (f := fun line => (indentOf line).length) (P := (0 < ·)), hlength,
      List.forall_mem_map]
  rw [indentOf_header, List.length_nil, hall]
  constructor
  · intro hdeeper hzero
    have hcount : d.members.length ≠ 0 := by simpa using hne
    have hdepths : depths form d.members.length ≠ [] := depths_ne_nil hcount
    obtain ⟨depth, hdepth⟩ := List.exists_mem_of_ne_nil _ hdepths
    have hpos := hdeeper depth hdepth
    rw [hzero, Nat.mul_zero] at hpos
    exact absurd hpos (lt_irrefl 0)
  · intro hwidth depth hdepth
    exact Nat.mul_pos (pos_of_mem_depths hdepth) (Nat.pos_of_ne_zero hwidth)

end Python

end SampleTypes
