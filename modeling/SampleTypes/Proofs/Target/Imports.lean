import Mathlib.Data.List.Basic
import Mathlib.Data.List.Flatten
import SampleTypes.Target.Render

set_option autoImplicit false

/-! # What a source imports

The head of a source takes from libraries the names that the types below it are spelled with, each
of them once and in a fixed order, and no others. Types stand inside lists at any depth, and a
type is marked as nullable in two places: where it is that of a member and where it is that of the
items of a list. What a type needs is read off its parts one at a time (`Import.mem_ofPart_csharp`,
`Import.mem_ofPart_python`); an empty source has no head. -/

namespace SampleTypes

/-! ## Types inside types -/

/-- The type and, if it is a list, the parts of its items. -/
def TypeExpr.parts : TypeExpr → List TypeExpr
  | .any => [.any]
  | .value type => [.value type]
  | .named name => [.named name]
  | .list item itemNullable => .list item itemNullable :: item.parts

/-- Whether the type is a value type, or anything. -/
def TypeExpr.isPlain : TypeExpr → Bool
  | .any => true
  | .value _ => true
  | .named _ => false
  | .list _ _ => false

/-- The types of all members, with those inside them at any depth. -/
def typesIn (declarations : List Declaration) : List TypeExpr :=
  declarations.flatMap fun d => d.members.flatMap fun m => m.type.parts

/-! ## Exact heads -/

namespace Python

/-- A line that takes names from a library. -/
structure ImportLine where
  library : String
  names : List String
  deriving Repr, DecidableEq

namespace ImportLine

/-- The text of a line. -/
def text (line : ImportLine) : String :=
  "from " ++ line.library ++ " import " ++ ", ".intercalate line.names

/-- The names that lines take, with their libraries. -/
def taken (lines : List ImportLine) : List (String × String) :=
  lines.flatMap fun line => line.names.map fun name => (line.library, name)

end ImportLine

/-- All that a head may take, in its order. -/
def importable : List (String × String) :=
  [("__future__", "annotations"), ("dataclasses", "dataclass"), ("datetime", "datetime"),
    ("datetime", "timedelta"), ("decimal", "Decimal"), ("typing", "Any"), ("typing", "List"),
    ("typing", "Optional"), ("uuid", "UUID")]

/-- These lines take what annotated declarations are spelled with and nothing else, each library
    and each name once and in order. -/
structure ImportsExact (style : Style) (declarations : List Declaration)
    (lines : List ImportLine) : Prop where
  libraries_sublist : (lines.map (·.library)).Sublist
    ["__future__", "dataclasses", "datetime", "decimal", "typing", "uuid"]
  names_ne_nil : ∀ line ∈ lines, line.names ≠ []
  taken_sublist : (ImportLine.taken lines).Sublist importable
  annotations : ("__future__", "annotations") ∈ ImportLine.taken lines ↔
    ∃ name, .named name ∈ typesIn declarations
  dataclass : ("dataclasses", "dataclass") ∈ ImportLine.taken lines ↔ style = .dataClass
  list : ("typing", "List") ∈ ImportLine.taken lines ↔
    ∃ item itemNullable, .list item itemNullable ∈ typesIn declarations
  optional : ("typing", "Optional") ∈ ImportLine.taken lines ↔
    (∃ d ∈ declarations, ∃ m ∈ d.members, m.nullable = true) ∨
      ∃ item, .list item true ∈ typesIn declarations
  spelled : ∀ p ∈ [("datetime", "datetime"), ("datetime", "timedelta"), ("decimal", "Decimal"),
      ("typing", "Any"), ("uuid", "UUID")],
    p ∈ ImportLine.taken lines ↔
      ∃ type ∈ typesIn declarations, type.isPlain = true ∧ type.spell .python = .ok p.2

end Python

/-- The lines at the head of a source name what its types are spelled with, and nothing else. -/
def ImportsExact (o : Options) (declarations : List Declaration) (lines : List String) : Prop :=
  match o.style.language with
  | .csharp =>
    lines.Sublist ["using System;"] ∧
      ("using System;" ∈ lines ↔
        ∃ type ∈ [ValueType.uuid, .dateTime, .offsetDateTime, .timeSpan],
          .value type ∈ typesIn declarations)
  | .python =>
    if o.style = .dataClass ∨ o.typeHints = true then
      ∃ imports, Python.ImportsExact o.style declarations imports ∧
        lines = imports.map (·.text)
    else lines = []

/-- The head with these lines: a blank line stands below them, if there are any. -/
def headOf (lines : List String) : String :=
  if lines = [] then "" else "\n".intercalate lines ++ "\n\n"

/-! ## What is needed -/

namespace Import

variable {language : Language} {imports : List Import} {declarations : List Declaration}

/-- What a type needs, the items of a list aside. -/
def ofPart (language : Language) : TypeExpr → List Import
  | .any => ofType language .any
  | .value type => ofType language (.value type)
  | .named name => ofType language (.named name)
  | .list _ itemNullable =>
    ofMark language itemNullable
      ++ match language with
        | .csharp => []
        | .python => [.list]

theorem ofType_list (language : Language) (item : TypeExpr) (itemNullable : Bool) :
    ofType language (.list item itemNullable)
      = ofType language item ++ ofPart language (.list item itemNullable) := by
  cases language <;> simp only [ofType, ofPart, List.append_assoc]

theorem mem_ofType_iff {i : Import} {type : TypeExpr} :
    i ∈ ofType language type ↔ ∃ part ∈ type.parts, i ∈ ofPart language part := by
  induction type with
  | any => simp [TypeExpr.parts, ofPart]
  | value type => simp [TypeExpr.parts, ofPart]
  | named name => simp [TypeExpr.parts, ofPart]
  | list item itemNullable ih =>
    rw [ofType_list, List.mem_append, ih, TypeExpr.parts, List.exists_mem_cons_iff, or_comm]

/-- Declarations need what their types and the marks of their members need. -/
theorem mem_ofDeclarations_iff {i : Import} :
    i ∈ ofDeclarations language declarations ↔
      (∃ part ∈ typesIn declarations, i ∈ ofPart language part) ∨
        ∃ d ∈ declarations, ∃ m ∈ d.members, i ∈ ofMark language m.nullable := by
  simp only [ofDeclarations, ofMember, typesIn, List.mem_flatMap, List.mem_append, mem_ofType_iff]
  constructor
  · rintro ⟨d, hd, m, hm, ⟨part, hpart, hi⟩ | hi⟩
    · exact .inl ⟨part, ⟨d, hd, m, hm, hpart⟩, hi⟩
    · exact .inr ⟨d, hd, m, hm, hi⟩
  · rintro (⟨part, ⟨d, hd, m, hm, hpart⟩, hi⟩ | ⟨d, hd, m, hm, hi⟩)
    · exact ⟨d, hd, m, hm, .inl ⟨part, hpart, hi⟩⟩
    · exact ⟨d, hd, m, hm, .inr hi⟩

/-- The names that plain types are spelled with and that are taken from a library. -/
def spelled : List (Import × String) :=
  [(.datetime, "datetime"), (.timedelta, "timedelta"), (.decimal, "Decimal"), (.any, "Any"),
    (.uuid, "UUID")]

theorem mem_ofPart_csharp {i : Import} {part : TypeExpr} :
    i ∈ ofPart .csharp part ↔
      i = .system ∧ ∃ type ∈ [ValueType.uuid, .dateTime, .offsetDateTime, .timeSpan],
        part = .value type := by
  cases part with
  | any => simp [ofPart, ofType, ofValueType]
  | value type => cases type <;> simp [ofPart, ofType, ofValueType]
  | named name => simp [ofPart, ofType]
  | list item itemNullable => simp [ofPart, ofMark]

/-- All that a part of a type needs in an annotation. -/
theorem mem_ofPart_python {i : Import} {part : TypeExpr} :
    i ∈ ofPart .python part ↔
      (i = .annotations ∧ ∃ name, part = .named name) ∨
      (i = .list ∧ ∃ item itemNullable, part = .list item itemNullable) ∨
      (i = .optional ∧ ∃ item, part = .list item true) ∨
      ∃ name, (i, name) ∈ spelled ∧ part.isPlain = true ∧ part.spell .python = .ok name := by
  cases part with
  | any => simp [ofPart, ofType, ofValueType, spelled, TypeExpr.isPlain, TypeExpr.spell,
      Language.spellingOf, Language.alias?, pythonAlias?]
  | value type =>
    cases type <;> simp [ofPart, ofType, ofValueType, spelled, TypeExpr.isPlain, TypeExpr.spell,
      Language.spellingOf, Language.alias?, pythonAlias?]
  | named name => simp [ofPart, ofType, TypeExpr.isPlain]
  | list item itemNullable =>
    cases itemNullable <;> simp [ofPart, ofMark, TypeExpr.isPlain, or_comm]

theorem mem_ofMark_csharp {i : Import} {nullable : Bool} : i ∉ ofMark .csharp nullable := by
  cases nullable <;> simp [ofMark]

theorem mem_ofMark_python {i : Import} {nullable : Bool} :
    i ∈ ofMark .python nullable ↔ i = .optional ∧ nullable = true := by
  cases nullable <;> simp [ofMark]

theorem mem_ofDeclarations_csharp {i : Import} :
    i ∈ ofDeclarations .csharp declarations ↔
      i = .system ∧ ∃ type ∈ [ValueType.uuid, .dateTime, .offsetDateTime, .timeSpan],
        .value type ∈ typesIn declarations := by
  simp only [mem_ofDeclarations_iff, mem_ofPart_csharp, mem_ofMark_csharp, and_false, exists_false,
    or_false]
  constructor
  · rintro ⟨part, hpart, hi, type, htype, rfl⟩
    exact ⟨hi, type, htype, hpart⟩
  · rintro ⟨hi, type, htype, hpart⟩
    exact ⟨_, hpart, hi, type, htype, rfl⟩

/-- All that declarations need in their annotations. -/
theorem mem_ofDeclarations_python {i : Import} :
    i ∈ ofDeclarations .python declarations ↔
      (i = .annotations ∧ ∃ name, .named name ∈ typesIn declarations) ∨
      (i = .list ∧ ∃ item itemNullable, .list item itemNullable ∈ typesIn declarations) ∨
      (i = .optional ∧ ((∃ d ∈ declarations, ∃ m ∈ d.members, m.nullable = true) ∨
        ∃ item, .list item true ∈ typesIn declarations)) ∨
      ∃ name, (i, name) ∈ spelled ∧ ∃ type ∈ typesIn declarations,
        type.isPlain = true ∧ type.spell .python = .ok name := by
  simp only [mem_ofDeclarations_iff, mem_ofPart_python, mem_ofMark_python]
  constructor
  · rintro (⟨part, hpart, ⟨hi, name, rfl⟩ | ⟨hi, item, itemNullable, rfl⟩ | ⟨hi, item, rfl⟩ |
      ⟨name, hi, hspell⟩⟩ | ⟨d, hd, m, hm, hi, hnullable⟩)
    · exact .inl ⟨hi, name, hpart⟩
    · exact .inr (.inl ⟨hi, item, itemNullable, hpart⟩)
    · exact .inr (.inr (.inl ⟨hi, .inr ⟨item, hpart⟩⟩))
    · exact .inr (.inr (.inr ⟨name, hi, part, hpart, hspell⟩))
    · exact .inr (.inr (.inl ⟨hi, .inl ⟨d, hd, m, hm, hnullable⟩⟩))
  · rintro (⟨hi, name, hpart⟩ | ⟨hi, item, itemNullable, hpart⟩ |
      ⟨hi, ⟨d, hd, m, hm, hnullable⟩ | ⟨item, hpart⟩⟩ | ⟨name, hi, part, hpart, hspell⟩)
    · exact .inl ⟨_, hpart, .inl ⟨hi, name, rfl⟩⟩
    · exact .inl ⟨_, hpart, .inr (.inl ⟨hi, item, itemNullable, rfl⟩)⟩
    · exact .inr ⟨d, hd, m, hm, hi, hnullable⟩
    · exact .inl ⟨_, hpart, .inr (.inr (.inl ⟨hi, item, rfl⟩))⟩
    · exact .inl ⟨part, hpart, .inr (.inr (.inr ⟨name, hi, hspell⟩))⟩

/-! ## Lines -/

/-- The libraries in the order of the head, with what may be taken from each of them. -/
def libraries : List (String × List (Import × String)) :=
  [("__future__", [(.annotations, "annotations")]), ("dataclasses", [(.dataclass, "dataclass")]),
    ("datetime", [(.datetime, "datetime"), (.timedelta, "timedelta")]),
    ("decimal", [(.decimal, "Decimal")]),
    ("typing", [(.any, "Any"), (.list, "List"), (.optional, "Optional")]),
    ("uuid", [(.uuid, "UUID")])]

/-- The lines for these libraries, without those that would take nothing. -/
def importLines (imports : List Import) (libraries : List (String × List (Import × String))) :
    List Python.ImportLine :=
  (libraries.map fun p => ⟨p.1, needed imports p.2⟩).filter fun line => !line.names.isEmpty

theorem importLines_cons (imports : List Import) (library : String)
    (pairs : List (Import × String)) (rest : List (String × List (Import × String))) :
    importLines imports ((library, pairs) :: rest) =
      if needed imports pairs = [] then importLines imports rest
      else ⟨library, needed imports pairs⟩ :: importLines imports rest := by
  rw [importLines, List.map_cons]
  split_ifs with h
  · rw [List.filter_cons_of_neg (by simp [h])]
    rfl
  · rw [List.filter_cons_of_pos (by simp [h])]
    rfl

theorem flatMap_fromLine (imports : List Import)
    (libraries : List (String × List (Import × String))) :
    (libraries.flatMap fun p => fromLine imports p.1 p.2)
      = (importLines imports libraries).map (·.text) := by
  induction libraries with
  | nil => rfl
  | cons p rest ih =>
    obtain ⟨library, pairs⟩ := p
    rw [List.flatMap_cons, ih, importLines_cons, fromLine]
    split
    · next h => rw [if_pos h, List.nil_append]
    · next h => rw [if_neg h]; rfl

theorem taken_importLines (imports : List Import)
    (libraries : List (String × List (Import × String))) :
    Python.ImportLine.taken (importLines imports libraries)
      = libraries.flatMap fun p => (needed imports p.2).map fun name => (p.1, name) := by
  induction libraries with
  | nil => rfl
  | cons p rest ih =>
    obtain ⟨library, pairs⟩ := p
    rw [importLines_cons, List.flatMap_cons, ← ih]
    split_ifs with h
    · rw [h, List.map_nil, List.nil_append]
    · rfl

theorem mem_needed_iff {imports : List Import} {pairs : List (Import × String)} {name : String} :
    name ∈ needed imports pairs ↔ ∃ i ∈ imports, (i, name) ∈ pairs := by
  simp [needed, and_comm]

/-- A library and a name in it stand for one import. -/
theorem import_eq_of_mem_libraries :
    ∀ p ∈ libraries, ∀ q ∈ libraries, p.1 = q.1 →
      ∀ a ∈ p.2, ∀ b ∈ q.2, a.2 = b.2 → a.1 = b.1 := by
  decide +kernel

/-- Whether the name of an import is taken is whether the import is needed. -/
theorem mem_taken_iff {i : Import} {library name : String}
    (h : ∃ p ∈ libraries, p.1 = library ∧ (i, name) ∈ p.2) :
    (library, name) ∈ Python.ImportLine.taken (importLines imports libraries) ↔ i ∈ imports := by
  obtain ⟨p, hp, hlibrary, hi⟩ := h
  simp only [taken_importLines, List.mem_flatMap, List.mem_map, mem_needed_iff, Prod.mk.injEq]
  constructor
  · rintro ⟨q, hq, name, ⟨j, hj, hname⟩, hqlibrary, rfl⟩
    have heq : j = i := import_eq_of_mem_libraries q hq p hp (hqlibrary.trans hlibrary.symm)
      _ hname _ hi rfl
    exact heq ▸ hj
  · intro himport
    exact ⟨p, hp, name, ⟨i, himport, hi⟩, hlibrary, rfl⟩

theorem needed_sublist (imports : List Import) (pairs : List (Import × String)) :
    (needed imports pairs).Sublist (pairs.map (·.2)) :=
  List.filter_sublist.map _

/-- What is taken is taken in the order of the table. -/
theorem taken_sublist (imports : List Import) (libraries : List (String × List (Import × String))) :
    (Python.ImportLine.taken (importLines imports libraries)).Sublist
      (libraries.flatMap fun p => p.2.map fun q => (p.1, q.2)) := by
  rw [taken_importLines]
  refine List.Sublist.flatMap_right libraries fun p _ => ?_
  have h := (needed_sublist imports p.2).map fun name => (p.1, name)
  rwa [List.map_map] at h

/-- A name that plain types are spelled with is needed where one of them is. -/
theorem mem_ofDeclarations_spelled {i : Import} {name : String} (h : (i, name) ∈ spelled) :
    i ∈ ofDeclarations .python declarations ↔
      ∃ type ∈ typesIn declarations, type.isPlain = true ∧ type.spell .python = .ok name := by
  rw [mem_ofDeclarations_python]
  simp only [spelled, List.mem_cons, List.not_mem_nil, or_false, Prod.mk.injEq] at h
  rcases h with ⟨rfl, rfl⟩ | ⟨rfl, rfl⟩ | ⟨rfl, rfl⟩ | ⟨rfl, rfl⟩ | ⟨rfl, rfl⟩ <;> simp [spelled]

/-- Lines for a data class, if that is the style, and for what declarations need. -/
theorem importsExact_importLines {style : Style}
    (himports : ∀ i, i ∈ imports ↔
      (i = .dataclass ∧ style = .dataClass) ∨ i ∈ ofDeclarations .python declarations) :
    Python.ImportsExact style declarations (importLines imports libraries) where
  libraries_sublist := by
    have h : (importLines imports libraries).Sublist _ := List.filter_sublist
    exact h.map (·.library)
  names_ne_nil := by
    intro line hline
    simpa using (List.mem_filter.1 hline).2
  taken_sublist := taken_sublist imports libraries
  annotations := by
    rw [mem_taken_iff (i := .annotations) (by decide +kernel), himports, mem_ofDeclarations_python]
    simp [spelled]
  dataclass := by
    rw [mem_taken_iff (i := .dataclass) (by decide +kernel), himports, mem_ofDeclarations_python]
    simp [spelled]
  list := by
    rw [mem_taken_iff (i := .list) (by decide +kernel), himports, mem_ofDeclarations_python]
    simp [spelled]
  optional := by
    rw [mem_taken_iff (i := .optional) (by decide +kernel), himports, mem_ofDeclarations_python]
    simp [spelled]
  spelled := by
    have hspelled {i : Import} {library name : String}
        (h : ∃ p ∈ libraries, p.1 = library ∧ (i, name) ∈ p.2) (hi : (i, name) ∈ spelled)
        (hne : i ≠ .dataclass) :
        (library, name) ∈ Python.ImportLine.taken (importLines imports libraries) ↔
          ∃ type ∈ typesIn declarations, type.isPlain = true ∧ type.spell .python = .ok name := by
      rw [mem_taken_iff h, himports, mem_ofDeclarations_spelled hi]
      simp [hne]
    simp only [List.forall_mem_cons]
    refine ⟨hspelled (i := .datetime) ?_ ?_ ?_, hspelled (i := .timedelta) ?_ ?_ ?_,
      hspelled (i := .decimal) ?_ ?_ ?_, hspelled (i := .any) ?_ ?_ ?_,
      hspelled (i := .uuid) ?_ ?_ ?_, fun _ h => absurd h List.not_mem_nil⟩ <;> decide +kernel

theorem lines_python (imports : List Import) :
    lines imports .python = (importLines imports libraries).map (·.text) := by
  rw [← flatMap_fromLine]
  simp [lines, libraries]

/-- The one line of a C# head stands there if a type is in the namespace that it opens. -/
theorem importsExact_csharp (declarations : List Declaration) :
    (lines (ofDeclarations .csharp declarations) .csharp).Sublist ["using System;"] ∧
      ("using System;" ∈ lines (ofDeclarations .csharp declarations) .csharp ↔
        ∃ type ∈ [ValueType.uuid, .dateTime, .offsetDateTime, .timeSpan],
          .value type ∈ typesIn declarations) := by
  have hsystem : Import.system ∈ ofDeclarations .csharp declarations ↔ _ :=
    mem_ofDeclarations_csharp
  rw [lines]
  split
  · next h =>
    have hused := (hsystem.1 (List.contains_iff_mem.1 h)).2
    exact ⟨List.Sublist.refl _, iff_of_true List.mem_cons_self hused⟩
  · next h =>
    refine ⟨List.nil_sublist _, iff_of_false List.not_mem_nil fun hused => h ?_⟩
    exact List.contains_iff_mem.2 (hsystem.2 ⟨rfl, hused⟩)

end Import

/-! ## Sources -/

theorem importBlock_eq (o : Options) (declarations : List Declaration) :
    importBlock o declarations
      = headOf (Import.lines (importsFor o declarations) o.style.language) := by
  unfold importBlock headOf
  split
  · next h => rw [h, if_pos rfl]
  · next h => rw [if_neg h]

/-- The import lines of every style are exact. -/
theorem importsExact_lines (o : Options) (declarations : List Declaration) :
    ImportsExact o declarations (Import.lines (importsFor o declarations) o.style.language) := by
  unfold ImportsExact importsFor
  cases hstyle : o.style with
  | record | classType | structType => exact Import.importsExact_csharp declarations
  | dataClass =>
    simp only [Style.language, true_or, if_true]
    exact ⟨_, Import.importsExact_importLines (by simp), Import.lines_python _⟩
  | plainClass =>
    simp only [Style.language, reduceCtorEq, false_or]
    by_cases hhints : o.typeHints = true
    · rw [if_pos hhints, if_pos hhints]
      exact ⟨_, Import.importsExact_importLines (by simp), Import.lines_python _⟩
    · rw [if_neg hhints, if_neg hhints]
      rfl

theorem forall₂_of_renderAll {o : Options} {declarations : List Declaration}
    {blocks : List String} (h : renderAll o declarations = .ok blocks) :
    List.Forall₂ (fun d block => d.render o = .ok block) declarations blocks := by
  induction declarations generalizing blocks with
  | nil => cases h; exact .nil
  | cons d rest ih =>
    rw [renderAll] at h
    split at h
    · cases h
    · next block hblock =>
      split at h
      · next blocks hblocks => cases h; exact .cons hblock (ih hblocks)
      · cases h

/-- Where there are declarations, the head of their source is exact. Where there are none, there
    is no head in any style. -/
theorem imports_exact {o : Options} {declarations : List Declaration} {source : String}
    (h : renderDeclarations o declarations = .ok source) :
    (declarations = [] → source = "") ∧
      (declarations ≠ [] → ∃ lines blocks, ImportsExact o declarations lines ∧
        List.Forall₂ (fun d block => d.render o = .ok block) declarations blocks ∧
        source = headOf lines ++ "\n\n".intercalate blocks ++ "\n") := by
  unfold renderDeclarations at h
  constructor
  · rintro rfl
    cases h
    rfl
  · intro hne
    rw [if_neg (by simpa using hne)] at h
    split at h
    · next blocks hblocks =>
      cases h
      exact ⟨_, blocks, importsExact_lines o declarations, forall₂_of_renderAll hblocks,
        by rw [importBlock_eq]⟩
    · cases h

/-- Items that may be missing ask for a name where no member may, a declaration that bears the name
    of a library type asks for no library, and two types that are spelled alike ask once. -/
theorem event_imports_exact :
    let o := Options.forLanguage .python
    let declarations : List Declaration :=
      [⟨"Event", [⟨"ids", .list (.list (.value .uuid) false) true, false⟩,
          ⟨"at", .value .dateTime, false⟩, ⟨"till", .value .offsetDateTime, false⟩,
          ⟨"cost", .named "Decimal", false⟩]⟩,
        ⟨"Decimal", [⟨"net", .value .int32, false⟩]⟩]
    let source := "\n".intercalate [
      "from __future__ import annotations", "from dataclasses import dataclass",
      "from datetime import datetime", "from typing import List, Optional",
      "from uuid import UUID", "",
      "@dataclass(frozen=True)", "class Event:", "    ids: List[Optional[List[UUID]]]",
      "    at: datetime", "    till: datetime", "    cost: Decimal", "",
      "@dataclass(frozen=True)", "class Decimal:", "    net: int", ""]
    renderDeclarations o declarations = .ok source ∧
      ∃ lines blocks, ImportsExact o declarations lines ∧
        List.Forall₂ (fun d block => d.render o = .ok block) declarations blocks ∧
        source = headOf lines ++ "\n\n".intercalate blocks ++ "\n" := by
  intro o declarations source
  have h : renderDeclarations o declarations = .ok source := by decide +kernel
  exact ⟨h, (imports_exact h).2 (by simp [declarations])⟩

theorem headOf_eq_empty {lines : List String} {rest : String} (h : "" = headOf lines ++ rest) :
    lines = [] := by
  by_contra hne
  rw [headOf, if_neg hne] at h
  have hlength := congrArg String.length h
  simp only [String.length_append] at hlength
  have hblank : "\n\n".length = 2 := by decide
  have hempty : "".length = 0 := by decide
  omega

/-- The source without declarations takes nothing, also where the style is the data class. -/
theorem empty_source_without_imports :
    renderDeclarations (.forLanguage .python) [] = .ok "" ∧
      (Options.forLanguage .python).style = .dataClass ∧
      ¬ ∃ lines rest, "" = headOf lines ++ rest ∧ ImportsExact (.forLanguage .python) [] lines := by
  refine ⟨rfl, rfl, ?_⟩
  rintro ⟨lines, rest, hsource, hexact⟩
  rw [headOf_eq_empty hsource] at hexact
  obtain ⟨imports, himports, hlines⟩ := hexact
  rw [List.map_eq_nil_iff.1 hlines.symm] at himports
  exact List.not_mem_nil (himports.dataclass.2 rfl)

end SampleTypes
