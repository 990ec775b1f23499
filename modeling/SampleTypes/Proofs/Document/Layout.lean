import SampleTypes.Proofs.Declaration.Names
import SampleTypes.Proofs.Document.Faults
import SampleTypes.Proofs.Target.PythonBlocks

set_option autoImplicit false

/-! # The layout of a source

Below its imports a source has one block for each declaration, the root's first. One blank line
stands below the imports and one between two blocks, and the text ends in a single line break
(`LaidOut`). Only a document whose root has no keys has an empty source. In Python the blocks hold no
blank line, and what is below the header of a class is deeper than the header unless indentation
has no width. -/

namespace SampleTypes

open Json (Bytes Value)
open Naming (Wordlike)

/-! ## The root -/

theorem rootValues_ne_nil {root : Property} {objects : List Property} (hroot : root.Annotates)
    (h : rootObjects root = .ok objects) : rootValues root.node ≠ [] := by
  rw [← (rootObjects_ok hroot h).1, ne_eq, List.map_eq_nil_iff]
  cases hobject : root.node.isObject with
  | true =>
    rw [rootObjects_of_object hobject] at h
    cases h
    exact List.cons_ne_nil _ _
  | false =>
    cases harray : root.node.isArray with
    | true => exact ((rootObjects_array_iff harray).1 h).2.1
    | false =>
      rw [rootObjects, hobject, harray] at h
      cases h

/-- There are slots if and only if the root has a key. -/
theorem rootMembers_eq_nil_iff {root : Property} {slots : List (String × Shape × Bool)}
    (hroot : root.Annotates) (h : rootMembers root = .ok slots) :
    slots = [] ↔ ∀ v ∈ rootValues root.node, v = .object [] := by
  have hdescribe := rootMembers_describe hroot h
  constructor
  · rintro rfl v hv
    obtain ⟨members, rfl, hkeys, -⟩ := hdescribe v hv
    have hnil : members = [] := by
      rw [List.eq_nil_iff_forall_not_mem]
      intro m hm
      exact List.not_mem_nil ((hkeys m.1).1 (List.mem_map_of_mem hm))
    rw [hnil]
  · intro hall
    obtain ⟨objects, -, hobjects, -⟩ := rootMembers_eq_ok.1 h
    obtain ⟨v, hv⟩ := List.exists_mem_of_ne_nil _ (rootValues_ne_nil hroot hobjects)
    obtain ⟨members, hobject, hkeys, -⟩ := hdescribe v hv
    obtain rfl : members = [] := by
      rw [hall v hv] at hobject
      cases hobject
      rfl
    rw [List.eq_nil_iff_forall_not_mem]
    intro slot hslot
    exact List.not_mem_nil ((hkeys slot.1).2 (List.mem_map_of_mem hslot))

/-- Whether a declaration is that of the root: it bears the name of the root, and has a member for
    each key of the root's values. -/
structure DeclaresRoot (rootName : String) (language : Language) (document : Value)
    (d : Declaration) : Prop where
  name : d.name = Naming.fresh language.reservedNames "" rootName
  keys : ∀ v ∈ rootValues document, ∃ entries, v = .object entries ∧
    ∀ key, key ∈ entries.map (·.1) ↔ key ∈ d.members.map (·.key)

/-- A document declares its root in front, or nothing if its root has no keys. -/
theorem declarationsFor_root {rootName : String} {language : Language} {document : Value}
    {declarations : List Declaration}
    (h : declarationsFor rootName language document = .ok declarations) :
    rootValues document ≠ [] ∧
      (declarations = [] ↔ ∀ v ∈ rootValues document, v = .object []) ∧
      (declarations ≠ [] → ∃ root rest, declarations = root :: rest ∧
        DeclaresRoot rootName language document root) := by
  obtain ⟨root, slots, hroot, hslots, rfl⟩ := exists_root_of_declarationsFor h
  obtain ⟨hannotates, rfl⟩ := Property.root_annotates hroot
  obtain ⟨objects, -, hobjects, -⟩ := rootMembers_eq_ok.1 hslots
  refine ⟨rootValues_ne_nil hannotates hobjects, ?_⟩
  rw [← rootMembers_eq_nil_iff hannotates hslots]
  by_cases hne : slots = []
  · subst hne
    rw [declarationsOf_nil]
    exact ⟨iff_of_true rfl rfl, fun hnil => absurd rfl hnil⟩
  · rw [declarationsOf_eq rootName language hne]
    refine ⟨iff_of_false (List.cons_ne_nil _ _) hne, fun _ => ⟨_, _, rfl, rfl, ?_⟩⟩
    intro v hv
    obtain ⟨entries, hobject, hkeys, -⟩ := rootMembers_describe hannotates hslots v hv
    refine ⟨entries, hobject, ?_⟩
    rw [Shape.declareSlots_keys]
    exact hkeys

/-! ## Blocks -/

/-- The form that a Python style has. -/
def Style.pythonForm? : Style → Option Python.Form
  | .record | .classType | .structType => none
  | .dataClass => some .dataClass
  | .plainClass => some .plainClass

/-- Whether all lines below the header of a class are deeper than the header. -/
def Python.Deeper (d : Declaration) (below : List (List Char)) : Prop :=
  ∀ line ∈ below, (indentOf (header d).toList).length < (indentOf line).length

/-- Whether a text is the block of a declaration, laid out in Python as its form asks for. -/
structure IsBlock (o : Options) (d : Declaration) (block : String) : Prop where
  render_eq : d.render o = .ok block
  solid : Solid block
  python : ∀ form, o.style.pythonForm? = some form → ∃ below, Python.Laid form o d below block ∧
    (Python.Deeper d below ↔ o.indentation.width ≠ 0)

/-- Whether a declaration has members, and bears and refers to names of word characters. -/
structure Declaration.Usable (d : Declaration) : Prop where
  name : Wordlike d.name
  references : ∀ name ∈ references d.members, Wordlike name
  members_ne_nil : d.members ≠ []

namespace IsBlock

variable {o : Options} {d : Declaration} {block : String}

theorem of_csharp {form : CSharp.Form} (hstyle : o.style.pythonForm? = none)
    (hform : d.render o = CSharp.render form o d) (h : d.render o = .ok block) :
    IsBlock o d block where
  render_eq := h
  solid := CSharp.solid_of_render (hform.symm.trans h)
  python := by
    intro form hsome
    rw [hstyle] at hsome
    cases hsome

theorem of_python {form : Python.Form} (hd : d.Usable) (hstyle : o.style.pythonForm? = some form)
    (hform : d.render o = Python.render form o d) (h : d.render o = .ok block) :
    IsBlock o d block := by
  obtain ⟨hsolid, below, hlaid⟩ := Python.exists_laid hd.name hd.references (hform.symm.trans h)
  refine ⟨h, hsolid, fun form' hsome => ?_⟩
  obtain rfl : form = form' := Option.some.inj (hstyle.symm.trans hsome)
  exact ⟨below, hlaid, hlaid.deeper_iff hd.members_ne_nil⟩

theorem of_render (hd : d.Usable) (h : d.render o = .ok block) : IsBlock o d block := by
  cases hstyle : o.style
  case record | classType | structType =>
    exact .of_csharp (by rw [hstyle]; rfl) (by rw [Declaration.render, hstyle]) h
  case dataClass | plainClass =>
    exact .of_python hd (by rw [hstyle]; rfl) (by rw [Declaration.render, hstyle]) h

end IsBlock

/-! ## Sources -/

/-- Whether a text is these blocks below these imports, each block that of its declaration. As blocks
    are solid and import lines are not empty, what stands between them are single blank lines. -/
structure LaidOut (o : Options) (declarations : List Declaration) (imports blocks : List String)
    (text : String) : Prop where
  text_eq : text = headOf imports ++ "\n\n".intercalate blocks ++ "\n"
  imports_eq : imports = Import.lines (importsFor o declarations) o.style.language
  imports : ∀ line ∈ imports, line ≠ "" ∧ '\n' ∉ line.toList
  blocks : List.Forall₂ (IsBlock o) declarations blocks

theorem CompleteSource.exists_laidOut {o : Options} {declarations : List Declaration}
    {text : String} (h : CompleteSource o declarations text) (hne : declarations ≠ [])
    (husable : ∀ d ∈ declarations, d.Usable) :
    ∃ imports blocks, LaidOut o declarations imports blocks text := by
  obtain ⟨blocks, hblocks, htext⟩ := h
  rw [if_neg hne, importBlock_eq] at htext
  refine ⟨_, blocks, htext, rfl, fun line hline => importLine_solid hline, ?_⟩
  exact ((List.forall₂_and_left _ _).2 ⟨husable, hblocks⟩).imp fun d block h => .of_render h.1 h.2

theorem CompleteSource.eq_empty_iff {o : Options} {declarations : List Declaration}
    {text : String} (h : CompleteSource o declarations text) : text = "" ↔ declarations = [] := by
  obtain ⟨blocks, -, rfl⟩ := h
  by_cases hne : declarations = []
  · rw [if_pos hne]
    exact iff_of_true rfl hne
  · rw [if_neg hne]
    refine iff_of_false (fun hempty => ?_) hne
    have hbreak : "\n" = "" := (String.append_eq_empty_iff.1 hempty).2
    exact absurd hbreak (by decide)

/-- A source that is given is that of the document read. -/
theorem exists_document_of_renderBytes {name : String} {source : Bytes} {o : Options}
    {text : String} (h : renderBytes name source o = .ok text) :
    ∃ document, Json.readDocument (Json.relax source) = .ok document ∧
      renderTyped (Naming.typeIdentifier name) document o = .ok text := by
  unfold renderBytes rootTypeName parseStrict at h
  cases hblank : isBlankName name with
  | true =>
    rw [hblank] at h
    cases h
  | false =>
    rw [hblank, if_neg Bool.false_ne_true] at h
    cases htarget : checkTarget o with
    | error e =>
      rw [htarget] at h
      cases h
    | ok =>
      rw [htarget] at h
      cases hdocument : Json.readDocument (Json.relax source) with
      | error diagnostic =>
        rw [hdocument] at h
        cases h
      | ok document =>
        rw [hdocument] at h
        exact ⟨document, rfl, h⟩

/-- The source of a document has a block for each declaration, the root's first. It is empty if and
    only if the root has no keys. -/
theorem renderBytes_laidOut {name : String} {source : Bytes} {o : Options} {text : String}
    (h : renderBytes name source o = .ok text) :
    ∃ document declarations, Json.readDocument (Json.relax source) = .ok document ∧
      declarationsFor (Naming.typeIdentifier name) o.language document = .ok declarations ∧
      rootValues document ≠ [] ∧
      (text = "" ↔ ∀ v ∈ rootValues document, v = .object []) ∧
      (text ≠ "" → (∃ root rest, declarations = root :: rest ∧
          DeclaresRoot (Naming.typeIdentifier name) o.language document root) ∧
        ∃ imports blocks, LaidOut o declarations imports blocks text) := by
  obtain ⟨document, hdocument, htyped⟩ := exists_document_of_renderBytes h
  obtain ⟨declarations, hdeclarations, hcomplete⟩ := renderTyped_complete htyped
  obtain ⟨hvalues, hempty, hroot⟩ := declarationsFor_root hdeclarations
  have hname := Naming.wordlike_typeIdentifier name
  have husable : ∀ d ∈ declarations, d.Usable := fun d hd => {
    name := declarationsFor_wordlike hname hdeclarations d hd
    references := references_wordlike hname hdeclarations d hd
    members_ne_nil := (declarationsFor_referBack hdeclarations).2 d hd }
  refine ⟨document, declarations, hdocument, hdeclarations, hvalues, ?_, ?_⟩
  · rw [hcomplete.eq_empty_iff, hempty]
  · intro hne
    rw [ne_eq, hcomplete.eq_empty_iff] at hne
    exact ⟨hroot hne, hcomplete.exists_laidOut hne husable⟩

/-- A line break in a key stays out of the text, and what is inside the constructor is two levels
    deep. -/
theorem lineBreak_laidOut :
    let o := { Options.forLanguage .python with style := .plainClass, indentation := ⟨.tab, 1⟩ }
    let source := "\x7b\"a\\nb\": 1, \"c\": \x7b\"d\": [null]\x7d\x7d"
    let text := "\n".intercalate [
      "from __future__ import annotations", "from typing import Any, List, Optional", "",
      "class Root:", "\tdef __init__(self, a_b: int, c: C) -> None:", "\t\tself.a_b = a_b",
      "\t\tself.c = c", "",
      "class C:", "\tdef __init__(self, d: List[Optional[Any]]) -> None:", "\t\tself.d = d", ""]
    renderBytes "root" (utf8Bytes source) o = .ok text ∧ text ≠ "" ∧
      ∃ declarations imports blocks, LaidOut o declarations imports blocks text := by
  intro o source text
  have h : renderBytes "root" (utf8Bytes source) o = .ok text := by decide +kernel
  have hne : text ≠ "" := by decide
  obtain ⟨_, declarations, -, -, -, -, hlaid⟩ := renderBytes_laidOut h
  exact ⟨h, hne, declarations, (hlaid hne).2⟩

/-- Where indentation has no width, the member of a data class is as deep as the header. -/
theorem member_not_deeper_than_header :
    let o := { Options.forLanguage .python with indentation := ⟨.space, 0⟩ }
    let block := "@dataclass(frozen=True)\nclass Root:\na: int"
    renderBytes "Root" (utf8Bytes "\x7b\"a\": 1\x7d") o =
        .ok ("from dataclasses import dataclass\n\n" ++ block ++ "\n") ∧
      linesOf block =
        ["@dataclass(frozen=True)".toList, "class Root:".toList, "a: int".toList] ∧
      ¬ (indentOf "class Root:".toList).length < (indentOf "a: int".toList).length := by
  intro o block
  exact ⟨by decide +kernel, by decide +kernel, by decide⟩

end SampleTypes
