import SampleTypes.Declaration.OfDocument
import SampleTypes.Proofs.Declaration.Registry
import SampleTypes.Proofs.Inference.Description

set_option autoImplicit false

/-! # Documents conform to their declarations

`Conforms` says which values a type stands for, and `IsInstance` which objects a declaration
does. Every document conforms to the declarations that are made for it. The shapes describe the
document (`rootMembers_describe`); what is left is that declaring keeps what a shape says, also
where a shape is given the declaration of another one. -/

namespace SampleTypes

open Json (Value)

mutual

/-- Which values a type stands for, given the declarations that it refers to. -/
inductive Conforms (declarations : List Declaration) :
    Value → (type : TypeExpr) → (nullable : Bool) → Prop where
  | null (type : TypeExpr) : Conforms declarations .null type true
  | any {v : Value} {nullable : Bool} : v.isNull = false → Conforms declarations v .any nullable
  | value {v : Value} {type : ValueType} {nullable : Bool} :
    v.isScalar = true → leafType v = .ok type → Conforms declarations v (.value type) nullable
  | list {items : List Value} {item : TypeExpr} {itemNullable nullable : Bool} :
    (∀ v ∈ items, Conforms declarations v item itemNullable) →
    Conforms declarations (.array items) (.list item itemNullable) nullable
  | named {members : List (String × Value)} {name : String} {nullable : Bool} {d : Declaration} :
    lookup declarations name = some d → IsInstance declarations d members →
    Conforms declarations (.object members) (.named name) nullable

/-- Which objects a declaration stands for: those with its keys and no others, where each value
    is one that the type of its member stands for. -/
inductive IsInstance (declarations : List Declaration) :
    Declaration → List (String × Value) → Prop where
  | intro {d : Declaration} {members : List (String × Value)} :
    (∀ key, key ∈ members.map (·.1) ↔ key ∈ d.members.map (·.key)) →
    (∀ entry ∈ members, ∀ m ∈ d.members, m.key = entry.1 →
      Conforms declarations entry.2 m.type m.nullable) →
    IsInstance declarations d members

end

/-- Whether a document is one that the declarations stand for: all its root values are instances
    of the first one, and empty objects where there is none. -/
def DocumentConforms (declarations : List Declaration) (document : Value) : Prop :=
  match declarations with
  | [] => ∀ v ∈ rootValues document, v = .object []
  | d :: _ =>
    ∀ v ∈ rootValues document, ∃ members, v = .object members ∧ IsInstance declarations d members

/-! ## Declaring keeps descriptions -/

/-- The declarations of a registry are found in a list of declarations. -/
def Registry.Within (r : Registry) (declarations : List Declaration) : Prop :=
  ∀ (name : String) (d : Declaration), r.find? name = some d → lookup declarations name = some d

theorem Registry.Within.of_extends {r r' : Registry} {declarations : List Declaration}
    (h : r'.Within declarations) (hext : r.Extends r') : r.Within declarations :=
  fun name d hd => h name d (hext.find hd)

namespace Shape

variable {declarations : List Declaration}

/-- Whether a member stands for all that its slot describes. -/
def MemberFits (declarations : List Declaration) (slot : String × Shape × Bool) (m : Member) :
    Prop :=
  m.key = slot.1 ∧
    ∀ v, Describes slot.2.1 slot.2.2 v → Conforms declarations v m.type m.nullable

/-- What the slots of a declaration describe is an instance of the declaration. -/
theorem SlotsDescribe.isInstance {slots : List (String × Shape × Bool)} {d : Declaration}
    (hkeys : d.members.map (·.key) = slots.map (·.1))
    (hmembers : ∀ m ∈ d.members, ∃ slot ∈ slots, MemberFits declarations slot m) {v : Value}
    (h : SlotsDescribe slots v) :
    ∃ members, v = .object members ∧ IsInstance declarations d members := by
  obtain ⟨members, rfl, hsame, hentries⟩ := h
  refine ⟨members, rfl, .intro (fun key => by rw [hkeys, hsame]) ?_⟩
  intro entry hentry m hm hkey
  obtain ⟨slot, hslot, hslotKey, hfits⟩ := hmembers m hm
  exact hfits entry.2 (hentries entry hentry slot hslot (hslotKey.symm.trans hkey))

mutual

/-- The type that refers to a shape stands for all that the shape describes. -/
theorem declare_conforms (owner key : String) :
    ∀ (shape : Shape) (r : Registry), (shape.declare owner key r).2.Within declarations →
      ∀ {nullable : Bool} {v : Value}, Describes shape nullable v →
        Conforms declarations v (shape.declare owner key r).1 nullable
  | _, _, _, _, _, .null _ => .null _
  | .any, _, _, _, _, .any hnull => by
    rw [declare]
    exact .any hnull
  | .scalar _, _, _, _, _, .scalar hscalar hleaf => by
    rw [declare]
    exact .value hscalar hleaf
  | .list item _, r, hwithin, _, _, .list hitems => by
    rw [declare_list] at hwithin ⊢
    exact .list fun v hv => declare_conforms owner key item r hwithin (hitems v hv)
  | .record slots, r, hwithin, _, _, .record hkeys hentries => by
    rw [declare_record] at hwithin ⊢
    -- The declaration may be another shape's: all that counts is that it has these members.
    have hfind := hwithin _ _ (Registry.find?_register ..)
    have hinner := hwithin.of_extends (Registry.register_extends ..)
    have hdescribe : SlotsDescribe slots (.object _) := ⟨_, rfl, hkeys, hentries⟩
    obtain ⟨members, heq, hinstance⟩ := hdescribe.isInstance (d := ⟨_, _⟩)
      (declareSlots_keys _ slots r) (declareSlots_fits _ slots r hinner)
    cases heq
    exact .named hfind hinstance

/-- Every member stands for all that one of the slots describes. -/
theorem declareSlots_fits (owner : String) :
    ∀ (slots : List (String × Shape × Bool)) (r : Registry),
      (declareSlots owner slots r).2.Within declarations →
      ∀ m ∈ (declareSlots owner slots r).1, ∃ slot ∈ slots, MemberFits declarations slot m
  | [], r, hwithin => by
    rw [declareSlots]
    intro m hm
    cases hm
  | (key, shape, nullable) :: rest, r, hwithin => by
    rw [declareSlots_cons] at hwithin ⊢
    intro m hm
    rcases List.mem_cons.1 hm with rfl | hm
    · refine ⟨(key, shape, nullable), List.mem_cons_self, rfl, ?_⟩
      intro v hv
      exact declare_conforms owner key shape r
        (hwithin.of_extends (declareSlots_extends owner rest _)) hv
    · obtain ⟨slot, hslot, hfits⟩ := declareSlots_fits owner rest _ hwithin m hm
      exact ⟨slot, List.mem_cons_of_mem _ hslot, hfits⟩

end

end Shape

/-! ## The declarations of a document -/

/-- The registry that the members of a root type start from: nothing is declared, and the names of
    the root and of the language are taken. -/
def Registry.initial (rootName : String) (language : Language) : Registry :=
  ⟨Naming.fresh language.reservedNames "" rootName :: language.reservedNames, []⟩

theorem declarationsOf_eq (rootName : String) (language : Language)
    {slots : List (String × Shape × Bool)} (hslots : slots ≠ []) :
    declarationsOf rootName language slots =
      let name := Naming.fresh language.reservedNames "" rootName
      let declared := Shape.declareSlots name slots (.initial rootName language)
      ⟨name, declared.1⟩ :: declared.2.declared := by
  rw [declarationsOf, if_neg (by simpa using hslots)]
  rfl

theorem declarationsOf_nil (rootName : String) (language : Language) :
    declarationsOf rootName language [] = [] := by
  rw [declarationsOf, List.isEmpty_nil, if_pos rfl]

/-- Declaring never takes the name of the root. -/
theorem Registry.within_cons {r : Registry} {root : Declaration}
    (hroot : r.find? root.name = none) : r.Within (root :: r.declared) := by
  intro name d hd
  rw [lookup_cons, if_neg]
  · exact hd
  · rintro rfl
    rw [hroot] at hd
    cases hd

theorem find?_root_eq_none (rootName : String) (language : Language)
    (slots : List (String × Shape × Bool)) (owner : String) :
    (Shape.declareSlots owner slots (.initial rootName language)).2.find?
      (Naming.fresh language.reservedNames "" rootName) = none :=
  (Shape.declareSlots_extends owner slots _).find_taken List.mem_cons_self rfl

/-- Every document conforms to the declarations that are made for it. -/
theorem document_conforms {document : Value} {root : Property} {rootName : String}
    {language : Language} {declarations : List Declaration}
    (hroot : Property.root document = .ok root)
    (h : root.declarations rootName language = .ok declarations) :
    DocumentConforms declarations document := by
  obtain ⟨hannotates, hnode⟩ := Property.root_annotates hroot
  unfold Property.declarations at h
  split at h
  · next slots hslots =>
    cases h
    have hdescribe := rootMembers_describe hannotates hslots
    rw [hnode] at hdescribe
    by_cases hne : slots = []
    · subst hne
      rw [declarationsOf_nil]
      intro v hv
      obtain ⟨members, rfl, hkeys, -⟩ := hdescribe v hv
      have hnil : members = [] := by
        cases members with
        | nil => rfl
        | cons m rest => exact absurd ((hkeys m.1).1 List.mem_cons_self) List.not_mem_nil
      rw [hnil]
    · rw [declarationsOf_eq rootName language hne]
      intro v hv
      apply (hdescribe v hv).isInstance
      · exact Shape.declareSlots_keys _ slots _
      · exact Shape.declareSlots_fits _ slots _
          (Registry.within_cons (find?_root_eq_none rootName language slots _))
  · cases h

/-- Two rows and a `null`: one row lacks a note, the other one an element of its tags, and the
    home of one row has the keys of the home of the other. -/
theorem rows_conform :
    DocumentConforms
      [⟨"Row", [⟨"id", .value .int32, false⟩, ⟨"note", .value .text, true⟩,
          ⟨"tags", .list (.value .text) true, false⟩, ⟨"home", .named "Home", false⟩]⟩,
        ⟨"Home", [⟨"city", .any, true⟩]⟩]
      (.array [
        .object [("id", .number "1"), ("note", .null), ("tags", .array []),
          ("home", .object [("city", .null)])],
        .null,
        .object [("tags", .array [.string "a", .null]), ("id", .number "2"),
          ("note", .string "x"), ("home", .object [("city", .object [])])]]) :=
  @document_conforms _ _ "Row" .csharp _ rfl (by decide +kernel)

end SampleTypes
