import SampleTypes.Proofs.Declaration.Conformance

set_option autoImplicit false

/-! # Value types in declarations

Arrays have types of their own, which no language spells. They never come into a declaration: a
slot that holds an array is a list or nothing in particular, so that the value types of members
are those of scalars, inside however many lists. -/

namespace SampleTypes

/-- Whether the value types in a type are those of scalars. -/
def TypeExpr.AllScalar : TypeExpr → Prop
  | .any => True
  | .value type => type.isScalar = true
  | .named _ => True
  | .list item _ => item.AllScalar

/-- Whether the members of a declaration have such types. -/
def Declaration.AllScalar (d : Declaration) : Prop :=
  ∀ m ∈ d.members, m.type.AllScalar

/-! ## Shapes -/

/-- Whether the value types in a shape are those of scalars. -/
inductive Shape.AllScalar : Shape → Prop where
  | any : AllScalar .any
  | scalar {type : ValueType} : type.isScalar = true → AllScalar (.scalar type)
  | list {item : Shape} {nullable : Bool} : AllScalar item → AllScalar (.list item nullable)
  | record {slots : List (String × Shape × Bool)} :
    (∀ slot ∈ slots, AllScalar slot.2.1) → AllScalar (.record slots)

theorem Shape.ofValues_allScalar {path : String} {values : List Property} {shape : Shape}
    {nullable : Bool} (hall : ∀ p ∈ values, p.Annotates)
    (h : ofValues path values = .ok (shape, nullable)) : shape.AllScalar := by
  induction values using slot_induction generalizing path shape nullable with
  | step values ihElements ihColumn =>
    have hparts := forall_parts Property.Annotates.children (forall_present hall)
    obtain ⟨-, hcases⟩ := ofValues_cases h
    rcases hcases with ⟨-, rfl⟩ | ⟨type, hc, rfl⟩ | ⟨elements, item, slotNullable, hc, hitem, rfl⟩ |
      ⟨keys, slots, hc, -, hslots, ⟨-, rfl⟩ | ⟨-, rfl⟩⟩
    · exact .any
    · obtain ⟨hne, htypes⟩ := Common.scalar_of hall hc
      obtain ⟨p, hp⟩ := List.exists_mem_of_ne_nil _ hne
      obtain ⟨hscalar, hleaf⟩ := htypes p hp
      exact .scalar (by rw [leafType_isScalar hleaf, hscalar])
    · obtain ⟨rfl, -⟩ := Common.eq_pooled hc
      exact .list (ihElements _ hc hparts hitem)
    · exact .any
    · refine .record fun slot hslot => ?_
      exact ihColumn _ hc slot.1 (forall_column hparts) ((ofKeys_ok hslots).2 slot hslot)

theorem rootMembers_allScalar {root : Property} {slots : List (String × Shape × Bool)}
    (hroot : root.Annotates) (h : rootMembers root = .ok slots) :
    ∀ slot ∈ slots, slot.2.1.AllScalar := by
  obtain ⟨objects, keys, hobjects, -, hslots⟩ := rootMembers_eq_ok.1 h
  obtain ⟨-, hall, -⟩ := rootObjects_ok hroot hobjects
  have hparts := forall_parts Property.Annotates.children hall
  intro slot hslot
  exact Shape.ofValues_allScalar (forall_column hparts) ((Shape.ofKeys_ok hslots).2 slot hslot)

/-! ## Declaring -/

/-- Whether all declarations of a registry have such members. -/
def Registry.AllScalar (r : Registry) : Prop :=
  ∀ d ∈ r.declared, d.AllScalar

theorem Registry.AllScalar.register {r : Registry} (h : r.AllScalar) {members : List Member}
    (hmembers : ∀ m ∈ members, m.type.AllScalar) (owner base : String) :
    (r.register owner base members).2.AllScalar := by
  rcases r.register_cases owner base members with ⟨d, -, -, heq⟩ | ⟨-, -, heq⟩
  · rw [heq]
    exact h
  · rw [heq]
    exact List.forall_mem_cons.2 ⟨hmembers, h⟩

namespace Shape

mutual

theorem declare_allScalar (owner key : String) :
    ∀ (shape : Shape) (r : Registry), shape.AllScalar → r.AllScalar →
      (shape.declare owner key r).1.AllScalar ∧ (shape.declare owner key r).2.AllScalar
  | .any, r, _, h => by
    rw [declare]
    exact ⟨trivial, h⟩
  | .scalar _, r, .scalar htype, h => by
    rw [declare]
    exact ⟨htype, h⟩
  | .list item _, r, .list hitem, h => by
    rw [declare_list]
    exact declare_allScalar owner key item r hitem h
  | .record slots, r, .record hslots, h => by
    rw [declare_record]
    obtain ⟨hmembers, hinner⟩ := declareSlots_allScalar (Naming.typeIdentifier key) slots r hslots h
    exact ⟨trivial, hinner.register hmembers _ _⟩

theorem declareSlots_allScalar (owner : String) :
    ∀ (slots : List (String × Shape × Bool)) (r : Registry),
      (∀ slot ∈ slots, slot.2.1.AllScalar) → r.AllScalar →
      (∀ m ∈ (declareSlots owner slots r).1, m.type.AllScalar) ∧
        (declareSlots owner slots r).2.AllScalar
  | [], r, _, h => by
    rw [declareSlots]
    exact ⟨fun m hm => absurd hm List.not_mem_nil, h⟩
  | (key, shape, nullable) :: rest, r, hslots, h => by
    rw [declareSlots_cons]
    obtain ⟨hshape, hrest⟩ := List.forall_mem_cons.1 hslots
    obtain ⟨htype, hdeclared⟩ := declare_allScalar owner key shape r hshape h
    obtain ⟨hmembers, hothers⟩ := declareSlots_allScalar owner rest _ hrest hdeclared
    exact ⟨List.forall_mem_cons.2 ⟨htype, hmembers⟩, hothers⟩

end

end Shape

/-! ## The declarations of a document -/

/-- The declarations for a document, read from its values on. -/
def declarationsFor (rootName : String) (language : Language) (document : Json.Value) :
    Except Error (List Declaration) :=
  match Property.root document with
  | .error e => .error e
  | .ok root => root.declarations rootName language

/-- The declarations for a document fail as its root members do, and never otherwise. -/
theorem declarationsFor_of_root {document : Json.Value} {root : Property}
    (hroot : Property.root document = .ok root) (rootName : String) (language : Language) :
    declarationsFor rootName language document =
      (rootMembers root).map (declarationsOf rootName language) := by
  simp only [declarationsFor, hroot, Property.declarations]
  cases rootMembers root <;> rfl

theorem declarationsFor_allScalar {document : Json.Value} {rootName : String}
    {language : Language} {declarations : List Declaration}
    (h : declarationsFor rootName language document = .ok declarations) :
    ∀ d ∈ declarations, d.AllScalar := by
  unfold declarationsFor at h
  split at h
  · cases h
  · next root hroot =>
    obtain ⟨hannotates, -⟩ := Property.root_annotates hroot
    unfold Property.declarations at h
    split at h
    · next slots hslots =>
      cases h
      by_cases hne : slots = []
      · subst hne
        rw [declarationsOf_nil]
        exact fun d hd => absurd hd List.not_mem_nil
      · rw [declarationsOf_eq rootName language hne]
        obtain ⟨hmembers, hnested⟩ := Shape.declareSlots_allScalar
          (Naming.fresh language.reservedNames "" rootName) slots (.initial rootName language)
          (rootMembers_allScalar hannotates hslots) (fun d hd => absurd hd List.not_mem_nil)
        exact List.forall_mem_cons.2 ⟨hmembers, hnested⟩
    · cases h

end SampleTypes
