import Mathlib.Logic.Relation
import SampleTypes.Proofs.Declaration.References

set_option autoImplicit false

/-! # Every declaration is referred to

A nested declaration is made before its owner is, and the owner may turn out to be declared
already. That leaves none behind: a shape that takes over an earlier declaration has its members,
and so refers to all that was declared for them. What is kept at every step is that the new
declarations are reached from the type that stands for the shape (`Shape.declare_reaches`). -/

namespace SampleTypes

/-- A member of `d` refers to `e`, itself or by its items. -/
def Refers (declarations : List Declaration) (d e : Declaration) : Prop :=
  ∃ name ∈ references d.members, lookup declarations name = some e

/-- The declaration of that name is `d`, or references lead from it to `d`. -/
def ReachedFrom (declarations : List Declaration) (name : String) (d : Declaration) : Prop :=
  ∃ e, lookup declarations name = some e ∧ Relation.ReflTransGen (Refers declarations) e d

theorem mem_references_cons {m : Member} {members : List Member} {name : String} :
    name ∈ references (m :: members) ↔ name ∈ m.type.named? ∨ name ∈ references members := by
  rw [references, List.mem_filterMap, List.exists_mem_cons_iff, references, List.mem_filterMap]
  rfl

theorem ReachedFrom.of_lookup {declarations : List Declaration} {name : String} {d : Declaration}
    (h : lookup declarations name = some d) : ReachedFrom declarations name d :=
  ⟨d, h, .refl⟩

theorem ReachedFrom.through {declarations : List Declaration} {name next : String}
    {d e : Declaration} (he : lookup declarations name = some e) (hnext : next ∈ references e.members)
    (h : ReachedFrom declarations next d) : ReachedFrom declarations name d := by
  obtain ⟨f, hf, hpath⟩ := h
  exact ⟨e, he, hpath.head ⟨next, hnext, hf⟩⟩

/-- References lead on where every name keeps its declaration. -/
theorem ReachedFrom.mono {declarations declarations' : List Declaration}
    (hkept : ∀ name d, lookup declarations name = some d → lookup declarations' name = some d)
    {name : String} {d : Declaration} (h : ReachedFrom declarations name d) :
    ReachedFrom declarations' name d := by
  obtain ⟨e, he, hpath⟩ := h
  refine ⟨e, hkept name e he, Relation.ReflTransGen.mono ?_ e d hpath⟩
  rintro f g ⟨next, hnext, hg⟩
  exact ⟨next, hnext, hkept next g hg⟩

theorem ReachedFrom.transGen {declarations : List Declaration} {name : String} {d e : Declaration}
    (h : ReachedFrom declarations name e) (hname : name ∈ references d.members) :
    Relation.TransGen (Refers declarations) d e := by
  obtain ⟨f, hf, hpath⟩ := h
  exact .head' ⟨name, hname, hf⟩ hpath

/-! ## Declaring -/

namespace Registry

theorem mem_register {r : Registry} {owner base : String} {members : List Member}
    {d : Declaration} (h : d ∈ (r.register owner base members).2.declared) :
    d = ⟨(r.register owner base members).1, members⟩ ∨ d ∈ r.declared := by
  rcases r.register_cases owner base members with ⟨-, -, -, heq⟩ | ⟨-, -, heq⟩
  · rw [heq] at h
    exact .inr h
  · rw [heq] at h ⊢
    exact List.mem_cons.1 h

/-- What is reached from the members of a shape is reached from its name once it is registered. -/
theorem register_reaches {r : Registry} {members : List Member} {next : String}
    {d : Declaration} (hnext : next ∈ references members) (h : ReachedFrom r.declared next d)
    (owner base : String) :
    ReachedFrom (r.register owner base members).2.declared
      (r.register owner base members).1 d :=
  .through (r.find?_register owner base members) hnext
    (h.mono fun _ _ => (r.register_extends owner base members).find)

end Registry

namespace Shape

mutual

/-- A declaration that is made for a shape is reached from the type that stands for it. -/
theorem declare_reaches (owner key : String) :
    ∀ (shape : Shape) (r : Registry), ∀ d ∈ (shape.declare owner key r).2.declared,
      d ∈ r.declared ∨ ∃ name ∈ (shape.declare owner key r).1.named?,
        ReachedFrom (shape.declare owner key r).2.declared name d
  | .any, r, d, hd => by
    rw [declare] at hd
    exact .inl hd
  | .scalar _, r, d, hd => by
    rw [declare] at hd
    exact .inl hd
  | .list item _, r, d, hd => by
    rw [declare_list] at hd ⊢
    exact declare_reaches owner key item r d hd
  | .record slots, r, d, hd => by
    rw [declare_record] at hd ⊢
    rcases Registry.mem_register hd with rfl | hd
    · exact .inr ⟨_, rfl, .of_lookup (Registry.find?_register ..)⟩
    · -- The name is that of a declaration with these members, be it new or found.
      rcases declareSlots_reaches (Naming.typeIdentifier key) slots r d hd with
        hd | ⟨next, hnext, hreached⟩
      · exact .inl hd
      · exact .inr ⟨_, rfl, Registry.register_reaches hnext hreached _ _⟩

theorem declareSlots_reaches (owner : String) :
    ∀ (slots : List (String × Shape × Bool)) (r : Registry),
      ∀ d ∈ (declareSlots owner slots r).2.declared,
        d ∈ r.declared ∨ ∃ name ∈ references (declareSlots owner slots r).1,
          ReachedFrom (declareSlots owner slots r).2.declared name d
  | [], r, d, hd => by
    rw [declareSlots] at hd
    exact .inl hd
  | (key, shape, nullable) :: rest, r, d, hd => by
    rw [declareSlots_cons] at hd ⊢
    rcases declareSlots_reaches owner rest _ d hd with hd | ⟨name, hname, hreached⟩
    · rcases declare_reaches owner key shape r d hd with hd | ⟨name, hname, hreached⟩
      · exact .inl hd
      · exact .inr ⟨name, mem_references_cons.2 (.inl hname),
          hreached.mono fun _ _ => (declareSlots_extends owner rest _).find⟩
    · exact .inr ⟨name, mem_references_cons.2 (.inr hname), hreached⟩

end

end Shape

/-! ## The declarations of a document -/

/-- References lead from the first declaration of a document to every other one. -/
theorem reached_from_root {root : Property} {rootName : String} {language : Language}
    {first : Declaration} {rest : List Declaration}
    (h : root.declarations rootName language = .ok (first :: rest)) :
    ∀ d ∈ rest, Relation.TransGen (Refers (first :: rest)) first d := by
  unfold Property.declarations at h
  split at h
  · next slots _ =>
    rw [Except.ok.injEq] at h
    by_cases hne : slots = []
    · rw [hne, declarationsOf_nil] at h
      cases h
    · rw [declarationsOf_eq rootName language hne] at h
      obtain ⟨rfl, rfl⟩ := List.cons_eq_cons.1 h
      intro d hd
      rcases Shape.declareSlots_reaches _ slots _ d hd with hd | ⟨name, hname, hreached⟩
      · exact absurd hd List.not_mem_nil
      · exact (hreached.mono
          (Registry.within_cons (find?_root_eq_none rootName language slots _))).transGen hname
  · cases h

/-- The `a` inside `b` takes over the declaration `A` and with it the `AX` that was made for the
    first `a`, and the items of `c` are two lists deep. -/
theorem shared_reached_from_root :
    ∃ root first rest, Property.root (.object [
        ("x", .object [("p", .number "1")]),
        ("a", .object [("x", .object [("q", .number "1")])]),
        ("b", .object [("a", .object [("x", .object [("q", .number "1")])])]),
        ("c", .array [.array [.object [("d", .null)]]])]) = .ok root ∧
      root.declarations "Root" .csharp = .ok (first :: rest) ∧
      first :: rest =
        [⟨"Root", [⟨"x", .named "X", false⟩, ⟨"a", .named "A", false⟩, ⟨"b", .named "B", false⟩,
            ⟨"c", .list (.list (.named "C") false) false, false⟩]⟩,
          ⟨"C", [⟨"d", .any, true⟩]⟩, ⟨"B", [⟨"a", .named "A", false⟩]⟩,
          ⟨"A", [⟨"x", .named "AX", false⟩]⟩, ⟨"AX", [⟨"q", .value .int32, false⟩]⟩,
          ⟨"X", [⟨"p", .value .int32, false⟩]⟩] ∧
      ∀ d ∈ rest, Relation.TransGen (Refers (first :: rest)) first d := by
  refine ⟨_, _, _, rfl, ?declared, rfl, reached_from_root ?declared⟩
  decide +kernel

end SampleTypes
