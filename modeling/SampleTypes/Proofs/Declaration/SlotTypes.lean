import SampleTypes.Proofs.Declaration.Registry
import SampleTypes.Proofs.Inference.Agreement
import SampleTypes.Proofs.Inference.Faults

set_option autoImplicit false

/-! # The types of slots

The type that a slot gets says what its values are: a list if they are all arrays, a value type if
they are all scalars of it, a declaration if they are objects with the same keys and have some, and
anything in any other case. -/

namespace SampleTypes

open Json (Value)

variable {values : List Property} {path owner key : String} {r : Registry}

/-- The type that the values of a slot get under a key of some owner, and whether it is
    nullable. -/
def slotType (path owner key : String) (r : Registry) (values : List Property) :
    Except Error (TypeExpr × Bool) :=
  (Shape.ofValues path values).map fun slot => ((slot.1.declare owner key r).1, slot.2)

/-- The type says what the values are, and each type says something else. -/
structure TypedAs (path owner key : String) (r : Registry) (values : List Property)
    (type : TypeExpr) (nullable : Bool) : Prop where
  nullable_iff : nullable = true ↔ ∃ p ∈ values, p.node = .null
  list_iff : (∃ item itemNullable, type = .list item itemNullable) ↔ AllArrays values
  /-- The item is the type of the pooled elements, and nullable if an array has `null` in it. -/
  item : ∀ item itemNullable, type = .list item itemNullable →
    (∃ nullable, slotType path owner key r (pooled values) = .ok (item, nullable)) ∧
      (itemNullable = true ↔ ∃ p ∈ present values, ∃ items, p.node = .array items ∧ .null ∈ items)
  value_iff : ∀ valueType, type = .value valueType ↔ AllScalars values valueType
  named_iff : (∃ name, type = .named name) ↔ ∃ keys, keys ≠ [] ∧ AllWithKeys values keys
  any_iff : type = .any ↔ ¬ AllArrays values ∧ (∀ valueType, ¬ AllScalars values valueType) ∧
    ∀ keys, keys ≠ [] → ¬ AllWithKeys values keys

namespace TypedAs

theorem any (harrays : ¬ AllArrays values) (hscalars : ∀ type, ¬ AllScalars values type)
    (hkeys : ∀ keys, keys ≠ [] → ¬ AllWithKeys values keys) :
    TypedAs path owner key r values .any (values.any (·.isNull)) where
  nullable_iff := any_isNull_iff
  list_iff := iff_of_false (by simp) harrays
  item := by simp
  value_iff type := iff_of_false (by simp) (hscalars type)
  named_iff := iff_of_false (by simp) fun ⟨keys, hne, hwith⟩ => hkeys keys hne hwith
  any_iff := iff_of_true rfl ⟨harrays, hscalars, hkeys⟩

theorem value {type : ValueType} (h : AllScalars values type) :
    TypedAs path owner key r values (.value type) (values.any (·.isNull)) where
  nullable_iff := any_isNull_iff
  list_iff := iff_of_false (by simp) fun harrays => harrays.not_allScalars type h
  item := by simp
  value_iff type' := by
    rw [TypeExpr.value.injEq]
    exact ⟨fun heq => heq ▸ h, fun h' => h.type_eq h'⟩
  named_iff := iff_of_false (by simp) fun ⟨_, _, hkeys⟩ => hkeys.not_allScalars type h
  any_iff := iff_of_false (by simp) fun ⟨_, hnone, _⟩ => hnone type h

theorem list (h : AllArrays values) {item : TypeExpr} {slotNullable : Bool}
    (hitem : slotType path owner key r (pooled values) = .ok (item, slotNullable)) :
    TypedAs path owner key r values (.list item ((present values).any (·.isNullable)))
      (values.any (·.isNull)) where
  nullable_iff := any_isNull_iff
  list_iff := iff_of_true ⟨item, _, rfl⟩ h
  item := by
    rintro _ _ ⟨rfl, rfl⟩
    exact ⟨⟨slotNullable, hitem⟩, any_isNullable_present_iff⟩
  value_iff type := iff_of_false (by simp) (h.not_allScalars type)
  named_iff := iff_of_false (by simp) fun ⟨_, _, hkeys⟩ => hkeys.not_allArrays h
  any_iff := iff_of_false (by simp) fun ⟨hnone, _, _⟩ => hnone h

theorem named {keys : List String} (h : AllWithKeys values keys) (hne : keys ≠ []) (name : String) :
    TypedAs path owner key r values (.named name) (values.any (·.isNull)) where
  nullable_iff := any_isNull_iff
  list_iff := iff_of_false (by simp) h.not_allArrays
  item := by simp
  value_iff type := iff_of_false (by simp) (h.not_allScalars type)
  named_iff := iff_of_true ⟨name, rfl⟩ ⟨keys, hne, h⟩
  any_iff := iff_of_false (by simp) fun ⟨_, _, hnone⟩ => hnone keys hne h

/-- What is taken for nothing in particular is nothing in particular. -/
theorem of_nothing (hall : ∀ p ∈ values, p.Annotates) (h : Common.of values = .nothing) :
    TypedAs path owner key r values .any (values.any (·.isNull)) := by
  refine .any ?_ ?_ ?_
  · intro harrays
    have hof := (Common.of_eq_arrays_iff hall).2 harrays
    exact absurd (h.symm.trans hof) (by simp)
  · intro type hscalars
    have hof := (Common.of_eq_scalar_iff hall).2 hscalars
    exact absurd (h.symm.trans hof) (by simp)
  · intro keys _ hkeys
    have hof := (Common.of_eq_objects_iff hall).2 hkeys.allObjects
    exact absurd (h.symm.trans hof) (by simp)

/-- Objects without members are nothing in particular. -/
theorem of_keyless (h : AllWithKeys values []) :
    TypedAs path owner key r values .any (values.any (·.isNull)) := by
  refine .any h.not_allArrays h.not_allScalars ?_
  intro keys hne hkeys
  obtain ⟨k, hk⟩ := List.exists_mem_of_ne_nil _ hne
  exact absurd ((hkeys.mem_iff h).1 hk) List.not_mem_nil

/-- The type of a shape says what the values are that the shape was merged from. -/
theorem of_shape (hall : ∀ p ∈ values, p.Annotates) {shape : Shape} {nullable : Bool}
    (h : Shape.ofValues path values = .ok (shape, nullable)) :
    TypedAs path owner key r values (shape.declare owner key r).1 nullable := by
  obtain ⟨rfl, hcases⟩ := Shape.ofValues_cases h
  rcases hcases with ⟨hof, rfl⟩ | ⟨type, hof, rfl⟩ |
    ⟨elements, item, slotNullable, hof, hitem, rfl⟩ | ⟨keys, slots, hof, hkeys, hslots, hshape⟩
  · rw [Shape.declare]
    exact of_nothing hall hof
  · rw [Shape.declare]
    exact .value (Common.scalar_of hall hof)
  · obtain ⟨hne, rfl, harrays⟩ := Common.arrays_of hall hof
    have hpooled : slotType path owner key r (pooled values)
        = .ok ((item.declare owner key r).1, slotNullable) := by
      rw [slotType, pooled, hitem]
      rfl
    rw [Shape.declare_list]
    exact .list ⟨hne, harrays⟩ hpooled
  · have hwith := allWithKeys_of_mergedKeys hall ((Common.of_eq_objects_iff hall).1 hof) hkeys
    obtain ⟨rfl, -⟩ := Shape.ofKeys_ok hslots
    rcases hshape with ⟨rfl, rfl⟩ | ⟨hne, rfl⟩
    · rw [Shape.declare]
      exact of_keyless hwith
    · rw [Shape.declare_record]
      exact .named hwith (by simpa using hne) _

end TypedAs

/-! ## Slots -/

/-- A slot has the type that its values call for, or none, and it has none only on account of
    objects whose keys differ. -/
theorem slotType_typedAs (hall : ∀ p ∈ values, p.Annotates) (path owner key : String)
    (r : Registry) :
    (∀ type nullable, slotType path owner key r values = .ok (type, nullable) →
      TypedAs path owner key r values type nullable) ∧
    (∀ e, slotType path owner key r values = .error e → e.IsIncompatible) ∧
    ((∃ e, slotType path owner key r values = .error e) ↔
      ∃ slotPath slot, Below path values slotPath slot ∧ Clash slot) := by
  refine ⟨?_, ?_, ?_⟩
  · intro type nullable h
    obtain ⟨⟨shape, found⟩, hshape, heq⟩ := map_eq_ok.1 h
    obtain ⟨rfl, rfl⟩ := Prod.mk.inj heq
    exact .of_shape hall hshape
  · intro e h
    exact Shape.ofValues_error hall (map_eq_error.1 h)
  · simp only [slotType, map_eq_error]
    constructor
    · rintro ⟨e, h⟩
      obtain ⟨slotPath, slot, hbelow, hobjects, hkeys⟩ :=
        Shape.exists_below_of_ofValues_fails hall h
      exact ⟨slotPath, slot, hbelow, hobjects.2, mergedKeys_fails_iff.1 ⟨e, hkeys⟩⟩
    · rintro ⟨slotPath, slot, hbelow, hclash⟩
      exact Shape.ofValues_fails_of_clash hall hbelow hclash

/-- Arrays some of which are hollow, with a `null` in one and one beside them. -/
def mixedArrays : List Value :=
  [.array [.bool true], .array [], .null, .array [.null], .array [.array []]]

theorem slotType_typedAs_mixedArrays :
    ∃ values, Property.ofItems mixedArrays = .ok values ∧ (∀ p ∈ values, p.Annotates) ∧
      slotType "$.a" "Root" "a" ⟨[], []⟩ values = .ok (.list .any true, true) ∧
      TypedAs "$.a" "Root" "a" ⟨[], []⟩ values (.list .any true) true := by
  refine ⟨_, rfl, ?_⟩
  have hall := (Property.ofItems_ok (show Property.ofItems mixedArrays = .ok _ from rfl)).2
  have htyped := slotType_typedAs hall "$.a" "Root" "a" ⟨[], []⟩
  refine (fun htype => ⟨hall, htype, htyped.1 _ _ htype⟩) ?_
  cbv

end SampleTypes
