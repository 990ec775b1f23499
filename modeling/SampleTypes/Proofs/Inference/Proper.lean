import SampleTypes.Proofs.Inference.Description

set_option autoImplicit false

/-! # Records of shapes

Whatever values are merged, a record in their shape has at least one slot and no two slots of one
key: an object without members is `any`, and merged keys are distinct. -/

namespace SampleTypes

namespace Shape

/-- All records in a shape have slots, each under a key of its own. -/
inductive Proper : Shape → Prop where
  | any : Proper .any
  | scalar (type : ValueType) : Proper (.scalar type)
  | list {item : Shape} {nullable : Bool} : Proper item → Proper (.list item nullable)
  | record {slots : List (String × Shape × Bool)} :
    slots ≠ [] → (slots.map (·.1)).Nodup → (∀ slot ∈ slots, Proper slot.2.1) →
    Proper (.record slots)

theorem ofValues_proper {path : String} {values : List Property} {shape : Shape}
    {nullable : Bool} (h : ofValues path values = .ok (shape, nullable)) : shape.Proper := by
  induction values using slot_induction generalizing path shape nullable with
  | step values ihElements ihColumn =>
    obtain ⟨-, hcases⟩ := ofValues_cases h
    rcases hcases with ⟨-, rfl⟩ | ⟨type, -, rfl⟩ | ⟨elements, item, slotNullable, hc, hitem, rfl⟩ |
      ⟨keys, slots, hc, hkeys, hslots, ⟨-, rfl⟩ | ⟨hne, rfl⟩⟩
    · exact .any
    · exact .scalar type
    · exact .list (ihElements elements hc hitem)
    · exact .any
    · obtain ⟨hslotKeys, hslotValues⟩ := ofKeys_ok hslots
      refine .record hne (by rw [hslotKeys]; exact (mergedKeys_ok hkeys).1) ?_
      intro slot hslot
      exact ihColumn _ hc slot.1 (hslotValues slot hslot)

end Shape

/-- The slots of a root are those of a record, but there may be none of them. -/
theorem rootMembers_proper {root : Property} {slots : List (String × Shape × Bool)}
    (h : rootMembers root = .ok slots) :
    (slots.map (·.1)).Nodup ∧ ∀ slot ∈ slots, slot.2.1.Proper := by
  obtain ⟨objects, keys, -, hkeys, hslots⟩ := rootMembers_eq_ok.1 h
  obtain ⟨hslotKeys, hslotValues⟩ := Shape.ofKeys_ok hslots
  refine ⟨by rw [hslotKeys]; exact (mergedKeys_ok hkeys).1, ?_⟩
  intro slot hslot
  exact Shape.ofValues_proper (hslotValues slot hslot)

end SampleTypes
