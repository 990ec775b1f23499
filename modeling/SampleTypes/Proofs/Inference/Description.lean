import SampleTypes.Proofs.Inference.Slots

set_option autoImplicit false

/-! # Shapes describe the values they were merged from

`Shape.Describes` says what a shape claims about a value, without regard to how shapes are
found. No value of a slot contradicts the shape of the slot: no `null` is lost, no element of a
pooled array is skipped, and merged objects have the keys of their record and no others. -/

namespace SampleTypes

open Json (Value)

/-! ## Keys of merged objects -/

theorem nodup_eraseDups (keys : List String) : keys.eraseDups.Nodup := by
  cases keys with
  | nil => simp
  | cons k rest =>
    rw [List.eraseDups_cons, List.nodup_cons]
    refine ⟨?_, nodup_eraseDups (rest.filter fun b => !b == k)⟩
    intro hmem
    rw [List.mem_eraseDups, List.mem_filter] at hmem
    simp at hmem
termination_by keys.length
decreasing_by
  have := List.length_filter_le (fun b => !b == k) rest
  simp only [List.length_cons]
  omega

theorem Property.nodup_keys (p : Property) : p.keys.Nodup :=
  nodup_eraseDups _

/-- Of two lists without repetition it is enough to compare the lengths and one inclusion. -/
theorem mem_iff_of_sameKeys {expected found : List String} (hfound : found.Nodup)
    (h : sameKeys expected found = true) {key : String} : key ∈ found ↔ key ∈ expected := by
  rw [sameKeys, Bool.and_eq_true, beq_iff_eq, List.all_eq_true] at h
  obtain ⟨hlength, hall⟩ := h
  have hsub : found ⊆ expected := fun k hk => by simpa using hall k hk
  have hperm : found.Perm expected :=
    (List.subperm_of_subset hfound hsub).perm_of_length_le (by omega)
  exact hperm.mem_iff

theorem checkKeys_ok {path : String} {expected : List String} {index : Nat}
    {objects : List Property} (h : checkKeys path expected index objects = .ok ()) :
    ∀ p ∈ objects, sameKeys expected p.keys = true := by
  induction objects generalizing index with
  | nil => simp
  | cons p rest ih =>
    rw [checkKeys] at h
    split at h
    · next hsame =>
      intro q hq
      rcases List.mem_cons.1 hq with rfl | hq
      · exact hsame
      · exact ih h q hq
    · cases h

/-- Objects that could be merged have the merged keys, all of them and no others. -/
theorem mergedKeys_ok {path : String} {objects : List Property} {keys : List String}
    (h : mergedKeys path objects = .ok keys) :
    keys.Nodup ∧ ∀ p ∈ objects, ∀ key, key ∈ p.keys ↔ key ∈ keys := by
  cases objects with
  | nil => cases h; simp
  | cons first rest =>
    rw [mergedKeys] at h
    split at h
    · next hcheck =>
      cases h
      refine ⟨first.nodup_keys, ?_⟩
      intro p hp key
      rcases List.mem_cons.1 hp with rfl | hp
      · exact Iff.rfl
      · exact mem_iff_of_sameKeys p.nodup_keys (checkKeys_ok hcheck p hp)
    · cases h

/-! ## Descriptions -/

namespace Shape

/-- What a slot of this shape may hold; `nullable` is whether it may be `null`. -/
inductive Describes : (shape : Shape) → (nullable : Bool) → Value → Prop where
  | null (shape : Shape) : Describes shape true .null
  | any {nullable : Bool} {v : Value} : v.isNull = false → Describes .any nullable v
  | scalar {type : ValueType} {nullable : Bool} {v : Value} :
    v.isScalar = true → leafType v = .ok type → Describes (.scalar type) nullable v
  | list {item : Shape} {itemNullable nullable : Bool} {items : List Value} :
    (∀ v ∈ items, Describes item itemNullable v) →
    Describes (.list item itemNullable) nullable (.array items)
  | record {slots : List (String × Shape × Bool)} {nullable : Bool}
      {members : List (String × Value)} :
    (∀ key, key ∈ members.map (·.1) ↔ key ∈ slots.map (·.1)) →
    (∀ entry ∈ members, ∀ slot ∈ slots, slot.1 = entry.1 →
      Describes slot.2.1 slot.2.2 entry.2) →
    Describes (.record slots) nullable (.object members)

/-- What every member of merged objects is described by, one slot at a time. -/
def SlotsDescribe (slots : List (String × Shape × Bool)) (v : Value) : Prop :=
  ∃ members, v = .object members ∧
    (∀ key, key ∈ members.map (·.1) ↔ key ∈ slots.map (·.1)) ∧
    ∀ entry ∈ members, ∀ slot ∈ slots, slot.1 = entry.1 → Describes slot.2.1 slot.2.2 entry.2

theorem SlotsDescribe.of_objects {path : String} {objects : List Property}
    {keys : List String} {slots : List (String × Shape × Bool)}
    (hall : ∀ p ∈ objects, p.Annotates) (hobjects : ∀ p ∈ objects, p.node.isObject = true)
    (hkeys : mergedKeys path objects = .ok keys)
    (hslots : slots.map (·.1) = keys)
    (hdescribes : ∀ slot ∈ slots, ∀ p ∈ column slot.1 (objects.flatMap (·.children)),
      Describes slot.2.1 slot.2.2 p.node) :
    ∀ p ∈ objects, SlotsDescribe slots p.node := by
  intro p hp
  obtain ⟨members, hnode⟩ := Value.isObject_iff.1 (hobjects p hp)
  refine ⟨members, hnode, ?_, ?_⟩
  · intro key
    rw [hslots, ← (mergedKeys_ok hkeys).2 p hp key, (hall p hp).mem_keys hnode]
  · rintro ⟨key, v⟩ hentry slot hslot heq
    obtain ⟨c, hc, hkey, rfl⟩ := (hall p hp).exists_child hnode hentry
    apply hdescribes slot hslot
    rw [column, List.mem_filter]
    exact ⟨List.mem_flatMap.2 ⟨p, hp, hc⟩, by rw [hkey, heq, beq_self_eq_true]⟩

/-- A `null` makes its slot nullable, and any other value has only to fit the shape. -/
theorem describes_of_present {values : List Property} {shape : Shape}
    (h : ∀ p ∈ present values, Describes shape (values.any (·.isNull)) p.node) :
    ∀ p ∈ values, Describes shape (values.any (·.isNull)) p.node := by
  intro p hp
  cases hnull : p.isNull with
  | false => exact h p (mem_present.2 ⟨hp, hnull⟩)
  | true =>
    have hany : values.any (·.isNull) = true := List.any_eq_true.2 ⟨p, hp, hnull⟩
    rw [hany, Value.isNull_iff.1 hnull]
    exact .null shape

/-- The shape of a slot describes every value in it. -/
theorem ofValues_describes {path : String} {values : List Property} {shape : Shape}
    {nullable : Bool} (hall : ∀ p ∈ values, p.Annotates)
    (h : ofValues path values = .ok (shape, nullable)) :
    ∀ p ∈ values, Describes shape nullable p.node := by
  induction values using slot_induction generalizing path shape nullable with
  | step values ihElements ihColumn =>
    have hpresent := forall_present hall
    have hparts := forall_parts Property.Annotates.children hpresent
    obtain ⟨rfl, hcases⟩ := ofValues_cases h
    apply describes_of_present
    intro p hp
    rcases hcases with ⟨-, rfl⟩ | ⟨type, hc, rfl⟩ |
      ⟨elements, item, slotNullable, hc, hitem, rfl⟩ | ⟨keys, slots, hc, hkeys, hslots, hshape⟩
    · exact .any (mem_present.1 hp).2
    · obtain ⟨hscalar, hleaf⟩ := (Common.scalar_of hall hc).2 p hp
      exact .scalar hscalar hleaf
    · obtain ⟨-, rfl, harrays⟩ := Common.arrays_of hall hc
      have hitems := ihElements _ hc hparts hitem
      rw [any_isNullable_eq hpresent harrays, ← (ofValues_cases hitem).1]
      obtain ⟨items, hnode⟩ := Value.isArray_iff.1 (harrays p hp)
      rw [hnode]
      apply Describes.list
      intro v hv
      rw [(hpresent p hp).items_eq hnode] at hv
      obtain ⟨c, hc, rfl⟩ := List.mem_map.1 hv
      exact hitems c (List.mem_flatMap.2 ⟨p, hp, hc⟩)
    · obtain ⟨hslotKeys, hslotValues⟩ := ofKeys_ok hslots
      have hdescribe : SlotsDescribe slots p.node := by
        refine SlotsDescribe.of_objects hpresent (Common.objects_of hall hc) hkeys hslotKeys ?_ p hp
        intro slot hslot
        exact ihColumn _ hc slot.1 (forall_column hparts) (hslotValues slot hslot)
      obtain ⟨members, hnode, hsame, hentries⟩ := hdescribe
      rcases hshape with ⟨rfl, rfl⟩ | ⟨-, rfl⟩
      · exact .any (mem_present.1 hp).2
      · rw [hnode]
        exact .record hsame hentries

end Shape

/-! ## The root -/

/-- The values that the root declaration describes: the document itself, or the elements of a
    root array that are not `null`. -/
def rootValues : Value → List Value
  | .array items => items.filter fun v => !v.isNull
  | v => [v]

theorem elementObjects_ok {ps objects : List Property} (h : elementObjects ps = .ok objects) :
    objects = ps.filter (fun p => !p.isNull) ∧ ∀ p ∈ objects, p.node.isObject = true := by
  induction ps generalizing objects with
  | nil => rw [elementObjects] at h; cases h; simp
  | cons p rest ih =>
    rw [elementObjects] at h
    split at h
    · next hnull =>
      rw [List.filter_cons_of_neg (by simpa using hnull)]
      exact ih h
    · next hnull =>
      split at h
      · next hobject =>
        split at h
        · next others hothers =>
          cases h
          obtain ⟨rfl, hall⟩ := ih hothers
          refine ⟨by rw [List.filter_cons_of_pos (by simpa using hnull)], ?_⟩
          intro q hq
          rcases List.mem_cons.1 hq with rfl | hq
          · exact hobject
          · exact hall q hq
        · cases h
      · cases h

/-- The root objects are the trees of the root values. -/
theorem rootObjects_ok {root : Property} {objects : List Property} (hroot : root.Annotates)
    (h : rootObjects root = .ok objects) :
    objects.map (·.node) = rootValues root.node ∧ (∀ p ∈ objects, p.Annotates) ∧
      ∀ p ∈ objects, p.node.isObject = true := by
  unfold rootObjects at h
  split at h
  · next hobject =>
    cases h
    obtain ⟨members, hnode⟩ := Value.isObject_iff.1 hobject
    refine ⟨by rw [List.map_singleton, hnode]; rfl, ?_, ?_⟩
    · intro p hp
      rw [List.mem_singleton.1 hp]
      exact hroot
    · intro p hp
      rw [List.mem_singleton.1 hp, hnode]
      rfl
  · split at h
    · cases h
    · next harray =>
      split at h
      · cases h
      · obtain ⟨items, hnode⟩ := Value.isArray_iff.1 (by simpa using harray)
        split at h
        · cases h
        · cases h
        · next objects' _ helements =>
          cases h
          obtain ⟨rfl, hall⟩ := elementObjects_ok helements
          refine ⟨?_, ?_, hall⟩
          · rw [hnode, rootValues, hroot.items_eq hnode, List.filter_map]
            rfl
          · intro p hp
            exact hroot.children p (List.mem_of_mem_filter hp)

/-- The slots of the root declaration describe every root value. -/
theorem rootMembers_describe {root : Property} {slots : List (String × Shape × Bool)}
    (hroot : root.Annotates) (h : rootMembers root = .ok slots) :
    ∀ v ∈ rootValues root.node, Shape.SlotsDescribe slots v := by
  obtain ⟨objects, keys, hobjects, hkeys, hslots⟩ := rootMembers_eq_ok.1 h
  obtain ⟨hnodes, hall, hobject⟩ := rootObjects_ok hroot hobjects
  obtain ⟨hslotKeys, hslotValues⟩ := Shape.ofKeys_ok hslots
  have hparts := forall_parts Property.Annotates.children hall
  intro v hv
  rw [← hnodes] at hv
  obtain ⟨p, hp, rfl⟩ := List.mem_map.1 hv
  refine Shape.SlotsDescribe.of_objects hall hobject hkeys hslotKeys ?_ p hp
  intro slot hslot
  exact Shape.ofValues_describes (forall_column hparts) (hslotValues slot hslot)

end SampleTypes
