import SampleTypes.Proofs.Inference.Clashes

set_option autoImplicit false

/-! # What the values of a slot agree on

What a slot is taken for is found by way of the types of its values, with hollow arrays set aside.
It comes to what the values are: all arrays, all objects, all scalars of one type, or anything.
Only objects whose keys differ have no shape, in the slot or in one that is pooled or merged on
the way to it. -/

namespace SampleTypes

open Json (Value)

variable {values slot : List Property} {path slotPath key : String}

/-! ## What values can be -/

/-- The parts of the values of a slot, pooled. -/
def pooled (values : List Property) : List Property :=
  (present values).flatMap (·.children)

/-- The values are arrays, `null` aside, and there is one. -/
def AllArrays (values : List Property) : Prop :=
  present values ≠ [] ∧ ∀ p ∈ present values, p.node.isArray = true

/-- The values are objects, `null` aside, and there is one. -/
def AllObjects (values : List Property) : Prop :=
  present values ≠ [] ∧ ∀ p ∈ present values, p.node.isObject = true

/-- The values are scalars of this type, `null` aside, and there is one. -/
def AllScalars (values : List Property) (type : ValueType) : Prop :=
  present values ≠ [] ∧
    ∀ p ∈ present values, p.node.isScalar = true ∧ leafType p.node = .ok type

/-- The values are objects with these keys, `null` aside, and there is one. -/
def AllWithKeys (values : List Property) (keys : List String) : Prop :=
  present values ≠ [] ∧ ∀ p ∈ present values, ∃ members, p.node = .object members ∧
    ∀ key, key ∈ members.map (·.1) ↔ key ∈ keys

theorem AllWithKeys.allObjects {keys : List String} (h : AllWithKeys values keys) :
    AllObjects values := by
  refine ⟨h.1, ?_⟩
  intro p hp
  obtain ⟨members, hnode, -⟩ := h.2 p hp
  exact Value.isObject_iff.2 ⟨members, hnode⟩

/-- Objects have one set of keys. -/
theorem AllWithKeys.mem_iff {keys keys' : List String} (h : AllWithKeys values keys)
    (h' : AllWithKeys values keys') : key ∈ keys ↔ key ∈ keys' := by
  obtain ⟨p, hp⟩ := List.exists_mem_of_ne_nil _ h.1
  obtain ⟨members, hnode, hkeys⟩ := h.2 p hp
  obtain ⟨members', hnode', hkeys'⟩ := h'.2 p hp
  obtain rfl := Value.object.inj (hnode.symm.trans hnode')
  rw [← hkeys, hkeys']

/-! Values are one thing at most. -/

theorem AllArrays.not_allScalars (h : AllArrays values) (type : ValueType) :
    ¬ AllScalars values type := by
  intro hscalars
  obtain ⟨p, hp⟩ := List.exists_mem_of_ne_nil _ h.1
  obtain ⟨items, hnode⟩ := Value.isArray_iff.1 (h.2 p hp)
  have hscalar := (hscalars.2 p hp).1
  rw [hnode] at hscalar
  exact absurd hscalar (by simp [Value.isScalar])

theorem AllWithKeys.not_allArrays {keys : List String} (h : AllWithKeys values keys) :
    ¬ AllArrays values := by
  intro harrays
  obtain ⟨p, hp⟩ := List.exists_mem_of_ne_nil _ h.1
  obtain ⟨members, hnode, -⟩ := h.2 p hp
  have harray := harrays.2 p hp
  rw [hnode] at harray
  exact absurd harray (by simp [Value.isArray])

theorem AllWithKeys.not_allScalars {keys : List String} (h : AllWithKeys values keys)
    (type : ValueType) : ¬ AllScalars values type := by
  intro hscalars
  obtain ⟨p, hp⟩ := List.exists_mem_of_ne_nil _ h.1
  obtain ⟨members, hnode, -⟩ := h.2 p hp
  have hscalar := (hscalars.2 p hp).1
  rw [hnode] at hscalar
  exact absurd hscalar (by simp [Value.isScalar])

theorem AllScalars.type_eq {type type' : ValueType} (h : AllScalars values type)
    (h' : AllScalars values type') : type = type' := by
  obtain ⟨p, hp⟩ := List.exists_mem_of_ne_nil _ h.1
  exact Except.ok.inj ((h.2 p hp).2.symm.trans (h'.2 p hp).2)

theorem any_isNull_iff : values.any (·.isNull) = true ↔ ∃ p ∈ values, p.node = .null := by
  rw [List.any_eq_true]
  simp only [Property.isNull, Value.isNull_iff]

/-- What is nullable and not `null` is an array that holds a `null`. -/
theorem any_isNullable_present_iff :
    (present values).any (·.isNullable) = true ↔
      ∃ p ∈ present values, ∃ items, p.node = .array items ∧ .null ∈ items := by
  rw [List.any_eq_true]
  constructor
  · rintro ⟨p, hp, hnullable⟩
    refine ⟨p, hp, ?_⟩
    have hnull := (mem_present.1 hp).2
    rw [Property.isNullable] at hnullable
    rw [Property.isNull] at hnull
    cases hnode : p.node with
    | array items =>
      rw [hnode, Value.isNullable, List.any_eq_true] at hnullable
      obtain ⟨v, hv, hvnull⟩ := hnullable
      rw [Value.isNull_iff.1 hvnull] at hv
      exact ⟨items, rfl, hv⟩
    | null => rw [hnode] at hnull; exact absurd hnull (by simp [Value.isNull])
    | _ => rw [hnode] at hnullable; exact absurd hnullable (by simp [Value.isNullable])
  · rintro ⟨p, hp, items, hnode, hnull⟩
    refine ⟨p, hp, ?_⟩
    rw [Property.isNullable, hnode, Value.isNullable, List.any_eq_true]
    exact ⟨.null, hnull, rfl⟩

/-- Objects that merge have the merged keys. -/
theorem allWithKeys_of_mergedKeys (hall : ∀ p ∈ values, p.Annotates) (hobjects : AllObjects values)
    {keys : List String} (h : mergedKeys path (present values) = .ok keys) :
    AllWithKeys values keys := by
  refine ⟨hobjects.1, ?_⟩
  intro p hp
  obtain ⟨members, hnode⟩ := Value.isObject_iff.1 (hobjects.2 p hp)
  refine ⟨members, hnode, ?_⟩
  intro key
  rw [← (forall_present hall p hp).mem_keys hnode, (mergedKeys_ok h).2 p hp key]

/-! ## What they are taken for -/

namespace Common

theorem of_eq_arrays_iff (hall : ∀ p ∈ values, p.Annotates) :
    Common.of values = .arrays (pooled values) ↔ AllArrays values := by
  constructor
  · intro h
    obtain ⟨hne, -, harrays⟩ := arrays_of hall h
    exact ⟨hne, harrays⟩
  · rintro ⟨hne, harrays⟩
    exact of_allArrays hall hne harrays

/-- Objects have one type, which is that of no scalar. -/
theorem of_eq_objects_iff (hall : ∀ p ∈ values, p.Annotates) :
    Common.of values = .objects (present values) ↔ AllObjects values := by
  constructor
  · intro h
    exact ⟨(eq_present h).2, objects_of hall h⟩
  · rintro ⟨hne, hobjects⟩
    have hhave : HaveType values .object := by
      intro p hp
      obtain ⟨members, hnode⟩ := Value.isObject_iff.1 (hobjects p hp)
      rw [hnode]
      exact ⟨rfl, rfl⟩
    obtain ⟨p, hp⟩ := List.exists_mem_of_ne_nil _ hne
    have houtcome := of_outcome hall
    generalize Common.of values = outcome at houtcome ⊢
    -- any other outcome says of `p` that it is no object
    cases houtcome with
    | none hnone => exact absurd hnone hne
    | arrays _ harrays => exact absurd ((harrays p hp).symm.trans (hhave p hp).1) (by simp)
    | objects _ _ => rfl
    | scalar _ hobject htype =>
      exact absurd (Except.ok.inj ((htype p hp).2.symm.trans (hhave p hp).2)) hobject
    | mixed _ _ hnone => exact absurd hhave (hnone _)

theorem of_eq_scalar_iff (hall : ∀ p ∈ values, p.Annotates) {type : ValueType} :
    Common.of values = .scalar type ↔ AllScalars values type := by
  constructor
  · exact scalar_of hall
  · rintro ⟨hne, hscalars⟩
    have hhave : HaveType values type := by
      intro p hp
      obtain ⟨hscalar, hleaf⟩ := hscalars p hp
      refine ⟨?_, hleaf⟩
      cases hnode : p.node with
      | array items => rw [hnode] at hscalar; exact absurd hscalar (by simp [Value.isScalar])
      | _ => rfl
    obtain ⟨p, hp⟩ := List.exists_mem_of_ne_nil _ hne
    have htype : type.isScalar = true := by
      rw [leafType_isScalar (hscalars p hp).2, (hscalars p hp).1]
    have houtcome := of_outcome hall
    generalize Common.of values = outcome at houtcome ⊢
    cases houtcome with
    | none hnone => exact absurd hnone hne
    | arrays _ harrays => exact absurd ((harrays p hp).symm.trans (hhave p hp).1) (by simp)
    | objects _ hobject =>
      obtain rfl := Except.ok.inj ((hhave p hp).2.symm.trans (hobject p hp).2)
      exact absurd htype (by decide)
    | scalar _ _ htype' => rw [Except.ok.inj ((htype' p hp).2.symm.trans (hhave p hp).2)]
    | mixed _ _ hnone => exact absurd hhave (hnone type)

end Common

/-! ## Failures -/

/-- The slots whose shapes are found in order to find the shape of a slot, each with its path: the
    slot itself, the pooled elements of its arrays, the columns of its objects, and so on. -/
inductive Below : (path : String) → (values : List Property) →
    (slotPath : String) → (slot : List Property) → Prop where
  | here (path : String) (values : List Property) : Below path values path values
  | pooled {path slotPath : String} {values slot : List Property} :
    AllArrays values → Below path (pooled values) slotPath slot → Below path values slotPath slot
  | merged {path slotPath : String} {values slot : List Property} (key : String) :
    AllObjects values → Below (path ++ "." ++ key) (column key (pooled values)) slotPath slot →
    Below path values slotPath slot

/-- The path of a slot leads to all slots below it. -/
theorem Below.exists_rest (h : Below path values slotPath slot) : ∃ rest, slotPath = path ++ rest := by
  induction h with
  | here path values => exact ⟨"", by simp⟩
  | pooled _ _ ih => exact ih
  | @merged path _ _ _ key _ _ ih =>
    obtain ⟨rest, rfl⟩ := ih
    exact ⟨"." ++ (key ++ rest), by simp only [String.append_assoc]⟩

/-- The values are objects, `null` aside, and two of them have different keys. -/
def Clash (values : List Property) : Prop :=
  (∀ p ∈ present values, p.node.isObject = true) ∧
    ∃ p ∈ present values, ∃ q ∈ present values, ¬ p.SameKeys q

namespace Shape

theorem ofValues_fails_of_mergedKeys {e : Error}
    (hobjects : Common.of values = .objects (present values))
    (hkeys : mergedKeys path (present values) = .error e) : ofValues path values = .error e := by
  rw [ofValues_of_objects hobjects, hkeys]

/-- What keeps one column from being merged keeps the objects from it. -/
theorem ofKeys_fails_of_column {parts : List Property} {keys : List String} {e : Error}
    (hkey : key ∈ keys) (h : ofValues (path ++ "." ++ key) (column key parts) = .error e) :
    ∃ e, ofKeys path parts keys = .error e := by
  cases hslots : ofKeys path parts keys with
  | error e => exact ⟨e, rfl⟩
  | ok slots =>
    obtain ⟨rfl, hcolumns⟩ := ofKeys_ok hslots
    obtain ⟨slot, hslot, rfl⟩ := List.mem_map.1 hkey
    exact absurd ((hcolumns slot hslot).symm.trans h) (by simp)

theorem column_eq_nil {keys : List String} {objects : List Property}
    (hkeys : mergedKeys path objects = .ok keys) (hkey : key ∉ keys) :
    column key (objects.flatMap (·.children)) = [] := by
  rw [column, List.filter_eq_nil_iff]
  intro c hc hcolumn
  obtain ⟨p, hp, hcp⟩ := List.mem_flatMap.1 hc
  refine hkey (((mergedKeys_ok hkeys).2 p hp key).1 ?_)
  rw [Property.keys, List.mem_eraseDups, List.mem_filterMap]
  exact ⟨c, hcp, eq_of_beq hcolumn⟩

/-- A clash has no shape, nor has any slot that it is below. -/
theorem ofValues_fails_of_clash (hall : ∀ p ∈ values, p.Annotates)
    (hbelow : Below path values slotPath slot) (hclash : Clash slot) :
    ∃ e, ofValues path values = .error e := by
  induction hbelow with
  | here path values =>
    obtain ⟨hobjects, p, hp, hdiffers⟩ := hclash
    have hof := (Common.of_eq_objects_iff hall).2 ⟨List.ne_nil_of_mem hp, hobjects⟩
    obtain ⟨e, hkeys⟩ := mergedKeys_fails_iff.2 ⟨p, hp, hdiffers⟩
    exact ⟨e, ofValues_fails_of_mergedKeys hof hkeys⟩
  | pooled harrays _ ih =>
    obtain ⟨e, he⟩ := ih (forall_parts Property.Annotates.children (forall_present hall)) hclash
    refine ⟨e, ?_⟩
    rw [ofValues_of_arrays ((Common.of_eq_arrays_iff hall).2 harrays), map_eq_error]
    exact he
  | @merged path slotPath values slot key hobjects _ ih =>
    have hparts := forall_parts Property.Annotates.children (forall_present hall)
    have hof := (Common.of_eq_objects_iff hall).2 hobjects
    obtain ⟨e, he⟩ := ih (forall_column hparts) hclash
    cases hkeys : mergedKeys path (present values) with
    | error e' => exact ⟨e', ofValues_fails_of_mergedKeys hof hkeys⟩
    | ok keys =>
      by_cases hkey : key ∈ keys
      · obtain ⟨e', hslots⟩ := ofKeys_fails_of_column hkey he
        refine ⟨e', ?_⟩
        rw [ofValues_of_objects hof, hkeys]
        exact map_eq_error.2 hslots
      · -- A key that is not merged has no values, and no values have a shape.
        rw [pooled, column_eq_nil hkeys hkey, ofValues_of_nothing (Common.of_eq_nothing rfl)] at he
        exact absurd he (by simp)

/-- The failure of a slot is that of merging the keys of objects, in the slot or in one below. -/
theorem exists_below_of_ofValues_fails (hall : ∀ p ∈ values, p.Annotates) {e : Error}
    (h : ofValues path values = .error e) :
    ∃ slotPath slot, Below path values slotPath slot ∧ AllObjects slot ∧
      mergedKeys slotPath (present slot) = .error e := by
  induction values using slot_induction generalizing path e with
  | step values ihElements ihColumn =>
    have hparts := forall_parts Property.Annotates.children (forall_present hall)
    cases hof : Common.of values with
    | nothing =>
      rw [ofValues_of_nothing hof] at h
      exact absurd h (by simp)
    | scalar type =>
      rw [ofValues_of_scalar hof] at h
      exact absurd h (by simp)
    | arrays elements =>
      obtain ⟨hne, rfl, harrays⟩ := Common.arrays_of hall hof
      rw [ofValues_of_arrays hof, map_eq_error] at h
      obtain ⟨slotPath, slot, hbelow, hslot⟩ := ihElements _ hof hparts h
      exact ⟨slotPath, slot, .pooled ⟨hne, harrays⟩ hbelow, hslot⟩
    | objects objects =>
      obtain ⟨rfl, hne⟩ := Common.eq_present hof
      have hobjects : AllObjects values := ⟨hne, Common.objects_of hall hof⟩
      rw [ofValues_of_objects hof] at h
      cases hkeys : mergedKeys path (present values) with
      | error e' =>
        simp only [hkeys] at h
        obtain rfl := Except.error.inj h
        exact ⟨path, values, .here path values, hobjects, hkeys⟩
      | ok keys =>
        simp only [hkeys, map_eq_error] at h
        obtain ⟨key, hcolumn⟩ := ofKeys_error h
        obtain ⟨slotPath, slot, hbelow, hslot⟩ :=
          ihColumn _ hof key (forall_column hparts) hcolumn
        exact ⟨slotPath, slot, .merged key hobjects hbelow, hslot⟩

end Shape

end SampleTypes
