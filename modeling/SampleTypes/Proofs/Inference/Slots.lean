import SampleTypes.Inference.Shape
import SampleTypes.Proofs.Inference.Tree

set_option autoImplicit false

/-! # What a slot is taken for

Each outcome of `Common.of` says something of every value in the slot, and each outcome of
`Shape.ofValues` comes from one outcome of `Common.of`. Proofs about shapes go through these
facts and open neither definition. -/

namespace SampleTypes

open Json (Value)

/-! ## Distinct types -/

theorem ValueType.mem_distinct {entries : List (Bool × ValueType)} {type : ValueType} :
    type ∈ distinct entries ↔ (false, type) ∈ entries := by
  have hfold : ∀ (entries : List (Bool × ValueType)) (seen : List ValueType),
      type ∈ entries.foldl
        (fun seen entry => if entry.1 || seen.contains entry.2 then seen else seen ++ [entry.2])
        seen ↔ type ∈ seen ∨ (false, type) ∈ entries := by
    intro entries
    induction entries with
    | nil => intro seen; simp
    | cons entry rest ih =>
      intro seen
      obtain ⟨null, t⟩ := entry
      rw [List.foldl_cons, ih]
      cases null
      · by_cases hseen : t ∈ seen
        · simp only [Bool.false_or, List.contains_eq_mem, hseen, decide_true, if_true,
            List.mem_cons, Prod.mk.injEq, true_and]
          constructor
          · rintro (h | h)
            · exact Or.inl h
            · exact Or.inr (Or.inr h)
          · rintro (h | rfl | h)
            · exact Or.inl h
            · exact Or.inl hseen
            · exact Or.inr h
        · simp [hseen, or_assoc]
      · simp
  rw [distinct, hfold]
  simp

theorem ValueType.nodup_distinct (entries : List (Bool × ValueType)) : (distinct entries).Nodup := by
  have hfold : ∀ (entries : List (Bool × ValueType)) (seen : List ValueType), seen.Nodup →
      (entries.foldl
        (fun seen entry => if entry.1 || seen.contains entry.2 then seen else seen ++ [entry.2])
        seen).Nodup := by
    intro entries
    induction entries with
    | nil => intro seen hseen; exact hseen
    | cons entry rest ih =>
      intro seen hseen
      rw [List.foldl_cons]
      apply ih
      split
      · exact hseen
      · next hnew =>
        rw [Bool.or_eq_true, not_or, List.contains_iff_mem] at hnew
        exact hseen.append (List.nodup_singleton _) (List.disjoint_singleton.2 hnew.2)
  exact hfold entries [] List.nodup_nil

/-- There is one distinct type if and only if every entry that is not `null` has it. -/
theorem ValueType.distinct_eq_singleton_iff {entries : List (Bool × ValueType)}
    {type : ValueType} :
    distinct entries = [type] ↔ ∀ t, (false, t) ∈ entries ↔ t = type := by
  constructor
  · intro h t
    rw [← mem_distinct, h, List.mem_singleton]
  · intro h
    have hperm : (distinct entries).Perm [type] := by
      rw [List.perm_ext_iff_of_nodup (nodup_distinct entries) (List.nodup_singleton type)]
      intro t
      rw [mem_distinct, h, List.mem_singleton]
    exact List.perm_singleton.1 hperm

/-! ## Values that are not `null` -/

theorem mem_present {values : List Property} {p : Property} :
    p ∈ present values ↔ p ∈ values ∧ p.isNull = false := by
  rw [present, List.mem_filter, Bool.not_eq_true']

theorem mem_evidence {values : List Property} {p : Property} :
    p ∈ evidence values ↔ p ∈ present values ∧ p.isHollowArray = false := by
  rw [evidence, List.mem_filter, Bool.not_eq_true']

theorem forall_present {P : Property → Prop} {values : List Property}
    (hall : ∀ p ∈ values, P p) : ∀ p ∈ present values, P p :=
  fun p hp => hall p (mem_present.1 hp).1

/-- Arrays hold a `null` if there is one among their pooled elements. -/
theorem any_isNullable_eq {arrays : List Property} (hall : ∀ p ∈ arrays, p.Annotates)
    (harrays : ∀ p ∈ arrays, p.node.isArray = true) :
    arrays.any (·.isNullable) = (arrays.flatMap (·.children)).any (·.isNull) := by
  induction arrays with
  | nil => rfl
  | cons p rest ih =>
    obtain ⟨hp, hrest⟩ := List.forall_mem_cons.1 hall
    obtain ⟨harray, harrays⟩ := List.forall_mem_cons.1 harrays
    rw [List.any_cons, List.flatMap_cons, List.any_append, hp.isNullable_eq harray, ih hrest harrays]

/-- What trees hand down to their parts, merged objects hand down to all of their members, and
    arrays to their pooled elements. -/
theorem forall_parts {P : Property → Prop} (hchildren : ∀ {p}, P p → ∀ c ∈ p.children, P c)
    {objects : List Property} (hall : ∀ p ∈ objects, P p) :
    ∀ c ∈ objects.flatMap (·.children), P c := by
  intro c hc
  obtain ⟨p, hp, hcp⟩ := List.mem_flatMap.1 hc
  exact hchildren (hall p hp) c hcp

theorem forall_column {P : Property → Prop} {key : String} {parts : List Property}
    (hall : ∀ p ∈ parts, P p) : ∀ p ∈ column key parts, P p :=
  fun p hp => hall p (List.mem_of_mem_filter hp)

namespace Common

variable {values : List Property}

/-- The types of some values, each of them once. -/
theorem mem_distinct_types {ps : List Property} {type : ValueType} :
    type ∈ ValueType.distinct (ps.map fun v => (false, v.type)) ↔ ∃ p ∈ ps, p.type = type := by
  rw [ValueType.mem_distinct, List.mem_map]
  simp only [Prod.mk.injEq, true_and]

/-- Neither no type nor several types settle anything. -/
theorem ofTypes_several {ps : List Property} {types : List ValueType}
    (h : ∀ type, types ≠ [type]) : ofTypes ps types = .nothing := by
  unfold ofTypes
  split
  · exact absurd rfl (h _)
  · exact absurd rfl (h _)
  · rfl

theorem ofTypes_scalar {ps : List Property} {type : ValueType} (h : type ≠ .object) :
    ofTypes ps [type] = .scalar type := by
  unfold ofTypes
  split
  · rename_i hone
    exact absurd (List.singleton_inj.1 hone) h
  · rename_i hone
    rw [List.singleton_inj.1 hone]
  · rename_i hother
    exact absurd rfl (hother type)

theorem isArray_of_isHollowArray {p : Property} (h : p.isHollowArray = true) :
    p.node.isArray = true := by
  rw [Property.isHollowArray, Bool.and_eq_true] at h
  exact h.1

theorem isHollowArray_of_not_array {p : Property} (h : p.node.isArray = false) :
    p.isHollowArray = false := by
  rw [Property.isHollowArray, h, Bool.false_and]

/-- Arrays have something in common whatever their types are: those that are not hollow have the
    types of arrays, and if there are none, the others are hollow. -/
theorem of_allArrays (hall : ∀ p ∈ values, p.Annotates) (hne : present values ≠ [])
    (harrays : ∀ p ∈ present values, p.node.isArray = true) :
    Common.of values = .arrays ((present values).flatMap (·.children)) := by
  unfold Common.of
  simp only
  split
  · rename_i hnone
    obtain ⟨p, hp⟩ := List.exists_mem_of_ne_nil _ hne
    have hhollow : p.isHollowArray = true := by
      by_contra hsays
      rw [Bool.not_eq_true] at hsays
      have htype := mem_distinct_types.2 ⟨p, mem_evidence.2 ⟨hp, hsays⟩, rfl⟩
      rw [List.isEmpty_iff.1 hnone] at htype
      exact absurd htype List.not_mem_nil
    rw [if_pos (List.any_eq_true.2 ⟨p, hp, hhollow⟩)]
  · rw [if_pos]
    rw [List.all_eq_true]
    intro type htype
    obtain ⟨p, hp, rfl⟩ := mem_distinct_types.1 htype
    obtain ⟨hp, -⟩ := mem_evidence.1 hp
    rw [(hall p (mem_present.1 hp).1).type_isArray, harrays p hp]

theorem distinct_types_ne_singleton {ps : List Property} {p q : Property} (hp : p ∈ ps)
    (hq : q ∈ ps) (h : p.type ≠ q.type) (type : ValueType) :
    ValueType.distinct (ps.map fun v => (false, v.type)) ≠ [type] := by
  intro hone
  have honly : ∀ v ∈ ps, v.type = type := by
    intro v hv
    have hmem := mem_distinct_types.2 ⟨v, hv, rfl⟩
    rw [hone] at hmem
    exact List.mem_singleton.1 hmem
  exact h ((honly p hp).trans (honly q hq).symm)

theorem evidence_eq_present (h : ¬ (present values).any (·.isHollowArray) = true) :
    evidence values = present values := by
  rw [evidence, List.filter_eq_self]
  intro p hp
  rw [Bool.not_eq_true']
  by_contra hhollow
  rw [Bool.not_eq_false] at hhollow
  exact h (List.any_eq_true.2 ⟨p, hp, hhollow⟩)

/-- Where there is anything but arrays, all types count, those of hollow arrays as well: the type
    of an array is then not the only one. -/
theorem of_notAllArrays (hall : ∀ p ∈ values, p.Annotates) {q : Property}
    (hq : q ∈ present values) (harray : q.node.isArray = false) :
    Common.of values =
      ofTypes (present values)
        (ValueType.distinct ((present values).map fun v => (false, v.type))) := by
  have hqtype : q.type.isArray = false := by
    rw [(forall_present hall q hq).type_isArray, harray]
  have htypes : q.type ∈ ValueType.distinct ((evidence values).map fun v => (false, v.type)) :=
    mem_distinct_types.2 ⟨q, mem_evidence.2 ⟨hq, isHollowArray_of_not_array harray⟩, rfl⟩
  have hsome : ¬ (ValueType.distinct ((evidence values).map fun v => (false, v.type))).isEmpty
      = true := by
    rw [List.isEmpty_iff]
    exact List.ne_nil_of_mem htypes
  have hother : ¬ ((ValueType.distinct ((evidence values).map fun v => (false, v.type))).all
      (·.isArray)) = true := by
    rw [List.all_eq_true]
    intro harrays
    rw [harrays _ htypes] at hqtype
    exact absurd hqtype.symm Bool.false_ne_true
  unfold Common.of
  simp only
  rw [if_neg hsome, if_neg hother]
  by_cases hhollow : (present values).any (·.isHollowArray) = true
  · obtain ⟨p, hp, hphollow⟩ := List.any_eq_true.1 hhollow
    have hptype : p.type.isArray = true := by
      rw [(forall_present hall p hp).type_isArray, isArray_of_isHollowArray hphollow]
    have hdiffers : p.type ≠ q.type := by
      intro heq
      rw [heq, hqtype] at hptype
      exact absurd hptype Bool.false_ne_true
    rw [if_pos hhollow, ofTypes_several (distinct_types_ne_singleton hp hq hdiffers)]
  · rw [if_neg hhollow, evidence_eq_present hhollow]

/-- The values that are not `null` have one type, which is not an array's. -/
def HaveType (values : List Property) (type : ValueType) : Prop :=
  ∀ p ∈ present values, p.node.isArray = false ∧ leafType p.node = .ok type

/-- What has the type of objects, and is no `null`, is an object. -/
theorem HaveType.isObject (h : HaveType values .object) :
    ∀ p ∈ present values, p.node.isObject = true := by
  intro p hp
  obtain ⟨harray, hleaf⟩ := h p hp
  have hnull := (mem_present.1 hp).2
  rcases Value.isScalar_eq_false_iff.1 (leafType_isScalar hleaf).symm with h | h | h
  · rw [Property.isNull, h] at hnull
    exact absurd hnull (by simp)
  · rw [harray] at h
    exact absurd h (by simp)
  · exact h

/-- What has another type is a scalar. -/
theorem HaveType.isScalar {type : ValueType} (h : HaveType values type) (hobject : type ≠ .object) :
    ∀ p ∈ present values, p.node.isScalar = true := by
  intro p hp
  obtain ⟨harray, hleaf⟩ := h p hp
  cases hnode : p.node with
  | null => rw [hnode] at hleaf; exact absurd (Except.ok.inj hleaf).symm hobject
  | object members => rw [hnode] at hleaf; exact absurd (Except.ok.inj hleaf).symm hobject
  | array items => rw [hnode] at harray; exact absurd harray (by simp [Value.isArray])
  | bool | number | string => rfl

/-- Where there is anything but arrays, one type is that of every value. -/
theorem distinct_types_eq_singleton_iff (hall : ∀ p ∈ values, p.Annotates) {q : Property}
    (hq : q ∈ present values) (hqarray : q.node.isArray = false) {type : ValueType} :
    ValueType.distinct ((present values).map fun v => (false, v.type)) = [type] ↔
      HaveType values type := by
  have hall := forall_present hall
  constructor
  · intro hone
    have htype : ∀ p ∈ present values, p.type = type := by
      intro p hp
      have hmem := mem_distinct_types.2 ⟨p, hp, rfl⟩
      rw [hone] at hmem
      exact List.mem_singleton.1 hmem
    intro p hp
    have harray : p.node.isArray = false := by
      rw [← (hall p hp).type_isArray, htype p hp, ← htype q hq, (hall q hq).type_isArray, hqarray]
    exact ⟨harray, by rw [(hall p hp).leafType_eq harray, htype p hp]⟩
  · intro hhave
    have htype : ∀ p ∈ present values, p.type = type := by
      intro p hp
      obtain ⟨harray, hleaf⟩ := hhave p hp
      rw [(hall p hp).leafType_eq harray] at hleaf
      exact Except.ok.inj hleaf
    rw [ValueType.distinct_eq_singleton_iff]
    intro t
    rw [← ValueType.mem_distinct, mem_distinct_types]
    constructor
    · rintro ⟨p, hp, rfl⟩
      exact htype p hp
    · rintro rfl
      exact ⟨q, hq, htype q hq⟩

/-- What it takes for an outcome. -/
inductive Outcome (values : List Property) : Common → Prop where
  | none : present values = [] → Outcome values .nothing
  | arrays : present values ≠ [] → (∀ p ∈ present values, p.node.isArray = true) →
    Outcome values (.arrays ((present values).flatMap (·.children)))
  | objects : present values ≠ [] → HaveType values .object →
    Outcome values (.objects (present values))
  | scalar {type : ValueType} : present values ≠ [] → type ≠ .object → HaveType values type →
    Outcome values (.scalar type)
  | mixed {q : Property} : q ∈ present values → q.node.isArray = false →
    (∀ type, ¬ HaveType values type) → Outcome values .nothing

theorem of_outcome (hall : ∀ p ∈ values, p.Annotates) : Outcome values (Common.of values) := by
  by_cases hne : present values = []
  · rw [of_eq_nothing hne]
    exact .none hne
  by_cases harrays : ∀ p ∈ present values, p.node.isArray = true
  · rw [of_allArrays hall hne harrays]
    exact .arrays hne harrays
  obtain ⟨q, hq, hqarray⟩ : ∃ q ∈ present values, q.node.isArray = false := by
    simpa using harrays
  have hone : ∀ type, _ ↔ HaveType values type := fun type =>
    distinct_types_eq_singleton_iff hall hq hqarray
  rw [of_notAllArrays hall hq hqarray]
  by_cases hhave : ∃ type, HaveType values type
  · obtain ⟨type, hhave⟩ := hhave
    rw [(hone type).2 hhave]
    by_cases hobject : type = .object
    · subst hobject
      exact .objects hne hhave
    · rw [ofTypes_scalar hobject]
      exact .scalar hne hobject hhave
  · have hnone : ∀ type, ¬ HaveType values type := fun type htype => hhave ⟨type, htype⟩
    rw [ofTypes_several fun type htypes => hnone type ((hone type).1 htypes)]
    exact .mixed hq hqarray hnone

theorem arrays_of {elements : List Property} (hall : ∀ p ∈ values, p.Annotates)
    (h : Common.of values = .arrays elements) :
    present values ≠ [] ∧ elements = (present values).flatMap (·.children) ∧
      ∀ p ∈ present values, p.node.isArray = true := by
  have houtcome := of_outcome hall
  rw [h] at houtcome
  cases houtcome with
  | arrays hne harrays => exact ⟨hne, rfl, harrays⟩

theorem objects_of {objects : List Property} (hall : ∀ p ∈ values, p.Annotates)
    (h : Common.of values = .objects objects) :
    ∀ p ∈ present values, p.node.isObject = true := by
  have houtcome := of_outcome hall
  rw [h] at houtcome
  cases houtcome with
  | objects _ hhave => exact hhave.isObject

theorem scalar_of {type : ValueType} (hall : ∀ p ∈ values, p.Annotates)
    (h : Common.of values = .scalar type) :
    present values ≠ [] ∧
      ∀ p ∈ present values, p.node.isScalar = true ∧ leafType p.node = .ok type := by
  have houtcome := of_outcome hall
  rw [h] at houtcome
  cases houtcome with
  | scalar hne hobject hhave =>
    exact ⟨hne, fun p hp => ⟨hhave.isScalar hobject p hp, (hhave p hp).2⟩⟩

/-- The same outcome, up to a relation between the lists of elements or of objects. -/
inductive Matches (R : List Property → List Property → Prop) : Common → Common → Prop where
  | nothing : Matches R .nothing .nothing
  | scalar (type : ValueType) : Matches R (.scalar type) (.scalar type)
  | arrays {elements elements' : List Property} :
    R elements elements' → Matches R (.arrays elements) (.arrays elements')
  | objects {objects objects' : List Property} :
    R objects objects' → Matches R (.objects objects) (.objects objects')

/-- All that the outcome rests on: the types that there are, and whether there are hollow
    arrays. -/
theorem of_matches {R : List Property → List Property → Prop} {others : List Property}
    (hhollow : ((present values).any fun v => v.isHollowArray)
      = (present others).any fun v => v.isHollowArray)
    (htypes : ∀ type, (∃ p ∈ evidence values, p.type = type) ↔ ∃ p ∈ evidence others, p.type = type)
    (helements : R ((present values).flatMap (·.children)) ((present others).flatMap (·.children)))
    (hobjects : R (present values) (present others)) :
    Matches R (Common.of values) (Common.of others) := by
  have hmem : ∀ type, type ∈ ValueType.distinct ((evidence values).map fun v => (false, v.type)) ↔
      type ∈ ValueType.distinct ((evidence others).map fun v => (false, v.type)) := by
    intro type
    rw [mem_distinct_types, mem_distinct_types, htypes]
  have hsingle : ∀ type,
      ValueType.distinct ((evidence values).map fun v => (false, v.type)) = [type] ↔
        ValueType.distinct ((evidence others).map fun v => (false, v.type)) = [type] := by
    intro type
    rw [ValueType.distinct_eq_singleton_iff, ValueType.distinct_eq_singleton_iff]
    simp only [List.mem_map, Prod.mk.injEq, true_and, htypes]
  unfold Common.of
  generalize ValueType.distinct ((evidence values).map fun v => (false, v.type)) = types
    at hmem hsingle
  generalize ValueType.distinct ((evidence others).map fun v => (false, v.type)) = types'
    at hmem hsingle
  have hempty : types.isEmpty = types'.isEmpty := by
    rw [Bool.eq_iff_iff, List.isEmpty_iff, List.isEmpty_iff]
    simp only [List.eq_nil_iff_forall_not_mem, hmem]
  have harrays : (types.all fun t => t.isArray) = types'.all fun t => t.isArray := by
    rw [Bool.eq_iff_iff, List.all_eq_true, List.all_eq_true]
    simp only [hmem]
  simp only [hempty, harrays, hhollow]
  split_ifs
  · exact .arrays helements
  · exact .nothing
  · exact .arrays helements
  · exact .nothing
  · by_cases hone : ∃ type, types = [type]
    · obtain ⟨type, rfl⟩ := hone
      obtain rfl := (hsingle type).1 rfl
      by_cases hobject : type = .object
      · subst hobject
        exact .objects hobjects
      · rw [ofTypes_scalar hobject, ofTypes_scalar hobject]
        exact .scalar type
    · rw [ofTypes_several fun type htype => hone ⟨type, htype⟩,
        ofTypes_several fun type htype => hone ⟨type, (hsingle type).2 htype⟩]
      exact .nothing

end Common

/-! ## Induction over slots -/

/-- What holds of a slot as soon as it holds of the pooled elements of its arrays, and of every
    column of its objects, holds of all slots. -/
theorem slot_induction {motive : List Property → Prop}
    (step : ∀ values,
      (∀ elements, Common.of values = .arrays elements → motive elements) →
      (∀ objects, Common.of values = .objects objects →
        ∀ key, motive (column key (objects.flatMap (·.children)))) →
      motive values)
    (values : List Property) : motive values := by
  refine step values ?_ ?_
  · intro elements hc
    have hlt := Common.weightAll_arrays hc
    exact slot_induction step elements
  · intro objects hc key
    obtain ⟨rfl, hne⟩ := Common.eq_present hc
    have hle := weightAll_present_le values
    have hcolumn := Property.weightAll_filter_le (fun p => p.key == some key)
      ((present values).flatMap (·.children))
    have heq := Property.weightAll_children (present values)
    have hpos := List.length_pos_iff.2 hne
    exact slot_induction step _
termination_by Property.weightAll values
decreasing_by
  · exact hlt
  · rw [column]; omega

/-! ## Outcomes of merging -/

section Outcomes

variable {α β : Type} {f : α → β} {outcome : Except Error α}

theorem map_eq_ok {b : β} : outcome.map f = .ok b ↔ ∃ a, outcome = .ok a ∧ f a = b := by
  cases outcome <;> simp [Except.map]

/-- What becomes of a result is no reason to fail. -/
theorem map_eq_error {e : Error} : outcome.map f = .error e ↔ outcome = .error e := by
  cases outcome <;> simp [Except.map]

end Outcomes

namespace Shape

/-- The shape of merged objects with these slots. -/
def ofSlots : List (String × Shape × Bool) → Shape
  | [] => .any
  | slots => .record slots

section Equations

variable {path : String} {values : List Property}

theorem ofValues_of_nothing (h : Common.of values = .nothing) :
    ofValues path values = .ok (.any, values.any (·.isNull)) := by
  rw [ofValues]
  split <;> simp_all

theorem ofValues_of_scalar {type : ValueType} (h : Common.of values = .scalar type) :
    ofValues path values = .ok (.scalar type, values.any (·.isNull)) := by
  rw [ofValues]
  split <;> simp_all

theorem ofValues_of_arrays {elements : List Property} (h : Common.of values = .arrays elements) :
    ofValues path values =
      (ofValues path elements).map fun item =>
        (.list item.1 ((present values).any (·.isNullable)), values.any (·.isNull)) := by
  rw [ofValues]
  split
  case h_3 elements' hc =>
    obtain rfl : elements' = elements := by simpa [hc] using h
    cases ofValues path elements' <;> rfl
  all_goals simp_all

theorem ofValues_of_objects {objects : List Property} (h : Common.of values = .objects objects) :
    ofValues path values =
      match mergedKeys path objects with
      | .error e => .error e
      | .ok keys =>
        (ofKeys path (objects.flatMap (·.children)) keys).map fun slots =>
          (ofSlots slots, values.any (·.isNull)) := by
  rw [ofValues]
  split
  case h_4 objects' hc =>
    obtain rfl : objects' = objects := by simpa [hc] using h
    split
    · next hkeys => rw [hkeys]
    · next keys hkeys =>
      simp only [hkeys]
      cases ofKeys path (objects'.flatMap (·.children)) keys with
      | error e => rfl
      | ok slots => cases slots <;> rfl
  all_goals simp_all

end Equations

/-- What the merged values of a slot come to, by what they have in common. -/
theorem ofValues_cases {path : String} {values : List Property} {shape : Shape} {nullable : Bool}
    (h : ofValues path values = .ok (shape, nullable)) :
    nullable = values.any (·.isNull) ∧
      (Common.of values = .nothing ∧ shape = .any ∨
        (∃ type, Common.of values = .scalar type ∧ shape = .scalar type) ∨
        (∃ elements item slotNullable, Common.of values = .arrays elements ∧
          ofValues path elements = .ok (item, slotNullable) ∧
          shape = .list item ((present values).any (·.isNullable))) ∨
        ∃ keys slots, Common.of values = .objects (present values) ∧
          mergedKeys path (present values) = .ok keys ∧
          ofKeys path ((present values).flatMap (·.children)) keys = .ok slots ∧
          (slots = [] ∧ shape = .any ∨ slots ≠ [] ∧ shape = .record slots)) := by
  rw [ofValues] at h
  split at h
  · next hc => cases h; exact ⟨rfl, .inl ⟨hc, rfl⟩⟩
  · next type hc => cases h; exact ⟨rfl, .inr (.inl ⟨type, hc, rfl⟩)⟩
  · next elements hc =>
    split at h
    · next item slotNullable hitem =>
      cases h
      exact ⟨rfl, .inr (.inr (.inl ⟨elements, item, slotNullable, hc, hitem, rfl⟩))⟩
    · cases h
  · next objects hc =>
    obtain ⟨rfl, -⟩ := Common.eq_present hc
    split at h
    · cases h
    · next keys hkeys =>
      split at h
      · next hslots =>
        cases h
        exact ⟨rfl, .inr (.inr (.inr ⟨keys, [], hc, hkeys, hslots, .inl ⟨rfl, rfl⟩⟩))⟩
      · next slots hne hslots =>
        cases h
        exact ⟨rfl, .inr (.inr (.inr ⟨keys, slots, hc, hkeys, hslots, .inr ⟨hne, rfl⟩⟩))⟩
      · cases h

/-- Merged objects have one slot for each key, merged from what stands under the key. -/
theorem ofKeys_ok {path : String} {parts : List Property} {keys : List String}
    {slots : List (String × Shape × Bool)} (h : ofKeys path parts keys = .ok slots) :
    slots.map (·.1) = keys ∧
      ∀ slot ∈ slots, ofValues (path ++ "." ++ slot.1) (column slot.1 parts) = .ok slot.2 := by
  induction keys generalizing slots with
  | nil => rw [ofKeys] at h; cases h; simp
  | cons key rest ih =>
    rw [ofKeys] at h
    split at h
    · cases h
    · next shape nullable hslot =>
      split at h
      · next members hrest =>
        cases h
        obtain ⟨hkeys, hall⟩ := ih hrest
        refine ⟨by rw [List.map_cons, hkeys], ?_⟩
        intro slot hmem
        rcases List.mem_cons.1 hmem with rfl | hmem
        · exact hslot
        · exact hall slot hmem
      · cases h

/-- The outcome for some keys rests on the columns under them alone. -/
theorem ofKeys_congr {path : String} {parts parts' : List Property} {keys : List String}
    (h : ∀ key ∈ keys, ofValues (path ++ "." ++ key) (column key parts)
      = ofValues (path ++ "." ++ key) (column key parts')) :
    ofKeys path parts keys = ofKeys path parts' keys := by
  induction keys with
  | nil => rw [ofKeys, ofKeys]
  | cons key rest ih =>
    obtain ⟨hkey, hrest⟩ := List.forall_mem_cons.1 h
    rw [ofKeys, ofKeys, hkey, ih hrest]

/-- Slots that are merged from their columns are the outcome for their keys. -/
theorem ofKeys_of_slots {path : String} {parts : List Property}
    {slots : List (String × Shape × Bool)}
    (h : ∀ slot ∈ slots, ofValues (path ++ "." ++ slot.1) (column slot.1 parts) = .ok slot.2) :
    ofKeys path parts (slots.map (·.1)) = .ok slots := by
  induction slots with
  | nil => rw [List.map_nil, ofKeys]
  | cons slot rest ih =>
    obtain ⟨hslot, hrest⟩ := List.forall_mem_cons.1 h
    rw [List.map_cons, ofKeys, hslot, ih hrest]

/-- What comes out for some keys comes out of any other parts whose columns come to the same. -/
theorem ofKeys_of_columns {path : String} {parts parts' : List Property} {keys : List String}
    {slots : List (String × Shape × Bool)}
    (hcolumn : ∀ key slot, ofValues (path ++ "." ++ key) (column key parts) = .ok slot →
      ofValues (path ++ "." ++ key) (column key parts') = .ok slot)
    (h : ofKeys path parts keys = .ok slots) : ofKeys path parts' keys = .ok slots := by
  obtain ⟨rfl, hslots⟩ := ofKeys_ok h
  exact ofKeys_of_slots fun slot hslot => hcolumn slot.1 slot.2 (hslots slot hslot)

/-- The fault of merged objects is that of one of their columns. -/
theorem ofKeys_error {path : String} {parts : List Property} {keys : List String} {e : Error}
    (h : ofKeys path parts keys = .error e) :
    ∃ key, ofValues (path ++ "." ++ key) (column key parts) = .error e := by
  induction keys with
  | nil => rw [ofKeys] at h; cases h
  | cons key rest ih =>
    rw [ofKeys] at h
    split at h
    · next e' hslot => cases h; exact ⟨key, hslot⟩
    · split at h
      · cases h
      · next e' hrest => cases h; exact ih hrest

end Shape

/-! ## The root -/

/-- The slots of a root are those of its objects, under their merged keys. -/
theorem rootMembers_eq_ok {root : Property} {slots : List (String × Shape × Bool)} :
    rootMembers root = .ok slots ↔ ∃ objects keys, rootObjects root = .ok objects ∧
      mergedKeys rootPath objects = .ok keys ∧
      Shape.ofKeys rootPath (objects.flatMap (·.children)) keys = .ok slots := by
  unfold rootMembers
  constructor
  · intro h
    split at h
    · cases h
    · next objects hobjects =>
      split at h
      · cases h
      · next keys hkeys => exact ⟨objects, keys, hobjects, hkeys, h⟩
  · rintro ⟨objects, keys, hobjects, hkeys, hslots⟩
    simp only [hobjects, hkeys, hslots]

end SampleTypes
