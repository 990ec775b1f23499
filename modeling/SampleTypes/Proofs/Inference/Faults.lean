import SampleTypes.Proofs.Inference.Agreement
import SampleTypes.Proofs.Json.Parts
import SampleTypes.Proofs.Scalar.Rejection

set_option autoImplicit false

/-! # What keeps a document from being merged

A document has a tree unless one of its numbers has no type, and then the first such number is
named, also where its value would have had no influence on the outcome. A tree has root objects
unless its root is of another form. Whatever goes wrong after that, objects with different keys
have met in a slot. -/

namespace SampleTypes

open Json (Value)

/-! ## Numbers without a type -/

/-- Whether no type is found for the number. -/
def isUntyped (literal : String) : Bool :=
  (numberType? literal.toList).isNone

/-- Reading a tree fails at the literal, or does not fail. -/
inductive FailsAt {α : Type} : (fault : Option String) → Except Error α → Prop where
  | none (result : α) : FailsAt none (.ok result)
  | some (literal : String) : FailsAt (some literal) (.error (.unsupportedNumber literal))

namespace Property

theorem ofNode_number_failsAt (key : Option String) (literal : String) :
    FailsAt ([literal].find? isUntyped) (ofNode key (.number literal)) := by
  rw [ofNode]
  simp only [assemble, leafType]
  cases htype : numberType? literal.toList with
  | some type =>
    rw [List.find?_cons_of_neg (by simp [isUntyped, htype])]
    exact .none _
  | none =>
    rw [List.find?_cons_of_pos (by simp [isUntyped, htype])]
    exact .some literal

mutual

/-- Reading a tree fails at the first literal without a type, and only there. -/
theorem ofNode_failsAt (key : Option String) :
    ∀ v : Value, FailsAt (v.literals.find? isUntyped) (ofNode key v)
  | .null => by rw [ofNode]; exact .none _
  | .bool b => by rw [ofNode]; exact .none _
  | .string text => by rw [ofNode]; exact .none _
  | .number literal => ofNode_number_failsAt key literal
  | .array items => by
    have h := ofItems_failsAt items
    rw [ofNode, Value.literals_array]
    generalize (items.flatMap Value.literals).find? isUntyped = fault at h
    generalize ofItems items = parts at h
    cases h with
    | none children => exact .none _
    | some literal => exact .some literal
  | .object members => by
    have h := ofMembers_failsAt members
    rw [ofNode, Value.literals_object]
    generalize (members.flatMap fun m => m.2.literals).find? isUntyped = fault at h
    generalize ofMembers members = parts at h
    cases h with
    | none children => exact .none _
    | some literal => exact .some literal

theorem ofItems_failsAt :
    ∀ items : List Value,
      FailsAt ((items.flatMap Value.literals).find? isUntyped) (ofItems items)
  | [] => by rw [ofItems]; exact .none _
  | v :: rest => by
    have hv := ofNode_failsAt none v
    have hrest := ofItems_failsAt rest
    rw [ofItems, List.flatMap_cons, List.find?_append]
    generalize v.literals.find? isUntyped = fault at hv
    generalize ofNode none v = first at hv
    generalize (rest.flatMap Value.literals).find? isUntyped = fault' at hrest
    generalize ofItems rest = others at hrest
    cases hv with
    | some literal => exact .some literal
    | none p =>
      cases hrest with
      | none ps => exact .none _
      | some literal => exact .some literal

theorem ofMembers_failsAt :
    ∀ members : List (String × Value),
      FailsAt ((members.flatMap fun m => m.2.literals).find? isUntyped) (ofMembers members)
  | [] => by rw [ofMembers]; exact .none _
  | (key, v) :: rest => by
    have hv := ofNode_failsAt (some key) v
    have hrest := ofMembers_failsAt rest
    rw [ofMembers, List.flatMap_cons, List.find?_append]
    generalize v.literals.find? isUntyped = fault at hv
    generalize ofNode (some key) v = first at hv
    generalize (rest.flatMap fun m => m.2.literals).find? isUntyped = fault' at hrest
    generalize ofMembers rest = others at hrest
    cases hv with
    | some literal => exact .some literal
    | none p =>
      cases hrest with
      | none ps => exact .none _
      | some literal => exact .some literal

end

/-- A document has a tree, or a number without a type. -/
theorem root_cases (document : Value) :
    (∃ literal ∈ document.literals, isUntyped literal = true ∧
        root document = .error (.unsupportedNumber literal)) ∨
      ((∀ literal ∈ document.literals, isUntyped literal = false) ∧
        ∃ p, root document = .ok p) := by
  have h := ofNode_failsAt none document
  cases hfind : document.literals.find? isUntyped with
  | some literal =>
    refine .inl ⟨literal, List.mem_of_find?_eq_some hfind, List.find?_some hfind, ?_⟩
    rw [hfind] at h
    rw [root]
    generalize ofNode none document = tree at h
    cases h
    rfl
  | none =>
    refine .inr ⟨?_, ?_⟩
    · intro literal hliteral
      rw [List.find?_eq_none] at hfind
      simpa using hfind literal hliteral
    · rw [hfind] at h
      rw [root]
      generalize ofNode none document = tree at h
      cases h with
      | none p => exact ⟨p, rfl⟩

end Property

/-! ## Roots without objects -/

/-- Whether a value is an array without elements. -/
def Json.Value.isEmptyArray : Value → Bool
  | .array [] => true
  | _ => false

/-- Whether a document is an object, or an array of objects and `null` that holds an object. -/
def Json.Value.holdsObjects : Value → Bool
  | .object _ => true
  | .array items => items.all (fun v => v.isNull || v.isObject) && items.any (·.isObject)
  | _ => false

/-- The elements of a root array are objects, `null` aside, or one of them is named as the
    fault. -/
theorem elementObjects_cases (ps : List Property) :
    ((∀ p ∈ present ps, p.node.isObject = true) ∧ elementObjects ps = .ok (present ps)) ∨
      ∃ p ∈ present ps, p.node.isObject = false ∧
        elementObjects ps = .error (.unsupportedRoot p.node.kind) := by
  induction ps with
  | nil => exact .inl ⟨by simp [present], rfl⟩
  | cons p rest ih =>
    rw [elementObjects]
    cases hnull : p.isNull with
    | true =>
      have hpresent : present (p :: rest) = present rest := by
        rw [present, List.filter_cons_of_neg (by simp [hnull]), present]
      rw [if_pos rfl, hpresent]
      exact ih
    | false =>
      have hpresent : present (p :: rest) = p :: present rest := by
        rw [present, List.filter_cons_of_pos (by simp [hnull]), present]
      rw [if_neg Bool.false_ne_true, hpresent]
      cases hobject : p.node.isObject with
      | false =>
        rw [if_neg Bool.false_ne_true]
        exact .inr ⟨p, List.mem_cons_self, hobject, rfl⟩
      | true =>
        rw [if_pos rfl]
        rcases ih with ⟨hall, hrest⟩ | ⟨q, hq, hqobject, hrest⟩
        · rw [hrest]
          exact .inl ⟨List.forall_mem_cons.2 ⟨hobject, hall⟩, rfl⟩
        · rw [hrest]
          exact .inr ⟨q, List.mem_cons_of_mem _ hq, hqobject, rfl⟩

theorem rootObjects_of_object {root : Property} (h : root.node.isObject = true) :
    rootObjects root = .ok [root] := by
  rw [rootObjects, if_pos h]

/-- The objects of a root array are its elements that are not `null`. There must be one, and
    nothing else. -/
theorem rootObjects_array_iff {root : Property} {objects : List Property}
    (harray : root.node.isArray = true) :
    rootObjects root = .ok objects ↔
      objects = present root.children ∧ objects ≠ [] ∧ ∀ p ∈ objects, p.node.isObject = true := by
  have hobject : root.node.isObject = false := by
    obtain ⟨items, hnode⟩ := Value.isArray_iff.1 harray
    rw [hnode]
    rfl
  rw [rootObjects, if_neg (by simp [hobject]), if_neg (by simp [harray])]
  by_cases hempty : root.children.isEmpty = true
  · rw [if_pos hempty, List.isEmpty_iff.1 hempty]
    constructor
    · intro h; cases h
    · rintro ⟨rfl, hne, -⟩; exact absurd rfl hne
  · rw [if_neg hempty]
    rcases elementObjects_cases root.children with ⟨hall, heq⟩ | ⟨p, hp, hpobject, heq⟩
    · rw [heq]
      cases hpresent : present root.children with
      | nil =>
        constructor
        · intro h; cases h
        · rintro ⟨rfl, hne, -⟩; exact absurd rfl hne
      | cons p rest =>
        rw [hpresent] at hall
        constructor
        · intro h; cases h; exact ⟨rfl, List.cons_ne_nil _ _, hall⟩
        · rintro ⟨rfl, -, -⟩; rfl
    · rw [heq]
      constructor
      · intro h; cases h
      · rintro ⟨rfl, -, hobjects⟩
        rw [hobjects p hp] at hpobject
        cases hpobject

theorem holdsObjects_array_iff {root : Property} {items : List Value} (h : root.Annotates)
    (hnode : root.node = .array items) :
    (Value.array items).holdsObjects = true ↔
      present root.children ≠ [] ∧ ∀ p ∈ present root.children, p.node.isObject = true := by
  have hitems : items = root.children.map (·.node) := h.items_eq hnode
  simp only [Value.holdsObjects, hitems, List.all_map, List.any_map, Bool.and_eq_true,
    List.all_eq_true, List.any_eq_true, Function.comp_apply, Bool.or_eq_true]
  constructor
  · rintro ⟨hall, p, hp, hobject⟩
    have hnull : p.isNull = false := by
      obtain ⟨members, hnode⟩ := Value.isObject_iff.1 hobject
      rw [Property.isNull, hnode]
      rfl
    refine ⟨List.ne_nil_of_mem (mem_present.2 ⟨hp, hnull⟩), ?_⟩
    intro q hq
    obtain ⟨hq, hqnull⟩ := mem_present.1 hq
    rcases hall q hq with h | h
    · rw [Property.isNull, h] at hqnull; cases hqnull
    · exact h
  · rintro ⟨hne, hall⟩
    obtain ⟨p, hp⟩ := List.exists_mem_of_ne_nil _ hne
    refine ⟨?_, p, (mem_present.1 hp).1, hall p hp⟩
    intro q hq
    cases hnull : q.isNull with
    | true => exact .inl hnull
    | false => exact .inr (hall q (mem_present.2 ⟨hq, hnull⟩))

/-- A document without objects at its root is named as such, an empty array apart. -/
theorem rootObjects_cases {root : Property} (h : root.Annotates) :
    (root.node.isEmptyArray = true ∧ rootObjects root = .error .emptyRootArray) ∨
      root.node.isEmptyArray = false ∧
        ((root.node.holdsObjects = false ∧
            ∃ found, rootObjects root = .error (.unsupportedRoot found)) ∨
          (root.node.holdsObjects = true ∧ ∃ objects, rootObjects root = .ok objects)) := by
  rcases hnode : root.node with _ | b | literal | text | items | members
  case object =>
    exact .inr ⟨rfl, .inr ⟨rfl, [root], rootObjects_of_object (by rw [hnode]; rfl)⟩⟩
  case array =>
    have harray : root.node.isArray = true := by rw [hnode]; rfl
    have hobject : ¬root.node.isObject = true := by rw [hnode]; exact Bool.false_ne_true
    have hitems := h.items_eq hnode
    have hholds := holdsObjects_array_iff h hnode
    cases hchildren : root.children with
    | nil =>
      rw [hchildren] at hitems
      subst hitems
      refine .inl ⟨rfl, ?_⟩
      rw [rootObjects, if_neg hobject, harray, hchildren]
      rfl
    | cons first rest =>
      have hne : (Value.array items).isEmptyArray = false := by
        rw [hitems, hchildren]
        rfl
      refine .inr ⟨hne, ?_⟩
      rcases elementObjects_cases root.children with ⟨hall, heq⟩ | ⟨p, hp, hpobject, heq⟩
      · by_cases hpresent : present root.children = []
        · refine .inl ⟨?_, "an array of nulls", ?_⟩
          · rw [← Bool.not_eq_true, hholds]
            exact fun hboth => hboth.1 hpresent
          · rw [rootObjects, if_neg hobject, harray, heq, hpresent, hchildren]
            rfl
        · exact .inr ⟨hholds.2 ⟨hpresent, hall⟩, present root.children,
            (rootObjects_array_iff harray).2 ⟨rfl, hpresent, hall⟩⟩
      · refine .inl ⟨?_, p.node.kind, ?_⟩
        · rw [← Bool.not_eq_true, hholds]
          intro hboth
          rw [hboth.2 p hp] at hpobject
          cases hpobject
        · rw [rootObjects, if_neg hobject, harray, heq, hchildren]
          rfl
  all_goals
    refine .inr ⟨rfl, .inl ⟨rfl, root.node.kind, ?_⟩⟩
    rw [rootObjects, hnode]
    rfl

/-! ## Objects that do not merge -/

/-- Whether a failure is that of objects with different keys. -/
def Error.IsIncompatible (e : Error) : Prop :=
  ∃ path expected found, e = .incompatibleShapes path expected found

theorem mergedKeys_error {path : String} {objects : List Property} {e : Error}
    (h : mergedKeys path objects = .error e) : e.IsIncompatible := by
  obtain ⟨first, before, q, after, -, -, -, rfl⟩ := mergedKeys_eq_error.1 h
  exact ⟨_, _, _, rfl⟩

/-- Nothing but different keys keeps the values of a slot from being merged. -/
theorem Shape.ofValues_error {path : String} {values : List Property} {e : Error}
    (hall : ∀ p ∈ values, p.Annotates) (h : ofValues path values = .error e) :
    e.IsIncompatible := by
  obtain ⟨slotPath, slot, -, -, hkeys⟩ := exists_below_of_ofValues_fails hall h
  exact mergedKeys_error hkeys

theorem rootMembers_of_objects {root : Property} {objects : List Property}
    (hroot : root.Annotates) (h : rootObjects root = .ok objects) :
    (∃ e, rootMembers root = .error e ∧ e.IsIncompatible) ∨
      ∃ slots, rootMembers root = .ok slots := by
  cases hmembers : rootMembers root with
  | ok slots => exact .inr ⟨slots, rfl⟩
  | error e =>
    refine .inl ⟨e, rfl, ?_⟩
    obtain ⟨-, hall, -⟩ := rootObjects_ok hroot h
    have hparts := forall_parts Property.Annotates.children hall
    unfold rootMembers at hmembers
    rw [h] at hmembers
    simp only at hmembers
    split at hmembers
    · next hkeys => cases hmembers; exact mergedKeys_error hkeys
    · next keys hkeys =>
      obtain ⟨key, hcolumn⟩ := Shape.ofKeys_error hmembers
      exact Shape.ofValues_error (forall_column hparts) hcolumn

end SampleTypes
