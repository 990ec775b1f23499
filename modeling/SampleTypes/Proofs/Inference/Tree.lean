import Mathlib
import SampleTypes.Inference.Property

set_option autoImplicit false

/-! # Trees that annotate their values

A `Property` may claim anything about its value. Proofs about inference speak of the trees that
`ofNode` builds: there the type of every value is the one it calls for, and the parts of a tree
are the trees of the parts of its value. -/

namespace SampleTypes

open Json (Value)

/-! ## Kinds of values -/

theorem Json.Value.isNull_iff {v : Value} : v.isNull = true ↔ v = .null := by
  cases v <;> simp [Value.isNull]

theorem Json.Value.isArray_iff {v : Value} : v.isArray = true ↔ ∃ items, v = .array items := by
  cases v <;> simp [Value.isArray]

theorem Json.Value.isObject_iff {v : Value} :
    v.isObject = true ↔ ∃ members, v = .object members := by
  cases v <;> simp [Value.isObject]

/-- Whether a value is a boolean, a number or a string. -/
def Json.Value.isScalar : Value → Bool
  | .bool _ | .number _ | .string _ => true
  | _ => false

/-- Whether a type is that of a scalar. -/
def ValueType.isScalar : ValueType → Bool
  | .object | .arrayOf _ | .mixedArray => false
  | _ => true

theorem integerType?_isScalar {n : Int} {type : ValueType} (h : integerType? n = some type) :
    type.isScalar = true := by
  unfold integerType? at h
  split_ifs at h <;> cases h <;> rfl

theorem fractionalType?_isScalar {d : Decimal} {type : ValueType}
    (h : fractionalType? d = some type) : type.isScalar = true := by
  unfold fractionalType? at h
  split_ifs at h <;> cases h <;> rfl

theorem numberType?_isScalar {literal : List Char} {type : ValueType}
    (h : numberType? literal = some type) : type.isScalar = true := by
  simp only [numberType?] at h
  split at h
  · next integer hinteger =>
    cases h
    split at hinteger
    · obtain ⟨n, -, hn⟩ := Option.bind_eq_some_iff.1 hinteger
      exact integerType?_isScalar hn
    · cases hinteger
  · obtain ⟨d, -, hd⟩ := Option.bind_eq_some_iff.1 h
    exact fractionalType?_isScalar hd

theorem textType_isScalar (s : List Char) : (textType s).isScalar = true := by
  unfold textType
  split_ifs <;> rfl

/-- Scalars have the types of scalars, and they alone do. -/
theorem leafType_isScalar {v : Value} {type : ValueType} (h : leafType v = .ok type) :
    type.isScalar = v.isScalar := by
  cases v with
  | null => cases h; rfl
  | bool b => cases h; rfl
  | string text => cases h; exact textType_isScalar _
  | array items => cases h; rfl
  | object members => cases h; rfl
  | number literal =>
    simp only [leafType] at h
    split at h
    · next t ht => cases h; exact numberType?_isScalar ht
    · cases h

theorem Json.Value.isScalar_eq_false_iff {v : Value} :
    v.isScalar = false ↔ v.isNull = true ∨ v.isArray = true ∨ v.isObject = true := by
  cases v <;> simp [Value.isScalar, Value.isNull, Value.isArray, Value.isObject]

/-! ## Annotated values -/

namespace Property

/-- A tree annotates its value when it is the tree of that value under its key. -/
def Annotates (p : Property) : Prop :=
  ofNode p.key p.node = .ok p

theorem assemble_ok {key : Option String} {node : Value} {children : List Property}
    {p : Property} (h : assemble key node children = .ok p) :
    p.key = key ∧ p.node = node ∧ p.children = children := by
  unfold assemble at h
  split at h
  · cases h; exact ⟨rfl, rfl, rfl⟩
  · split at h <;> cases h
    exact ⟨rfl, rfl, rfl⟩

theorem ofNode_ok {key : Option String} {node : Value} {p : Property}
    (h : ofNode key node = .ok p) : p.key = key ∧ p.node = node := by
  cases node
  case array items =>
    rw [ofNode] at h
    split at h
    · exact ⟨(assemble_ok h).1, (assemble_ok h).2.1⟩
    · cases h
  case object members =>
    rw [ofNode] at h
    split at h
    · exact ⟨(assemble_ok h).1, (assemble_ok h).2.1⟩
    · cases h
  all_goals
    rw [ofNode] at h
    exact ⟨(assemble_ok h).1, (assemble_ok h).2.1⟩

theorem annotates_of_ofNode {key : Option String} {node : Value} {p : Property}
    (h : ofNode key node = .ok p) : p.Annotates := by
  obtain ⟨hkey, hnode⟩ := ofNode_ok h
  rw [Annotates, hkey, hnode, h]

/-- The parts of an annotated array are its elements, each annotated, in their order. -/
theorem ofItems_ok {items : List Value} {ps : List Property} (h : ofItems items = .ok ps) :
    ps.map (·.node) = items ∧ ∀ p ∈ ps, p.Annotates := by
  induction items generalizing ps with
  | nil => rw [ofItems] at h; cases h; simp
  | cons v rest ih =>
    rw [ofItems] at h
    split at h
    · cases h
    · next p hp =>
      split at h
      · next qs hqs =>
        cases h
        obtain ⟨hnodes, hall⟩ := ih hqs
        refine ⟨by rw [List.map_cons, hnodes, (ofNode_ok hp).2], ?_⟩
        intro q hq
        rcases List.mem_cons.1 hq with rfl | hq
        · exact annotates_of_ofNode hp
        · exact hall q hq
      · cases h

/-- The parts of an annotated object are its members, each annotated, in their order. -/
theorem ofMembers_ok {members : List (String × Value)} {ps : List Property}
    (h : ofMembers members = .ok ps) :
    ps.map (fun p => (p.key, p.node)) = members.map (fun m => (some m.1, m.2)) ∧
      ∀ p ∈ ps, p.Annotates := by
  induction members generalizing ps with
  | nil => rw [ofMembers] at h; cases h; simp
  | cons m rest ih =>
    obtain ⟨key, v⟩ := m
    rw [ofMembers] at h
    split at h
    · cases h
    · next p hp =>
      split at h
      · next qs hqs =>
        cases h
        obtain ⟨hnodes, hall⟩ := ih hqs
        refine ⟨by rw [List.map_cons, hnodes, (ofNode_ok hp).1, (ofNode_ok hp).2, List.map_cons],
          ?_⟩
        intro q hq
        rcases List.mem_cons.1 hq with rfl | hq
        · exact annotates_of_ofNode hp
        · exact hall q hq
      · cases h

namespace Annotates

variable {p : Property}

theorem ofItems_children {items : List Value} (h : p.Annotates) (hnode : p.node = .array items) :
    ofItems items = .ok p.children := by
  rw [Annotates, hnode, ofNode] at h
  split at h
  · next ps hps => rw [hps, (assemble_ok h).2.2]
  · cases h

theorem ofMembers_children {members : List (String × Value)} (h : p.Annotates)
    (hnode : p.node = .object members) : ofMembers members = .ok p.children := by
  rw [Annotates, hnode, ofNode] at h
  split at h
  · next ps hps => rw [hps, (assemble_ok h).2.2]
  · cases h

/-- The elements of an annotated array are the values of its parts. -/
theorem items_eq {items : List Value} (h : p.Annotates) (hnode : p.node = .array items) :
    items = p.children.map (·.node) :=
  (ofItems_ok (h.ofItems_children hnode)).1.symm

/-- An annotated array holds a `null` if one of its parts is `null`. -/
theorem isNullable_eq (h : p.Annotates) (harray : p.node.isArray = true) :
    p.isNullable = p.children.any (·.isNull) := by
  obtain ⟨items, hnode⟩ := Value.isArray_iff.1 harray
  have hitems := h.items_eq hnode
  rw [isNullable, hnode, Value.isNullable, hitems, List.any_map]
  rfl

/-- The parts of an annotated tree are annotated. -/
theorem children (h : p.Annotates) : ∀ c ∈ p.children, c.Annotates := by
  intro c hc
  rcases hnode : p.node with _ | b | literal | text | items | members
  case array => exact (ofItems_ok (h.ofItems_children hnode)).2 c hc
  case object => exact (ofMembers_ok (h.ofMembers_children hnode)).2 c hc
  all_goals
    rw [Annotates, hnode, ofNode] at h
    rw [(assemble_ok h).2.2] at hc
    cases hc

/-- A member of an annotated object stands among its parts under its key. -/
theorem exists_child {members : List (String × Value)} (h : p.Annotates)
    (hnode : p.node = .object members) {key : String} {v : Value} (hm : (key, v) ∈ members) :
    ∃ c ∈ p.children, c.key = some key ∧ c.node = v := by
  have hmap := (ofMembers_ok (h.ofMembers_children hnode)).1
  have hmem : (some key, v) ∈ p.children.map fun c => (c.key, c.node) := by
    rw [hmap]
    exact List.mem_map_of_mem (f := fun m : String × Value => (some m.1, m.2)) hm
  obtain ⟨c, hc, heq⟩ := List.mem_map.1 hmem
  rw [Prod.mk.injEq] at heq
  exact ⟨c, hc, heq.1, heq.2⟩

/-- A part of an annotated object stands for one of its members. -/
theorem exists_member {members : List (String × Value)} (h : p.Annotates)
    (hnode : p.node = .object members) {c : Property} (hc : c ∈ p.children) :
    ∃ m ∈ members, c.key = some m.1 ∧ c.node = m.2 := by
  have hmap := (ofMembers_ok (h.ofMembers_children hnode)).1
  have hmem : (c.key, c.node) ∈ members.map fun m => (some m.1, m.2) := by
    rw [← hmap]
    exact List.mem_map_of_mem (f := fun c : Property => (c.key, c.node)) hc
  obtain ⟨m, hm, heq⟩ := List.mem_map.1 hmem
  rw [Prod.mk.injEq] at heq
  exact ⟨m, hm, heq.1.symm, heq.2.symm⟩

/-- The keys of an annotated object are those of its value. -/
theorem keys_eq {members : List (String × Value)} (h : p.Annotates)
    (hnode : p.node = .object members) : p.keys = (members.map (·.1)).eraseDups := by
  have hmap := congrArg (List.filterMap Prod.fst)
    (ofMembers_ok (h.ofMembers_children hnode)).1
  rw [List.filterMap_map, List.filterMap_map] at hmap
  have hkeys : p.children.filterMap (·.key) = members.map (·.1) := by
    rw [← List.filterMap_eq_map]
    exact hmap
  rw [keys, hkeys]

theorem mem_keys {members : List (String × Value)} (h : p.Annotates)
    (hnode : p.node = .object members) {key : String} :
    key ∈ p.keys ↔ key ∈ members.map (·.1) := by
  rw [h.keys_eq hnode, List.mem_eraseDups]

/-- What is no array has its type of its own. -/
theorem leafType_eq (h : p.Annotates) (harray : p.node.isArray = false) :
    leafType p.node = .ok p.type := by
  have hassemble : assemble p.key p.node p.children = .ok p := by
    rcases hnode : p.node with _ | b | literal | text | items | members
    case array => rw [hnode] at harray; cases harray
    case object =>
      have hparts := h.ofMembers_children hnode
      rw [Annotates, hnode, ofNode, hparts] at h
      exact h
    all_goals
      rw [Annotates, hnode, ofNode] at h
      rw [(assemble_ok h).2.2]
      exact h
  unfold assemble at hassemble
  split at hassemble
  · next hnode => rw [hnode] at harray; cases harray
  · split at hassemble
    · next type htype =>
      have htype' : type = p.type := congrArg Property.type (Except.ok.inj hassemble)
      rw [htype, htype']
    · cases hassemble

/-- Arrays have the types of arrays, and they alone do. -/
theorem type_isArray (h : p.Annotates) : p.type.isArray = p.node.isArray := by
  cases harray : p.node.isArray with
  | true =>
    obtain ⟨items, hnode⟩ := Value.isArray_iff.1 harray
    have hparts := h.ofItems_children hnode
    rw [Annotates, hnode, ofNode, hparts] at h
    have htype := congrArg Property.type (Except.ok.inj h)
    rw [← htype]
    simp only [ValueType.ofElements]
    split <;> rfl
  | false =>
    have hleaf := h.leafType_eq harray
    have hscalar := leafType_isScalar hleaf
    rcases hnode : p.node with _ | b | literal | text | items | members <;>
      rw [hnode] at hleaf hscalar harray
    case array => cases harray
    case null => rw [← Except.ok.inj hleaf]; rfl
    case object => rw [← Except.ok.inj hleaf]; rfl
    all_goals
      cases htype : p.type <;> rw [htype] at hscalar <;> first | rfl | cases hscalar

end Annotates

theorem root_annotates {document : Value} {p : Property} (h : root document = .ok p) :
    p.Annotates ∧ p.node = document :=
  ⟨annotates_of_ofNode h, (ofNode_ok h).2⟩

end Property

end SampleTypes
