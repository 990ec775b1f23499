import SampleTypes.Proofs.Declaration.Scalars
import SampleTypes.Proofs.Inference.Clashes
import SampleTypes.Proofs.Inference.Faults

set_option autoImplicit false

/-! # The element that is named as the fault

Where the objects of a root array do not merge, the first one whose keys differ is named by a place
in the array. The place is counted among the elements that are not `null`: it is the index of the
element only if no `null` stands in front of it. -/

namespace SampleTypes

open Json (Value)

variable {values : List Property} {path : String}

/-! ## Paths -/

/-- The path to a root array's element, by its place. -/
def elementPath (place : Nat) : String :=
  "$[" ++ toString place ++ "]"

theorem elementPath_injective {m n : Nat} (h : elementPath m = elementPath n) : m = n := by
  rw [elementPath, elementPath, String.append_left_inj, String.append_right_inj] at h
  exact Nat.repr_injective h

/-- A path below a member of the root is not one to an element. -/
theorem member_ne_elementPath (rest : String) (place : Nat) :
    rootPath ++ "." ++ rest ≠ elementPath place := by
  intro h
  have hletters := congrArg String.toList h
  simp [rootPath, elementPath] at hletters

/-- Whatever goes wrong in a slot, it does at the slot's path or below. -/
theorem Shape.ofValues_error_path {e : Error} (hall : ∀ p ∈ values, p.Annotates)
    (h : ofValues path values = .error e) :
    ∃ rest expected found, e = .incompatibleShapes (path ++ rest) expected found := by
  obtain ⟨slotPath, slot, hbelow, -, hkeys⟩ := exists_below_of_ofValues_fails hall h
  obtain ⟨rest, rfl⟩ := hbelow.exists_rest
  obtain ⟨first, before, q, after, -, -, -, rfl⟩ := mergedKeys_eq_error.1 hkeys
  exact ⟨rest ++ ("[" ++ (toString (1 + before.length) ++ "]")), first.keys, q.keys,
    by simp only [String.append_assoc]⟩

/-! ## Roots -/

/-- What goes wrong at an element is that the objects of the root do not merge. -/
theorem mergedKeys_of_rootMembers {root : Property} (hroot : root.Annotates) {place : Nat}
    {expected found : List String}
    (h : rootMembers root = .error (.incompatibleShapes (elementPath place) expected found)) :
    ∃ objects, rootObjects root = .ok objects ∧
      mergedKeys rootPath objects
        = .error (.incompatibleShapes (elementPath place) expected found) := by
  unfold rootMembers at h
  split at h
  · rename_i e hobjects
    obtain rfl := Except.error.inj h
    rcases rootObjects_cases hroot with ⟨-, hof⟩ | ⟨-, ⟨-, _, hof⟩ | ⟨-, _, hof⟩⟩ <;>
      exact absurd (hobjects.symm.trans hof) (by simp)
  · rename_i objects hobjects
    split at h
    · rename_i e hkeys
      obtain rfl := Except.error.inj h
      exact ⟨objects, hobjects, hkeys⟩
    · obtain ⟨-, hall, -⟩ := rootObjects_ok hroot hobjects
      have hparts := forall_parts Property.Annotates.children hall
      obtain ⟨key, hcolumn⟩ := Shape.ofKeys_error h
      obtain ⟨rest, _, _, he⟩ := Shape.ofValues_error_path (forall_column hparts) hcolumn
      obtain ⟨hpath, -, -⟩ := Error.incompatibleShapes.inj he
      rw [String.append_assoc] at hpath
      exact absurd hpath.symm (member_ne_elementPath (key ++ rest) place)

/-- Values that are `null` aside make a list of a given form are such a list, with `null`s
    between. -/
theorem present_eq_append_cons {before after : List Property} {q : Property}
    (h : present values = before ++ q :: after) :
    ∃ front back, values = front ++ q :: back ∧ present front = before := by
  obtain ⟨front, rest, rfl, hfront, hrest⟩ := List.filter_eq_append_iff.1 h
  obtain ⟨nulls, back, rfl, hnulls, -, -⟩ := List.filter_eq_cons_iff.1 hrest
  refine ⟨front ++ nulls, back, by simp, ?_⟩
  have hnone : present nulls = [] := List.filter_eq_nil_iff.2 hnulls
  rw [present, List.filter_append, ← present, ← present, hnone, List.append_nil]
  exact hfront

/-! ## Elements -/

/-- The keys of an object, each of them once, in their order. -/
def Json.Value.keys : Value → List String
  | .object members => (members.map (·.1)).eraseDups
  | _ => []

theorem Property.Annotates.keys_node {p : Property} (h : p.Annotates)
    (hobject : p.node.isObject = true) : p.keys = p.node.keys := by
  obtain ⟨members, hnode⟩ := Value.isObject_iff.1 hobject
  rw [h.keys_eq hnode, hnode, Value.keys]

/-- An element is the first one to differ: an object whose keys are not those expected, while the
    elements before it are objects with the keys expected, and `null`. Expected are the keys of the
    first object. -/
structure FirstToDiffer (before : List Value) (v : Value) (expected : List String) : Prop where
  isObject : v.isObject = true
  differs : ¬ ∀ key, key ∈ v.keys ↔ key ∈ expected
  first : ∃ nulls w rest, before = nulls ++ w :: rest ∧ (∀ u ∈ nulls, u.isNull = true) ∧
    w.isObject = true ∧ w.keys = expected
  agree : ∀ w ∈ before, w.isNull = true ∨
    w.isObject = true ∧ ∀ key, key ∈ w.keys ↔ key ∈ expected

namespace FirstToDiffer

variable {before after : List Value} {v : Value} {expected : List String}

/-- No element in front of it is an object with its keys. -/
theorem not_mem (h : FirstToDiffer before v expected) {w : Value} (hw : w ∈ before)
    (hobject : w.isObject = true) : w.keys ≠ v.keys := by
  intro hkeys
  rcases h.agree w hw with hnull | ⟨-, hsame⟩
  · rw [Value.isNull_iff.1 hnull] at hobject
    exact absurd hobject (by simp [Value.isObject])
  · rw [hkeys] at hsame
    exact h.differs hsame

/-- Counted among the elements that are not `null`, it has the place of its index if there is no
    `null` in front of it, and else that of an element in front of it. -/
theorem getElem?_iff (h : FirstToDiffer before v expected) :
    (∃ w, (before ++ v :: after)[(before.filter fun w => !w.isNull).length]? = some w ∧
        w.isObject = true ∧ w.keys = v.keys) ↔ ∀ w ∈ before, w.isNull = false := by
  constructor
  · rintro ⟨w, hw, hobject, hkeys⟩
    by_contra hnull
    have hlt : (before.filter fun w => !w.isNull).length < before.length := by
      rw [List.length_filter_lt_length_iff_exists]
      simpa using hnull
    rw [List.getElem?_append_left hlt] at hw
    exact h.not_mem (List.mem_of_getElem? hw) hobject hkeys
  · intro hnone
    have hall : (before.filter fun w => !w.isNull) = before := by
      rw [List.filter_eq_self]
      intro w hw
      rw [hnone w hw]
      rfl
    rw [hall]
    exact ⟨v, by simp, h.isObject, rfl⟩

end FirstToDiffer

/-- A value among trees that merge until one differs: the trees in front of it are objects with the
    keys of the first one, and `null`. -/
theorem firstToDiffer_of_present {front between : List Property} {first q : Property}
    (hall : ∀ p ∈ q :: front, p.Annotates) (hfront : present front = first :: between)
    (hobjects : ∀ p ∈ q :: present front, p.node.isObject = true)
    (hbetween : ∀ p ∈ between, p.SameKeys first) (hq : ¬ q.SameKeys first) :
    FirstToDiffer (front.map (·.node)) q.node first.keys := by
  obtain ⟨hqall, hall⟩ := List.forall_mem_cons.1 hall
  obtain ⟨hqobject, hobjects⟩ := List.forall_mem_cons.1 hobjects
  have hmem : ∀ p ∈ present front, p.node.isObject = true ∧ p.keys = p.node.keys := by
    intro p hp
    exact ⟨hobjects p hp, (hall p (mem_present.1 hp).1).keys_node (hobjects p hp)⟩
  refine ⟨hqobject, ?_, ?_, ?_⟩
  · rw [← hqall.keys_node hqobject]
    exact hq
  · obtain ⟨nulls, rest, rfl, hnulls, -, -⟩ := List.filter_eq_cons_iff.1 hfront
    obtain ⟨hobject, hkeys⟩ := hmem first (by rw [hfront]; exact List.mem_cons_self)
    refine ⟨nulls.map (·.node), first.node, rest.map (·.node), by simp, ?_, hobject, hkeys.symm⟩
    intro u hu
    obtain ⟨p, hp, rfl⟩ := List.mem_map.1 hu
    simpa [Property.isNull] using hnulls p hp
  · intro w hw
    obtain ⟨p, hp, rfl⟩ := List.mem_map.1 hw
    by_cases hnull : p.isNull = true
    · exact .inl hnull
    · have hpresent : p ∈ present front := mem_present.2 ⟨hp, by simpa using hnull⟩
      obtain ⟨hobject, hkeys⟩ := hmem p hpresent
      refine .inr ⟨hobject, ?_⟩
      rw [← hkeys]
      rw [hfront] at hpresent
      rcases List.mem_cons.1 hpresent with rfl | hp
      · exact fun key => Iff.rfl
      · exact hbetween p hp

/-- The objects of a root array that do not merge have a first one to differ. -/
theorem exists_firstToDiffer {root : Property} {items : List Value} (hroot : root.Annotates)
    (hnode : root.node = .array items) {objects : List Property}
    (hobjects : rootObjects root = .ok objects) {place : Nat} {expected found : List String}
    (h : mergedKeys rootPath objects
      = .error (.incompatibleShapes (elementPath place) expected found)) :
    ∃ before v after, items = before ++ v :: after ∧ FirstToDiffer before v expected ∧
      v.keys = found ∧ place = (before.filter fun w => !w.isNull).length := by
  obtain ⟨rfl, -, hobjects⟩ := (rootObjects_array_iff (by rw [hnode]; rfl)).1 hobjects
  obtain ⟨first, between, q, after, hpresent, hbetween, hq, he⟩ := mergedKeys_eq_error.1 h
  obtain ⟨hplace, rfl, rfl⟩ := Error.incompatibleShapes.inj he
  obtain rfl := elementPath_injective hplace
  rw [← List.cons_append] at hpresent
  obtain ⟨front, back, hchildren, hfront⟩ := present_eq_append_cons hpresent
  have hall : ∀ p ∈ q :: front, p.Annotates := by
    intro p hp
    refine hroot.children p ?_
    rw [hchildren, List.mem_append, List.mem_cons]
    rcases List.mem_cons.1 hp with rfl | hp
    · exact .inr (.inl rfl)
    · exact .inl hp
  have hobjects : ∀ p ∈ q :: present front, p.node.isObject = true := by
    intro p hp
    refine hobjects p ?_
    rw [hpresent, ← hfront, List.mem_append, List.mem_cons]
    rcases List.mem_cons.1 hp with rfl | hp
    · exact .inr (.inl rfl)
    · exact .inl hp
  refine ⟨front.map (·.node), q.node, back.map (·.node), ?_,
    firstToDiffer_of_present hall hfront hobjects hbetween hq, ?_, ?_⟩
  · rw [hroot.items_eq hnode, hchildren, List.map_append, List.map_cons]
  · exact ((hall q List.mem_cons_self).keys_node (hobjects q List.mem_cons_self)).symm
  · have hcount := congrArg List.length hfront
    rw [List.filter_map, List.length_map, Nat.add_comm]
    exact hcount.symm

/-! ## Documents -/

/-- Where a root array fails at a place, the first object to differ is meant, and both lists of
    keys are right. The place is that of an object with its keys if and only if no `null` stands in
    front of it. -/
theorem incompatible_at_place {rootName : String} {language : Language} {items : List Value}
    {place : Nat} {expected found : List String}
    (h : declarationsFor rootName language (.array items)
      = .error (.incompatibleShapes (elementPath place) expected found)) :
    ∃ before v after, items = before ++ v :: after ∧ FirstToDiffer before v expected ∧
      v.keys = found ∧ place = (before.filter fun w => !w.isNull).length ∧
      ((∃ w, items[place]? = some w ∧ w.isObject = true ∧ w.keys = found) ↔
        ∀ w ∈ before, w.isNull = false) := by
  rcases Property.root_cases (.array items) with ⟨literal, -, -, hroot⟩ | ⟨-, root, hroot⟩
  · simp [declarationsFor, hroot] at h
  · obtain ⟨hannotates, hnode⟩ := Property.root_annotates hroot
    rw [declarationsFor_of_root hroot, map_eq_error] at h
    obtain ⟨objects, hobjects, hkeys⟩ := mergedKeys_of_rootMembers hannotates h
    obtain ⟨before, v, after, rfl, hfirst, rfl, rfl⟩ :=
      exists_firstToDiffer hannotates hnode hobjects hkeys
    exact ⟨before, v, after, rfl, hfirst, rfl, rfl, hfirst.getElem?_iff⟩

/-- Two objects that differ, and a `null` behind them. -/
def nullBehind : List Value :=
  [.object [("a", .number "1")], .object [("b", .number "2")], .null]

theorem nullBehind_at_place :
    declarationsFor "Root" .csharp (.array nullBehind)
      = .error (.incompatibleShapes (elementPath 1) ["a"] ["b"]) ∧
    ∃ before v after, nullBehind = before ++ v :: after ∧ FirstToDiffer before v ["a"] ∧
      v.keys = ["b"] ∧ 1 = (before.filter fun w => !w.isNull).length ∧
      ((∃ w, nullBehind[1]? = some w ∧ w.isObject = true ∧ w.keys = ["b"]) ↔
        ∀ w ∈ before, w.isNull = false) := by
  have h : declarationsFor "Root" .csharp (.array nullBehind)
      = .error (.incompatibleShapes (elementPath 1) ["a"] ["b"]) := by
    cbv
  exact ⟨h, incompatible_at_place h⟩

/-- The same two objects, and a `null` in front of them. -/
def nullInFront : List Value :=
  [.null, .object [("a", .number "1")], .object [("b", .number "2")]]

/-- A place with a `null` in front of it is not the index of the object that differs. -/
theorem nullInFront_misplaced :
    declarationsFor "Root" .csharp (.array nullInFront)
      = .error (.incompatibleShapes (elementPath 1) ["a"] ["b"]) ∧
    ¬ ∃ w, nullInFront[1]? = some w ∧ w.isObject = true ∧ w.keys = ["b"] := by
  refine ⟨by cbv, ?_⟩
  rintro ⟨w, hw, -, hkeys⟩
  obtain rfl : Value.object [("a", .number "1")] = w := Option.some.inj hw
  exact absurd hkeys (by decide)

end SampleTypes
