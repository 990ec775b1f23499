import SampleTypes.Proofs.Declaration.Scalars
import SampleTypes.Proofs.Inference.Faults

set_option autoImplicit false

/-! # Rows of a root array

The rows of a root array are samples of one declaration. It does not matter in which order they
come, how often a row comes, or how many `null`s stand between them: slots are merged from the set
of their values alone. One thing is read off the first object of a slot, the order of its keys, so
objects with the same keys must not disagree about it. -/

namespace SampleTypes

open Json (Value)

/-! ## One order of keys -/

/-- Whether any two of these lists that hold the same keys are the same list. -/
def OneOrder (lists : List (List String)) : Prop :=
  ∀ first ∈ lists, ∀ second ∈ lists, first ⊆ second → second ⊆ first → first = second

instance (lists : List (List String)) : Decidable (OneOrder lists) :=
  inferInstanceAs (Decidable (∀ first ∈ lists, ∀ second ∈ lists,
    first ⊆ second → second ⊆ first → first = second))

/-- Whether objects with the same keys list them in the same order, wherever they stand. -/
def Json.Value.KeyOrdered (v : Value) : Prop :=
  OneOrder v.keyLists

/-! ## Trees whose objects have listed keys -/

namespace Property

/-- A tree whose objects have their keys as one of the lists has them. -/
def Within (lists : List (List String)) (p : Property) : Prop :=
  p.Annotates ∧ p.node.keyLists ⊆ lists

variable {lists : List (List String)} {p q : Property}

theorem Annotates.keyLists_subset (h : p.Annotates) :
    ∀ c ∈ p.children, c.node.keyLists ⊆ p.node.keyLists := by
  intro c hc
  rcases hnode : p.node with _ | b | literal | text | items | members
  case array =>
    rw [Value.keyLists_array, h.items_eq hnode]
    exact fun keys hkeys => List.mem_flatMap.2 ⟨c.node, List.mem_map_of_mem hc, hkeys⟩
  case object =>
    obtain ⟨m, hm, -, hvalue⟩ := h.exists_member hnode hc
    rw [Value.keyLists_object, hvalue]
    exact fun keys hkeys => List.mem_cons_of_mem _ (List.mem_flatMap.2 ⟨m, hm, hkeys⟩)
  all_goals
    rw [Annotates, hnode, ofNode] at h
    rw [(assemble_ok h).2.2] at hc
    cases hc

theorem Within.children (h : p.Within lists) : ∀ c ∈ p.children, c.Within lists :=
  fun c hc => ⟨h.1.children c hc, List.Subset.trans (h.1.keyLists_subset c hc) h.2⟩

/-- Where the lists agree on an order, so do two objects with the same keys. -/
theorem Within.keys_eq (horder : OneOrder lists) (hp : p.Within lists) (hq : q.Within lists)
    (hpobject : p.node.isObject = true) (hqobject : q.node.isObject = true)
    (hkeys : ∀ key, key ∈ p.keys ↔ key ∈ q.keys) : p.keys = q.keys := by
  have hlist : ∀ {r : Property}, r.Within lists → r.node.isObject = true →
      ∃ list ∈ lists, r.keys = list.eraseDups := by
    intro r hr hobject
    obtain ⟨members, hnode⟩ := Value.isObject_iff.1 hobject
    refine ⟨members.map (·.1), hr.2 ?_, hr.1.keys_eq hnode⟩
    rw [hnode, Value.keyLists_object]
    exact List.mem_cons_self
  obtain ⟨first, hfirst, hpkeys⟩ := hlist hp hpobject
  obtain ⟨second, hsecond, hqkeys⟩ := hlist hq hqobject
  simp only [hpkeys, hqkeys, List.mem_eraseDups] at hkeys
  have heq : first = second :=
    horder first hfirst second hsecond (fun key => (hkeys key).1) (fun key => (hkeys key).2)
  rw [hpkeys, hqkeys, heq]

end Property

/-! ## Slots as sets -/

/-- Whether two lists have the same members, in whatever order and however often. -/
def SameMembers (ps qs : List Property) : Prop :=
  ∀ p, p ∈ ps ↔ p ∈ qs

namespace SameMembers

variable {ps qs : List Property}

theorem mem_iff (h : SameMembers ps qs) {p : Property} : p ∈ ps ↔ p ∈ qs :=
  h p

theorem filter (h : SameMembers ps qs) (f : Property → Bool) :
    SameMembers (ps.filter f) (qs.filter f) := by
  intro p
  rw [List.mem_filter, List.mem_filter, h.mem_iff]

theorem flatMap_children (h : SameMembers ps qs) :
    SameMembers (ps.flatMap (·.children)) (qs.flatMap (·.children)) := by
  intro c
  simp only [List.mem_flatMap, h.mem_iff]

theorem any_eq (h : SameMembers ps qs) (f : Property → Bool) : ps.any f = qs.any f := by
  rw [Bool.eq_iff_iff, List.any_eq_true, List.any_eq_true]
  simp only [h.mem_iff]

theorem nil_iff (h : SameMembers ps qs) : ps = [] ↔ qs = [] := by
  simp only [List.eq_nil_iff_forall_not_mem, h.mem_iff]

end SameMembers

theorem Common.of_sameMembers {values others : List Property} (h : SameMembers values others) :
    Common.Matches SameMembers (Common.of values) (Common.of others) := by
  have hpresent : SameMembers (present values) (present others) := h.filter _
  have hevidence : SameMembers (evidence values) (evidence others) := hpresent.filter _
  refine Common.of_matches (hpresent.any_eq _) ?_ hpresent.flatMap_children hpresent
  intro type
  simp only [hevidence.mem_iff]

/-! ## Merging -/

theorem checkKeys_of_eq {path : String} {keys : List String} {index : Nat}
    {objects : List Property} (h : ∀ p ∈ objects, p.keys = keys) :
    checkKeys path keys index objects = .ok () := by
  induction objects generalizing index with
  | nil => rfl
  | cons p rest ih =>
    obtain ⟨hp, hrest⟩ := List.forall_mem_cons.1 h
    rw [checkKeys, hp, if_pos (by simp [sameKeys]), ih hrest]

/-- Where keys have one order, objects merge when they have the same keys in the same order. -/
theorem mergedKeys_iff {lists : List (List String)} (horder : OneOrder lists) {path : String}
    {objects : List Property} {keys : List String} (hne : objects ≠ [])
    (hall : ∀ p ∈ objects, p.Within lists) (hobjects : ∀ p ∈ objects, p.node.isObject = true) :
    mergedKeys path objects = .ok keys ↔ ∀ p ∈ objects, p.keys = keys := by
  cases objects with
  | nil => exact absurd rfl hne
  | cons first rest =>
    constructor
    · intro h p hp
      have hsame := (mergedKeys_ok h).2
      have hfirst : keys = first.keys := by
        rw [mergedKeys] at h
        split at h <;> cases h
        rfl
      subst hfirst
      exact (hall p hp).keys_eq horder (hall first List.mem_cons_self) (hobjects p hp)
        (hobjects first List.mem_cons_self) (hsame p hp)
    · intro h
      obtain ⟨rfl, hrest⟩ := List.forall_mem_cons.1 h
      rw [mergedKeys, checkKeys_of_eq hrest]

theorem mergedKeys_sameMembers {lists : List (List String)} (horder : OneOrder lists)
    {path : String} {objects others : List Property} {keys : List String} (hne : objects ≠ [])
    (hall : ∀ p ∈ objects, p.Within lists) (hobjects : ∀ p ∈ objects, p.node.isObject = true)
    (hsame : SameMembers objects others) (h : mergedKeys path objects = .ok keys) :
    mergedKeys path others = .ok keys := by
  rw [mergedKeys_iff horder hne hall hobjects] at h
  simp only [hsame.mem_iff] at hall hobjects h
  exact (mergedKeys_iff horder (mt hsame.nil_iff.2 hne) hall hobjects).2 h

/-- A slot comes to the same for any other list of the same values. -/
theorem Shape.ofValues_sameMembers {lists : List (List String)} (horder : OneOrder lists)
    {path : String} {values others : List Property} {slot : Shape × Bool}
    (hall : ∀ p ∈ values, p.Within lists) (hsame : SameMembers values others)
    (h : ofValues path values = .ok slot) : ofValues path others = .ok slot := by
  -- The list whose outcome is known leads; the other one follows it from slot to slot.
  induction values using slot_induction generalizing path others slot with
  | step values ihElements ihColumn =>
    have hpresent := forall_present hall
    have hparts := forall_parts Property.Within.children hpresent
    have hnull := hsame.any_eq (·.isNull)
    have hcommon := Common.of_sameMembers hsame
    generalize hp : Common.of values = c at hcommon
    generalize hq : Common.of others = d at hcommon
    cases hcommon with
    | nothing => rwa [ofValues_of_nothing hp, hnull, ← ofValues_of_nothing hq] at h
    | scalar type => rwa [ofValues_of_scalar hp, hnull, ← ofValues_of_scalar hq] at h
    | @arrays elements elements' helements =>
      obtain ⟨rfl, -⟩ := Common.eq_pooled hp
      have hitemNull : (present values).any (·.isNullable) = (present others).any (·.isNullable) :=
        (hsame.filter _).any_eq _
      rw [ofValues_of_arrays hp] at h
      obtain ⟨item, hitem, hslot⟩ := map_eq_ok.1 h
      rw [ofValues_of_arrays hq, map_eq_ok, ← hnull, ← hitemNull]
      exact ⟨item, ihElements _ hp hparts helements hitem, hslot⟩
    | @objects objects objects' hobjects =>
      obtain ⟨rfl, hne⟩ := Common.eq_present hp
      have hobject := Common.objects_of (fun p hp => (hall p hp).1) hp
      rw [ofValues_of_objects hp] at h
      split at h
      · cases h
      · next keys hkeys =>
        have hkeys' := mergedKeys_sameMembers horder hne hpresent hobject hobjects hkeys
        obtain ⟨slots, hslots, hslot⟩ := map_eq_ok.1 h
        have hslots' : ofKeys path (objects'.flatMap (·.children)) keys = .ok slots :=
          ofKeys_of_columns (fun key slot => ihColumn _ hp key (forall_column hparts)
            (hobjects.flatMap_children.filter _)) hslots
        rw [ofValues_of_objects hq, hkeys', ← hnull]
        exact map_eq_ok.2 ⟨slots, hslots', hslot⟩

/-! ## Rows -/

namespace Property

/-- The elements of an array have the trees of their values. -/
theorem mem_ofItems {items : List Value} {ps : List Property} (h : ofItems items = .ok ps)
    {p : Property} : p ∈ ps ↔ ∃ v ∈ items, ofNode none v = .ok p := by
  induction items generalizing ps with
  | nil => rw [ofItems] at h; cases h; simp
  | cons v rest ih =>
    rw [ofItems] at h
    split at h
    · cases h
    · next q hq =>
      split at h
      · next qs hqs =>
        cases h
        simp only [List.mem_cons, exists_eq_or_imp, ih hqs, hq, Except.ok.injEq, @eq_comm _ p q]
      · cases h

/-- The values of a root array that are not `null`, as trees. -/
theorem mem_present_children {items : List Value} {tree : Property}
    (h : root (.array items) = .ok tree) {p : Property} :
    p ∈ present tree.children ↔ ∃ v ∈ items, v.isNull = false ∧ ofNode none v = .ok p := by
  obtain ⟨hannotates, hnode⟩ := root_annotates h
  rw [mem_present, mem_ofItems (hannotates.ofItems_children hnode)]
  constructor
  · rintro ⟨⟨v, hv, hp⟩, hnull⟩
    rw [isNull, (ofNode_ok hp).2] at hnull
    exact ⟨v, hv, hnull, hp⟩
  · rintro ⟨v, hv, hnull, hp⟩
    refine ⟨⟨v, hv, hp⟩, ?_⟩
    rw [isNull, (ofNode_ok hp).2, hnull]

end Property

/-- Whether two lists have the same values, `null` aside. -/
def SameRows (xs ys : List Value) : Prop :=
  ∀ v, v.isNull = false → (v ∈ xs ↔ v ∈ ys)

namespace SameRows

variable {xs ys : List Value}

theorem symm (h : SameRows xs ys) : SameRows ys xs :=
  fun v hv => (h v hv).symm

/-- What is collected from rows is the same for the same rows, if there is nothing in a `null`. -/
theorem flatMap_subset {α : Type} (h : SameRows xs ys) {f : Value → List α} (hnull : f .null = []) :
    ys.flatMap f ⊆ xs.flatMap f := by
  intro a ha
  obtain ⟨v, hv, hav⟩ := List.mem_flatMap.1 ha
  refine List.mem_flatMap.2 ⟨v, (h v ?_).2 hv, hav⟩
  cases v with
  | null => rw [hnull] at hav; cases hav
  | _ => rfl

theorem keyOrdered (h : SameRows xs ys) (horder : (Value.array xs).KeyOrdered) :
    (Value.array ys).KeyOrdered := by
  rw [Value.KeyOrdered, Value.keyLists_array] at horder ⊢
  have hsubset : ys.flatMap Value.keyLists ⊆ xs.flatMap Value.keyLists := h.flatMap_subset rfl
  exact fun first hfirst second hsecond => horder first (hsubset hfirst) second (hsubset hsecond)

/-- If one of two arrays with the same rows has a tree, so has the other. -/
theorem exists_root (h : SameRows xs ys) {tree : Property}
    (htree : Property.root (.array xs) = .ok tree) :
    ∃ tree', Property.root (.array ys) = .ok tree' := by
  -- Only a number without a type leaves an array without a tree, and both have the same numbers.
  have htyped : ∀ literal ∈ (Value.array xs).literals, isUntyped literal = false := by
    rcases Property.root_cases (.array xs) with ⟨literal, -, -, hfault⟩ | ⟨htyped, -⟩
    · rw [hfault] at htree; cases htree
    · exact htyped
  rcases Property.root_cases (.array ys) with ⟨literal, hliteral, huntyped, -⟩ | ⟨-, htree'⟩
  · rw [Value.literals_array] at hliteral htyped
    rw [htyped literal (h.flatMap_subset rfl hliteral)] at huntyped
    cases huntyped
  · exact htree'

theorem sameMembers (h : SameRows xs ys) {tree tree' : Property}
    (htree : Property.root (.array xs) = .ok tree)
    (htree' : Property.root (.array ys) = .ok tree') :
    SameMembers (present tree.children) (present tree'.children) := by
  intro p
  rw [Property.mem_present_children htree, Property.mem_present_children htree']
  constructor
  · rintro ⟨v, hv, hnull, hp⟩
    exact ⟨v, (h v hnull).1 hv, hnull, hp⟩
  · rintro ⟨v, hv, hnull, hp⟩
    exact ⟨v, (h v hnull).2 hv, hnull, hp⟩

/-- The same rows have the same root slots. -/
theorem rootMembers_ok (h : SameRows xs ys) (horder : (Value.array xs).KeyOrdered)
    {tree tree' : Property} (htree : Property.root (.array xs) = .ok tree)
    (htree' : Property.root (.array ys) = .ok tree') {slots : List (String × Shape × Bool)}
    (hslots : rootMembers tree = .ok slots) : rootMembers tree' = .ok slots := by
  obtain ⟨hannotates, hnode⟩ := Property.root_annotates htree
  obtain ⟨-, hnode'⟩ := Property.root_annotates htree'
  have hall : ∀ p ∈ tree.children, p.Within (Value.array xs).keyLists :=
    Property.Within.children ⟨hannotates, hnode ▸ List.Subset.refl _⟩
  have hrows := forall_present hall
  have hparts := forall_parts Property.Within.children hrows
  have hsame := h.sameMembers htree htree'
  obtain ⟨objects, keys, hobjects, hkeys, hslots⟩ := rootMembers_eq_ok.1 hslots
  rw [rootObjects_array_iff (by rw [hnode]; rfl)] at hobjects
  obtain ⟨rfl, hne, hobject⟩ := hobjects
  refine rootMembers_eq_ok.2 ⟨present tree'.children, keys, ?_, ?_, ?_⟩
  · rw [rootObjects_array_iff (by rw [hnode']; rfl)]
    exact ⟨rfl, mt hsame.nil_iff.2 hne, by simpa only [hsame.mem_iff] using hobject⟩
  · exact mergedKeys_sameMembers horder hne hrows hobject hsame hkeys
  · exact Shape.ofKeys_of_columns (fun key slot => Shape.ofValues_sameMembers horder
      (forall_column hparts) (hsame.flatMap_children.filter _)) hslots

/-- What is declared for an array is declared for any other array with the same rows. -/
theorem declarationsFor_ok (h : SameRows xs ys) (horder : (Value.array xs).KeyOrdered)
    {rootName : String} {language : Language} {declarations : List Declaration}
    (hdeclarations : declarationsFor rootName language (.array xs) = .ok declarations) :
    declarationsFor rootName language (.array ys) = .ok declarations := by
  cases htree : Property.root (.array xs) with
  | error e => rw [declarationsFor, htree] at hdeclarations; cases hdeclarations
  | ok tree =>
    obtain ⟨tree', htree'⟩ := h.exists_root htree
    rw [declarationsFor_of_root htree] at hdeclarations
    rw [declarationsFor_of_root htree']
    cases hslots : rootMembers tree with
    | error e => rw [hslots] at hdeclarations; cases hdeclarations
    | ok slots => rwa [h.rootMembers_ok horder htree htree' hslots, ← hslots]

end SameRows

/-! ## Declarations -/

/-- One row is declared as if it stood alone. -/
theorem declarationsFor_single (rootName : String) (language : Language)
    (members : List (String × Value)) :
    declarationsFor rootName language (.array [.object members])
      = declarationsFor rootName language (.object members) := by
  cases htree : Property.root (.object members) with
  | error e =>
    have harray : Property.root (.array [.object members]) = .error e := by
      rw [Property.root] at htree
      rw [Property.root, Property.ofNode, Property.ofItems, htree]
    rw [declarationsFor, declarationsFor, htree, harray]
  | ok tree =>
    have hobject : tree.node.isObject = true := by rw [(Property.root_annotates htree).2]; rfl
    obtain ⟨array, harray, hnode, hchildren⟩ : ∃ array : Property,
        Property.root (.array [.object members]) = .ok array ∧
          array.node.isArray = true ∧ array.children = [tree] := by
      rw [Property.root] at htree
      rw [Property.root, Property.ofNode, Property.ofItems, htree, Property.ofItems]
      exact ⟨_, rfl, rfl, rfl⟩
    have hpresent : present [tree] = [tree] := by
      obtain ⟨members', hnode'⟩ := Value.isObject_iff.1 hobject
      simp [present, Property.isNull, hnode', Value.isNull]
    have hobjects : rootObjects array = rootObjects tree := by
      rw [rootObjects_of_object hobject, rootObjects_array_iff hnode, hchildren, hpresent]
      exact ⟨rfl, List.cons_ne_nil _ _, by simpa using hobject⟩
    rw [declarationsFor_of_root harray, declarationsFor_of_root htree, rootMembers, rootMembers,
      hobjects]

/-- Where objects with the same keys list them in the same order, arrays with the same rows are
    declared alike or not at all; and one row is declared as if it stood alone. -/
theorem declarationsFor_rows (rootName : String) (language : Language) :
    (∀ xs ys : List Value, (Value.array xs).KeyOrdered → SameRows xs ys →
      (declarationsFor rootName language (.array xs)).toOption
        = (declarationsFor rootName language (.array ys)).toOption) ∧
    ∀ members : List (String × Value),
      declarationsFor rootName language (.array [.object members])
        = declarationsFor rootName language (.object members) := by
  refine ⟨fun xs ys horder hrows => ?_, declarationsFor_single rootName language⟩
  -- Success carries over either way, so that one side cannot fail alone.
  cases hxs : declarationsFor rootName language (.array xs) with
  | ok declarations => rw [hrows.declarationsFor_ok horder hxs]
  | error e =>
    cases hys : declarationsFor rootName language (.array ys) with
    | error e' => rfl
    | ok declarations =>
      rw [hrows.symm.declarationsFor_ok (hrows.keyOrdered horder) hys] at hxs
      cases hxs

/-- Two rows in another order, one of them twice, with a `null` in between. -/
theorem orders_declared_alike :
    let paid : Value := .object [("id", .number "1"), ("tags", .array [.string "paid"])]
    let draft : Value := .object [("id", .null), ("tags", .array [])]
    (Value.array [paid, draft]).KeyOrdered ∧ SameRows [paid, draft] [draft, .null, paid, draft] ∧
      (declarationsFor "Order" .csharp (.array [paid, draft])).toOption
        = (declarationsFor "Order" .csharp (.array [draft, .null, paid, draft])).toOption := by
  intro paid draft
  have horder : (Value.array [paid, draft]).KeyOrdered := by
    unfold Value.KeyOrdered
    decide +kernel
  have hrows : SameRows [paid, draft] [draft, .null, paid, draft] := by
    intro v hv
    cases v with
    | null => cases hv
    | _ => simp [or_comm]
  exact ⟨horder, hrows, (declarationsFor_rows "Order" .csharp).1 _ _ horder hrows⟩

end SampleTypes
