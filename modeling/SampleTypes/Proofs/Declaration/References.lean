import SampleTypes.Proofs.Declaration.Conformance
import SampleTypes.Proofs.Inference.Proper

set_option autoImplicit false

/-! # Names and references

Declarations refer to one another by name. The names of a document's declarations are distinct
and none is reserved, and every reference leads to a declaration further on in the list, so that
nothing refers to the root and no chain of references returns to where it began. The registry
keeps this at every step (`Registry.Sound`), nested declarations being put in front. -/

namespace SampleTypes

/-- The declaration that a type refers to, inside however many lists. -/
def TypeExpr.named? : TypeExpr → Option String
  | .any => none
  | .value _ => none
  | .named name => some name
  | .list item _ => item.named?

/-- The names that members refer to. -/
def references (members : List Member) : List String :=
  members.filterMap (·.type.named?)

/-- Every declaration refers to later ones only. -/
def ReferBack : List Declaration → Prop
  | [] => True
  | d :: rest => (∀ name ∈ references d.members, name ∈ rest.map (·.name)) ∧ ReferBack rest

theorem ReferBack.cons {d : Declaration} {rest : List Declaration}
    (hrefs : ∀ name ∈ references d.members, name ∈ rest.map (·.name)) (h : ReferBack rest) :
    ReferBack (d :: rest) :=
  ⟨hrefs, h⟩

/-- What holds of the declarations of every document. -/
structure WellNamed (language : Language) (declarations : List Declaration) : Prop where
  names_nodup : (declarations.map (·.name)).Nodup
  not_reserved : ∀ d ∈ declarations, d.name ∉ language.reservedNames
  members_ne_nil : ∀ d ∈ declarations, d.members ≠ []
  keys_nodup : ∀ d ∈ declarations, (d.members.map (·.key)).Nodup
  /-- A name that the declaration in place `p` refers to is that of the declaration in one place
      behind `p`, and of no other. -/
  refers_once : ∀ (p : Nat) (d : Declaration), declarations[p]? = some d →
    ∀ name ∈ references d.members,
      ∃ q, p < q ∧ ∀ i, (declarations.map (·.name))[i]? = some name ↔ i = q

theorem ReferBack.exists_later {declarations : List Declaration} (h : ReferBack declarations)
    {p : Nat} {d : Declaration} (hd : declarations[p]? = some d) {name : String}
    (hname : name ∈ references d.members) :
    ∃ q, p < q ∧ (declarations.map (·.name))[q]? = some name := by
  induction declarations generalizing p with
  | nil => simp at hd
  | cons first rest ih =>
    cases p with
    | zero =>
      rw [List.getElem?_cons_zero, Option.some.injEq] at hd
      subst hd
      obtain ⟨q, hq⟩ := List.getElem?_of_mem (h.1 name hname)
      exact ⟨q + 1, Nat.succ_pos q, by rw [List.map_cons, List.getElem?_cons_succ, hq]⟩
    | succ p =>
      rw [List.getElem?_cons_succ] at hd
      obtain ⟨q, hpq, hq⟩ := ih h.2 hd
      exact ⟨q + 1, Nat.succ_lt_succ hpq, by rw [List.map_cons, List.getElem?_cons_succ, hq]⟩

theorem ReferBack.refers_once {declarations : List Declaration} (h : ReferBack declarations)
    (hnodup : (declarations.map (·.name)).Nodup) {p : Nat} {d : Declaration}
    (hd : declarations[p]? = some d) {name : String} (hname : name ∈ references d.members) :
    ∃ q, p < q ∧ ∀ i, (declarations.map (·.name))[i]? = some name ↔ i = q := by
  obtain ⟨q, hpq, hq⟩ := h.exists_later hd hname
  refine ⟨q, hpq, fun i => ⟨fun hi => ?_, fun hi => hi ▸ hq⟩⟩
  obtain ⟨hlt, -⟩ := List.getElem?_eq_some_iff.1 hi
  exact (List.getElem?_inj hlt hnodup).1 (hi.trans hq.symm)

/-! ## The registry -/

namespace Registry

/-- What every registry keeps: names are distinct and not among the taken ones, declarations
    have members under distinct keys, and refer to what was declared before them. -/
structure Sound (r : Registry) : Prop where
  names_nodup : (r.declared.map (·.name)).Nodup
  not_taken : ∀ d ∈ r.declared, d.name ∉ r.taken
  members_ne_nil : ∀ d ∈ r.declared, d.members ≠ []
  keys_nodup : ∀ d ∈ r.declared, (d.members.map (·.key)).Nodup
  referBack : ReferBack r.declared

theorem sound_of_nil (taken : List String) : Sound ⟨taken, []⟩ where
  names_nodup := List.nodup_nil
  not_taken := fun _ h => absurd h List.not_mem_nil
  members_ne_nil := fun _ h => absurd h List.not_mem_nil
  keys_nodup := fun _ h => absurd h List.not_mem_nil
  referBack := trivial

theorem mem_names_iff {r : Registry} {name : String} :
    name ∈ r.declared.map (·.name) ↔ ∃ d, r.find? name = some d := by
  rw [← not_iff_not, ← lookup_eq_none_iff, ← find?_eq_lookup, ← Option.isSome_iff_exists,
    Option.not_isSome_iff_eq_none]

theorem Extends.mem_names {r r' : Registry} (h : r.Extends r') {name : String}
    (hname : name ∈ r.declared.map (·.name)) : name ∈ r'.declared.map (·.name) := by
  obtain ⟨d, hd⟩ := mem_names_iff.1 hname
  exact mem_names_iff.2 ⟨d, h.find hd⟩

theorem mem_names_register (r : Registry) (owner base : String) (members : List Member) :
    (r.register owner base members).1 ∈
      (r.register owner base members).2.declared.map (·.name) :=
  mem_names_iff.2 ⟨_, r.find?_register owner base members⟩

theorem Sound.register {r : Registry} (h : r.Sound) {members : List Member} (hne : members ≠ [])
    (hkeys : (members.map (·.key)).Nodup)
    (hrefs : ∀ name ∈ references members, name ∈ r.declared.map (·.name)) (owner base : String) :
    (r.register owner base members).2.Sound := by
  rcases r.register_cases owner base members with ⟨d, -, -, heq⟩ | ⟨hnone, hfree, heq⟩
  · rw [heq]
    exact h
  · -- The members refer to what was declared before, so the new declaration may stand in front.
    rw [heq]
    rw [find?_eq_lookup, lookup_eq_none_iff] at hnone
    exact {
      names_nodup := List.nodup_cons.2 ⟨hnone, h.names_nodup⟩
      not_taken := List.forall_mem_cons.2 ⟨hfree, h.not_taken⟩
      members_ne_nil := List.forall_mem_cons.2 ⟨hne, h.members_ne_nil⟩
      keys_nodup := List.forall_mem_cons.2 ⟨hkeys, h.keys_nodup⟩
      referBack := .cons hrefs h.referBack }

end Registry

/-! ## Declaring -/

namespace Shape

mutual

/-- Declaring a shape keeps the registry sound and refers to what has been declared. -/
theorem declare_sound (owner key : String) :
    ∀ (shape : Shape) (r : Registry), r.Sound → shape.Proper →
      (shape.declare owner key r).2.Sound ∧
        ∀ name ∈ (shape.declare owner key r).1.named?,
          name ∈ (shape.declare owner key r).2.declared.map (·.name)
  | .any, r, h, _ => by
    rw [declare]
    exact ⟨h, fun name hname => absurd hname (by simp [TypeExpr.named?])⟩
  | .scalar _, r, h, _ => by
    rw [declare]
    exact ⟨h, fun name hname => absurd hname (by simp [TypeExpr.named?])⟩
  | .list item _, r, h, .list hitem => by
    rw [declare_list]
    exact declare_sound owner key item r h hitem
  | .record slots, r, h, .record hne hkeys hslots => by
    rw [declare_record]
    obtain ⟨hsound, hrefs⟩ := declareSlots_sound (Naming.typeIdentifier key) slots r h hslots
    refine ⟨hsound.register (declareSlots_ne_nil _ hne r) ?_ hrefs _ _, ?_⟩
    · rw [declareSlots_keys]
      exact hkeys
    · intro name hname
      rw [TypeExpr.named?, Option.mem_some_iff] at hname
      subst hname
      exact Registry.mem_names_register ..

theorem declareSlots_sound (owner : String) :
    ∀ (slots : List (String × Shape × Bool)) (r : Registry), r.Sound →
      (∀ slot ∈ slots, slot.2.1.Proper) →
      (declareSlots owner slots r).2.Sound ∧
        ∀ name ∈ references (declareSlots owner slots r).1,
          name ∈ (declareSlots owner slots r).2.declared.map (·.name)
  | [], r, h, _ => by
    rw [declareSlots]
    exact ⟨h, fun name hname => absurd hname List.not_mem_nil⟩
  | (key, shape, nullable) :: rest, r, h, hall => by
    rw [declareSlots_cons]
    obtain ⟨hshape, hrest⟩ := List.forall_mem_cons.1 hall
    obtain ⟨hsound, hrefs⟩ := declare_sound owner key shape r h hshape
    obtain ⟨hsound', hrefs'⟩ := declareSlots_sound owner rest _ hsound hrest
    refine ⟨hsound', ?_⟩
    intro name hname
    obtain ⟨m, hm, hnamed⟩ := List.mem_filterMap.1 hname
    rcases List.mem_cons.1 hm with rfl | hm
    · exact (declareSlots_extends owner rest _).mem_names (hrefs name hnamed)
    · exact hrefs' name (List.mem_filterMap.2 ⟨m, hm, hnamed⟩)

end

end Shape

/-! ## The declarations of a document -/

/-- A root in front of a sound registry, whose name is neither reserved nor given out, and which
    refers to what the registry has declared. -/
theorem Registry.Sound.wellNamed {r : Registry} (h : r.Sound) {language : Language}
    (htaken : ∀ name ∈ language.reservedNames, name ∈ r.taken) {d : Declaration}
    (hroot : d.name ∉ r.declared.map (·.name)) (hfree : d.name ∉ language.reservedNames)
    (hne : d.members ≠ []) (hkeys : (d.members.map (·.key)).Nodup)
    (hrefs : ∀ name ∈ references d.members, name ∈ r.declared.map (·.name)) :
    WellNamed language (d :: r.declared) := by
  have hnodup : ((d :: r.declared).map (·.name)).Nodup :=
    List.nodup_cons.2 ⟨hroot, h.names_nodup⟩
  exact {
    names_nodup := hnodup
    not_reserved := List.forall_mem_cons.2
      ⟨hfree, fun e he hreserved => h.not_taken e he (htaken e.name hreserved)⟩
    members_ne_nil := List.forall_mem_cons.2 ⟨hne, h.members_ne_nil⟩
    keys_nodup := List.forall_mem_cons.2 ⟨hkeys, h.keys_nodup⟩
    refers_once := fun p e he name hname =>
      ReferBack.refers_once (.cons hrefs h.referBack) hnodup he hname }

/-- The declarations of a document have names of their own that are not reserved, members under
    distinct keys, and references that each lead to one later declaration. -/
theorem declarations_wellNamed {root : Property} {rootName : String} {language : Language}
    {declarations : List Declaration}
    (h : root.declarations rootName language = .ok declarations) :
    WellNamed language declarations := by
  unfold Property.declarations at h
  split at h
  · next slots hslots =>
    cases h
    obtain ⟨hkeys, hproper⟩ := rootMembers_proper hslots
    by_cases hne : slots = []
    · subst hne
      rw [declarationsOf_nil]
      exact ⟨List.nodup_nil, by simp, by simp, by simp, by simp⟩
    · rw [declarationsOf_eq rootName language hne]
      obtain ⟨hsound, hrefs⟩ := Shape.declareSlots_sound
        (Naming.fresh language.reservedNames "" rootName) slots (.initial rootName language)
        (Registry.sound_of_nil _) hproper
      have hext := Shape.declareSlots_extends
        (Naming.fresh language.reservedNames "" rootName) slots (.initial rootName language)
      refine hsound.wellNamed (d := ⟨_, _⟩) ?_ ?_ (Naming.fresh_not_mem _ _ _)
        (Shape.declareSlots_ne_nil _ hne _) ?_ hrefs
      · intro name hname
        rw [hext.taken_eq]
        exact List.mem_cons_of_mem _ hname
      · exact lookup_eq_none_iff.1 (find?_root_eq_none rootName language slots _)
      · rw [Shape.declareSlots_keys]
        exact hkeys
  · cases h

/-- A root that bears a reserved name is numbered, and so is a `Time` that may not be put behind
    its owner `Date`. -/
theorem dateTime_wellNamed :
    WellNamed .csharp
      [⟨"Guid2", [⟨"time", .named "Time", false⟩, ⟨"date", .named "Date", false⟩]⟩,
        ⟨"Date", [⟨"time", .named "DateTime2", false⟩]⟩,
        ⟨"DateTime2", [⟨"b", .value .bool, false⟩]⟩, ⟨"Time", [⟨"a", .value .bool, false⟩]⟩] :=
  @declarations_wellNamed
    ((Property.root (.object [("time", .object [("a", .bool true)]),
      ("date", .object [("time", .object [("b", .bool true)])])])).toOption.getD default)
    "Guid" .csharp _ (by decide +kernel)

end SampleTypes
