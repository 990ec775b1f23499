import SampleTypes.Proofs.Declaration.References
import SampleTypes.Proofs.Naming.TypeNames

set_option autoImplicit false

/-! # When two slots share a declaration

Slots whose keys make the same type name and whose objects have the same members are meant to
refer to one declaration. They do when that name itself is the declaration's, or when they have
the same owner. Otherwise each owner finds the name taken, never looks at what the other owner
declared, and declares the shape once more.

`Shape.placements` lists the slots of a document that refer to declarations, in the order in which
they were registered, so that statements can speak of two slots at once. -/

namespace SampleTypes

/-- A slot that refers to a declaration: the owner it stands in, the name that its key makes, the
    members of its objects, and the name of the declaration. -/
structure Placement where
  owner : String
  base : String
  members : List Member
  name : String
  deriving DecidableEq

namespace Shape

mutual

/-- The slots in a shape that refer to declarations, as `declare` registers them. -/
def placements (owner key : String) : Shape → Registry → List Placement
  | .any, _ => []
  | .scalar _, _ => []
  | .list item _, r => item.placements owner key r
  | .record slots, r =>
    let base := Naming.typeIdentifier key
    let inner := declareSlots base slots r
    slotPlacements base slots r
      ++ [⟨owner, base, inner.1, (inner.2.register owner base inner.1).1⟩]

/-- The slots below those of `owner` that refer to declarations, these included. -/
def slotPlacements (owner : String) :
    List (String × Shape × Bool) → Registry → List Placement
  | [], _ => []
  | (key, shape, _) :: rest, r =>
    shape.placements owner key r ++ slotPlacements owner rest (shape.declare owner key r).2

end

theorem placements_record (owner key : String) (slots : List (String × Shape × Bool))
    (r : Registry) :
    (Shape.record slots).placements owner key r =
      let base := Naming.typeIdentifier key
      let inner := declareSlots base slots r
      slotPlacements base slots r
        ++ [⟨owner, base, inner.1, (inner.2.register owner base inner.1).1⟩] := by
  rw [placements]

theorem slotPlacements_cons (owner key : String) (shape : Shape) (nullable : Bool)
    (rest : List (String × Shape × Bool)) (r : Registry) :
    slotPlacements owner ((key, shape, nullable) :: rest) r
      = shape.placements owner key r
        ++ slotPlacements owner rest (shape.declare owner key r).2 := by
  rw [slotPlacements]

end Shape

/-! ## Runs of the registry -/

namespace Registry

/-- Registering these placements one after the other leads from one registry to the other. -/
inductive Run : Registry → List Placement → Registry → Prop where
  | done (r : Registry) : Run r [] r
  | step {r mid r' : Registry} {p : Placement} {rest : List Placement} :
    r.register p.owner p.base p.members = (p.name, mid) → Run mid rest r' →
    Run r (p :: rest) r'

theorem Run.single (r : Registry) (owner base : String) (members : List Member) :
    Run r [⟨owner, base, members, (r.register owner base members).1⟩]
      (r.register owner base members).2 :=
  .step rfl (.done _)

theorem Run.append {r mid r' : Registry} {ps qs : List Placement} (h : Run r ps mid)
    (h' : Run mid qs r') : Run r (ps ++ qs) r' := by
  induction h with
  | done r => exact h'
  | step hp _ ih => exact .step hp (ih h')

theorem Run.extends {r r' : Registry} {ps : List Placement} (h : Run r ps r') :
    r.Extends r' := by
  induction h with
  | done r => exact .refl r
  | @step r mid r' p rest hp _ ih =>
    have hext := r.register_extends p.owner p.base p.members
    rw [hp] at hext
    exact hext.trans ih

/-- Every placement is found under its name in the end. -/
theorem Run.find {r r' : Registry} {ps : List Placement} (h : Run r ps r') :
    ∀ p ∈ ps, r'.find? p.name = some ⟨p.name, p.members⟩ := by
  induction h with
  | done r => simp
  | @step r mid r' p rest hp hrest ih =>
    refine List.forall_mem_cons.2 ⟨?_, ih⟩
    have hfind := r.find?_register p.owner p.base p.members
    rw [hp] at hfind
    exact hrest.extends.find hfind

end Registry

namespace Shape

mutual

/-- Declaring a shape registers its placements and nothing else. -/
theorem declare_run (owner key : String) :
    ∀ (shape : Shape) (r : Registry),
      r.Run (shape.placements owner key r) (shape.declare owner key r).2
  | .any, r => by rw [placements, declare]; exact .done r
  | .scalar _, r => by rw [placements, declare]; exact .done r
  | .list item _, r => by
    rw [placements, declare_list]
    exact declare_run owner key item r
  | .record slots, r => by
    rw [placements_record, declare_record]
    exact (declareSlots_run (Naming.typeIdentifier key) slots r).append (.single ..)

theorem declareSlots_run (owner : String) :
    ∀ (slots : List (String × Shape × Bool)) (r : Registry),
      r.Run (slotPlacements owner slots r) (declareSlots owner slots r).2
  | [], r => by rw [slotPlacements, declareSlots]; exact .done r
  | (key, shape, _) :: rest, r => by
    rw [slotPlacements_cons, declareSlots_cons]
    exact (declare_run owner key shape r).append (declareSlots_run owner rest _)

end

end Shape

/-! ## Every reference is a placement -/

/-- Whether what a member of `owner` refers to is among the placements, under the name that the
    key of the member makes. -/
def Placed (ps : List Placement) (owner : String) (m : Member) : Prop :=
  ∀ name ∈ m.type.named?,
    ∃ p ∈ ps, p.name = name ∧ p.owner = owner ∧ p.base = Naming.typeIdentifier m.key

theorem Placed.of_mem {ps : List Placement} {owner base key name : String}
    {members : List Member} {nullable : Bool} (hbase : base = Naming.typeIdentifier key)
    (hp : ⟨owner, base, members, name⟩ ∈ ps) : Placed ps owner ⟨key, .named name, nullable⟩ := by
  intro name' hname
  rw [TypeExpr.named?, Option.mem_some_iff] at hname
  subst hname
  exact ⟨_, hp, rfl, rfl, hbase⟩

theorem Placed.mono {ps qs : List Placement} {owner : String} {m : Member}
    (h : Placed ps owner m) (hsub : ps ⊆ qs) : Placed qs owner m := by
  intro name hname
  obtain ⟨p, hp, heq⟩ := h name hname
  exact ⟨p, hsub hp, heq⟩

/-- Whether a placement is named for a key, and what its members refer to is placed in the owner
    that it is to them. -/
structure WellPlaced (ps : List Placement) (p : Placement) : Prop where
  base_eq : ∃ key, p.base = Naming.typeIdentifier key
  members : ∀ m ∈ p.members, Placed ps p.base m

theorem WellPlaced.of_base {ps : List Placement} {owner base name : String}
    {members : List Member} (hbase : ∃ key, base = Naming.typeIdentifier key)
    (h : ∀ m ∈ members, Placed ps base m) : WellPlaced ps ⟨owner, base, members, name⟩ :=
  ⟨hbase, h⟩

theorem WellPlaced.mono {ps qs : List Placement} {p : Placement} (h : WellPlaced ps p)
    (hsub : ps ⊆ qs) : WellPlaced qs p :=
  ⟨h.base_eq, fun m hm => (h.members m hm).mono hsub⟩

theorem WellPlaced.exists_not_digit {ps : List Placement} {p : Placement} (h : WellPlaced ps p) :
    ∃ c ∈ p.base.toList, c.isDigit = false := by
  obtain ⟨key, hkey⟩ := h.base_eq
  rw [hkey]
  exact Naming.exists_not_digit_typeIdentifier key

/-- A run declares what it places, and nothing else. -/
theorem Registry.Run.declared {r r' : Registry} {ps : List Placement} (h : r.Run ps r') :
    ∀ d ∈ r'.declared, d ∈ r.declared ∨ ∃ p ∈ ps, p.members = d.members := by
  induction h with
  | done r => exact fun d hd => .inl hd
  | @step r mid r' p rest hp _ ih =>
    intro d hd
    -- What the rest of the run did not declare was there before it, or this step declared it.
    rcases ih d hd with hd | ⟨q, hq, hmembers⟩
    · rcases r.register_cases p.owner p.base p.members with ⟨-, -, -, heq⟩ | ⟨-, -, heq⟩
      · rw [heq, Prod.mk.injEq] at hp
        exact .inl (hp.2 ▸ hd)
      · rw [heq, Prod.mk.injEq] at hp
        rw [← hp.2] at hd
        rcases List.mem_cons.1 hd with rfl | hd
        · exact .inr ⟨p, List.mem_cons_self, rfl⟩
        · exact .inl hd
    · exact .inr ⟨q, List.mem_cons_of_mem _ hq, hmembers⟩

namespace Shape

theorem declare_placed (owner key : String) (nullable : Bool) :
    ∀ (shape : Shape) (r : Registry),
      Placed (shape.placements owner key r) owner
        ⟨key, (shape.declare owner key r).1, nullable⟩
  | .any, r => by
    rw [declare]
    exact fun name hname => absurd hname (by simp [TypeExpr.named?])
  | .scalar _, r => by
    rw [declare]
    exact fun name hname => absurd hname (by simp [TypeExpr.named?])
  | .list item _, r => by
    rw [placements, declare_list]
    exact declare_placed owner key nullable item r
  | .record slots, r => by
    rw [placements_record, declare_record]
    exact .of_mem rfl (List.mem_append_right _ List.mem_cons_self)

/-- What the members of an owner refer to is placed in that owner. -/
theorem declareSlots_placed (owner : String) (slots : List (String × Shape × Bool))
    (r : Registry) :
    ∀ m ∈ (declareSlots owner slots r).1, Placed (slotPlacements owner slots r) owner m := by
  induction slots generalizing r with
  | nil => rw [declareSlots]; exact fun m hm => absurd hm List.not_mem_nil
  | cons slot rest ih =>
    obtain ⟨key, shape, nullable⟩ := slot
    rw [declareSlots_cons, slotPlacements_cons]
    refine List.forall_mem_cons.2 ⟨?_, ?_⟩
    · exact (declare_placed owner key nullable shape r).mono (List.subset_append_left _ _)
    · exact fun m hm => (ih _ m hm).mono (List.subset_append_right _ _)

mutual

/-- The placements of a shape are well placed among themselves. -/
theorem placements_wellPlaced (owner key : String) :
    ∀ (shape : Shape) (r : Registry),
      ∀ p ∈ shape.placements owner key r, WellPlaced (shape.placements owner key r) p
  | .any, r => by rw [placements]; exact fun p hp => absurd hp List.not_mem_nil
  | .scalar _, r => by rw [placements]; exact fun p hp => absurd hp List.not_mem_nil
  | .list item _, r => by
    rw [placements]
    exact placements_wellPlaced owner key item r
  | .record slots, r => by
    rw [placements_record]
    dsimp only
    intro p hp
    rcases List.mem_append.1 hp with hp | hp
    · exact (slotPlacements_wellPlaced _ slots r p hp).mono (List.subset_append_left _ _)
    · rw [List.mem_singleton] at hp
      subst hp
      exact (WellPlaced.of_base ⟨key, rfl⟩ (declareSlots_placed _ slots r)).mono
        (List.subset_append_left _ _)

theorem slotPlacements_wellPlaced (owner : String) :
    ∀ (slots : List (String × Shape × Bool)) (r : Registry),
      ∀ p ∈ slotPlacements owner slots r, WellPlaced (slotPlacements owner slots r) p
  | [], r => by rw [slotPlacements]; exact fun p hp => absurd hp List.not_mem_nil
  | (key, shape, _) :: rest, r => by
    rw [slotPlacements_cons]
    intro p hp
    rcases List.mem_append.1 hp with hp | hp
    · exact (placements_wellPlaced owner key shape r p hp).mono (List.subset_append_left _ _)
    · exact (slotPlacements_wellPlaced owner rest _ p hp).mono (List.subset_append_right _ _)

end

end Shape

/-! ## Two placements of one shape -/

/-- Whether two placements of one shape under one name for their keys share a declaration exactly
    when they have the same owner or the declaration bears that name. -/
def SharedByOwner (p q : Placement) : Prop :=
  p.base = q.base → p.members = q.members →
    (p.name = p.base ↔ q.name = q.base) ∧
      (p.name = q.name ↔ p.name = p.base ∨ p.owner = q.owner)

theorem SharedByOwner.refl (p : Placement) : SharedByOwner p p :=
  fun _ _ => ⟨Iff.rfl, ⟨fun _ => .inr rfl, fun _ => rfl⟩⟩

theorem SharedByOwner.symm {p q : Placement} (h : SharedByOwner p q) : SharedByOwner q p := by
  intro hbase hmembers
  obtain ⟨hheld, hshared⟩ := h hbase.symm hmembers.symm
  exact ⟨hheld.symm, by rw [eq_comm, hshared, hheld, eq_comm (a := p.owner)]⟩

namespace Registry

/-- A name that is a shape's own is the first one that the registry tries. -/
theorem nameFor_eq_base_iff {r : Registry} {owner base : String} {members : List Member} :
    r.nameFor owner base members = base ↔ r.admits members base = true := by
  constructor
  · intro h
    rw [← h]
    exact r.admits_nameFor owner base members
  · intro h
    exact nameFor_eq_of_first (n := 0) h (fun k hk => absurd hk (Nat.not_lt_zero k))

section Later

variable {r mid s : Registry} {owner base name : String} {members : List Member}

/-- A name that the registry has given to some members stays theirs. -/
theorem admits_later (h : r.register owner base members = (name, mid)) (hext : mid.Extends s) :
    s.admits members name = true := by
  have hfind := r.find?_register owner base members
  rw [h] at hfind
  exact (admits_of_find (hext.find hfind)).2 rfl

/-- A name that the registry has refused stays refused. -/
theorem refused_later (h : r.register owner base members = (name, mid)) (hext : mid.Extends s)
    {other : String} (hother : r.admits members other = false) :
    s.admits members other = false := by
  have hmid := r.register_extends owner base members
  rw [h] at hmid
  exact (hmid.trans hext).refused hother

/-- The base name goes to the same members later on if and only if it has gone to them before. -/
theorem nameFor_eq_base_later (h : r.register owner base members = (name, mid))
    (hext : mid.Extends s) (owner' : String) :
    name = base ↔ s.nameFor owner' base members = base := by
  have hname : r.nameFor owner base members = name := by rw [← register_fst, h]
  rw [nameFor_eq_base_iff]
  constructor
  · rintro rfl
    exact admits_later h hext
  · intro hadmits
    rw [← hname, nameFor_eq_base_iff]
    -- Had the base name been refused before, it would be refused now.
    by_contra hnot
    rw [refused_later h hext (Bool.not_eq_true _ ▸ hnot)] at hadmits
    cases hadmits

/-- The same owner gets the same name for the same members. -/
theorem nameFor_eq_later (h : r.register owner base members = (name, mid))
    (hext : mid.Extends s) : s.nameFor owner base members = name := by
  have hname : r.nameFor owner base members = name := by rw [← register_fst, h]
  obtain ⟨n, -, hn, -, hfirst⟩ := r.nameFor_spec owner base members
  have hheld := admits_later h hext
  rw [← hname, hn] at hheld ⊢
  exact nameFor_eq_of_first hheld fun k hk => refused_later h hext (hfirst k hk)

end Later

/-- A name that is not the base name tells whose slot it was made for. -/
theorem owner_eq_of_nameFor_eq {r s : Registry} {owner owner' base name : String}
    {members members' : List Member} (hdigit : ∃ c ∈ base.toList, c.isDigit = false)
    (h : r.nameFor owner base members = name) (h' : s.nameFor owner' base members' = name)
    (hbase : name ≠ base) : owner = owner' := by
  have hpos : ∀ {owner n}, name = candidate owner base n → 1 ≤ n := by
    intro owner n hn
    by_contra hlt
    exact hbase (by rw [hn, Nat.eq_zero_of_not_pos hlt]; rfl)
  obtain ⟨m, -, hm, -, -⟩ := r.nameFor_spec owner base members
  obtain ⟨n, -, hn, -, -⟩ := s.nameFor_spec owner' base members'
  rw [h] at hm
  rw [h'] at hn
  exact owner_eq_of_candidate_eq hdigit (hpos hm) (hpos hn) (hm.symm.trans hn)

/-- An earlier placement `p`, registered in `r`, and a later one `q`, registered in `s`. -/
theorem sharedByOwner_of_later {r mid s t : Registry} {p q : Placement}
    (hp : r.register p.owner p.base p.members = (p.name, mid)) (hext : mid.Extends s)
    (hq : s.register q.owner q.base q.members = (q.name, t))
    (hdigit : ∃ c ∈ p.base.toList, c.isDigit = false) : SharedByOwner p q := by
  obtain ⟨owner, base, members, name⟩ := p
  obtain ⟨owner', base', members', name'⟩ := q
  rintro rfl rfl
  simp only at hp hq hdigit ⊢
  have hname : r.nameFor owner base members = name := by rw [← register_fst, hp]
  have hname' : s.nameFor owner' base members = name' := by rw [← register_fst, hq]
  have hbase : name = base ↔ name' = base := by
    rw [← hname']
    exact nameFor_eq_base_later hp hext owner'
  refine ⟨hbase, ?_, ?_⟩
  · rintro rfl
    by_cases hown : name = base
    · exact .inl hown
    · exact .inr (owner_eq_of_nameFor_eq hdigit hname hname' hown)
  · rintro (hown | rfl)
    · rw [hown, hbase.1 hown]
    · rw [← hname', nameFor_eq_later hp hext]

/-- Any two placements of a run of the registry. -/
theorem Run.sharedByOwner {r r' : Registry} {ps : List Placement} (h : Run r ps r')
    (hdigit : ∀ p ∈ ps, ∃ c ∈ p.base.toList, c.isDigit = false) :
    ∀ p ∈ ps, ∀ q ∈ ps, SharedByOwner p q := by
  -- A later placement is registered in an extension of the registry that the earlier one left.
  have hlater : ∀ {mid s : Registry} {qs : List Placement}, Run mid qs s →
      ∀ q ∈ qs, ∃ t u, mid.Extends t ∧ t.register q.owner q.base q.members = (q.name, u) := by
    intro mid s qs hrun
    induction hrun with
    | done r => simp
    | @step r mid r' p rest hp hrest ih =>
      refine List.forall_mem_cons.2 ⟨⟨r, mid, .refl r, hp⟩, ?_⟩
      intro q hq
      obtain ⟨t, u, hext, hq⟩ := ih q hq
      have hmid := r.register_extends p.owner p.base p.members
      rw [hp] at hmid
      exact ⟨t, u, hmid.trans hext, hq⟩
  have hpairs : ps.Pairwise SharedByOwner := by
    induction h with
    | done r => exact .nil
    | step hp hrest ih =>
      obtain ⟨hhead, htail⟩ := List.forall_mem_cons.1 hdigit
      refine .cons ?_ (ih htail)
      intro q hq
      obtain ⟨t, u, hext, hq⟩ := hlater hrest q hq
      exact sharedByOwner_of_later hp hext hq hhead
  intro p hp q hq
  have : Std.Symm SharedByOwner := ⟨fun _ _ h => h.symm⟩
  exact List.Pairwise.forall_of_forall (fun p _ => SharedByOwner.refl p) hpairs hp hq

end Registry

/-! ## The slots of a document -/

/-- The slots of a document that refer to declarations. -/
def Property.placements (rootName : String) (language : Language) (root : Property) :
    List Placement :=
  match rootMembers root with
  | .ok slots =>
    Shape.slotPlacements (Naming.fresh language.reservedNames "" rootName) slots
      (.initial rootName language)
  | .error _ => []

/-- The placements of a document are all references in its declarations, each to a declaration
    with its members. Two of them with one name for their keys and the same members share their
    declaration if and only if it bears that name or they have the same owner. -/
theorem shared_iff_base_or_owner {root : Property} {rootName : String} {language : Language}
    {declarations : List Declaration}
    (h : root.declarations rootName language = .ok declarations) :
    (∀ p ∈ root.placements rootName language,
      lookup declarations p.name = some ⟨p.name, p.members⟩) ∧
    (∀ d ∈ declarations, ∀ m ∈ d.members,
      ∃ owner, Placed (root.placements rootName language) owner m) ∧
    ∀ p ∈ root.placements rootName language, ∀ q ∈ root.placements rootName language,
      p.base = q.base → p.members = q.members →
        (p.name = q.name ↔ p.name = p.base ∨ p.owner = q.owner) := by
  unfold Property.declarations at h
  split at h
  · next slots hslots =>
    cases h
    have hplacements : root.placements rootName language = Shape.slotPlacements
        (Naming.fresh language.reservedNames "" rootName) slots (.initial rootName language) := by
      rw [Property.placements, hslots]
    rw [hplacements]
    by_cases hne : slots = []
    · subst hne
      rw [declarationsOf_nil, Shape.slotPlacements]
      exact ⟨by simp, by simp, by simp⟩
    · rw [declarationsOf_eq rootName language hne]
      have hrun := Shape.declareSlots_run (Naming.fresh language.reservedNames "" rootName) slots
        (.initial rootName language)
      have hplaced := Shape.slotPlacements_wellPlaced
        (Naming.fresh language.reservedNames "" rootName) slots (.initial rootName language)
      refine ⟨?_, ?_, ?_⟩
      · intro p hp
        exact Registry.within_cons (find?_root_eq_none rootName language slots _) _ _
          (hrun.find p hp)
      · intro d hd m hm
        rcases List.mem_cons.1 hd with rfl | hd
        · exact ⟨_, Shape.declareSlots_placed _ slots _ m hm⟩
        · rcases hrun.declared d hd with hd | ⟨p, hp, hmembers⟩
          · exact absurd hd List.not_mem_nil
          · exact ⟨p.base, (hplaced p hp).members m (hmembers ▸ hm)⟩
      · intro p hp q hq hbase hmembers
        exact (hrun.sharedByOwner (fun p hp => (hplaced p hp).exists_not_digit) p hp q hq
          hbase hmembers).2
  · cases h

/-- Two owners with the name `A` and one with the name `B` hold an `x` of one shape, after the name
    `X` has gone to another. -/
theorem shared_within_owner :
    ∃ root, Property.root (.object [
        ("x", .object [("p", .number "1")]),
        ("a", .object [("x", .object [("q", .number "1")])]),
        ("b", .object [("x", .object [("q", .number "1")]),
          ("a", .object [("x", .object [("q", .number "1")])])])]) = .ok root ∧
      ∀ p ∈ root.placements "Root" .csharp, ∀ q ∈ root.placements "Root" .csharp,
        p.base = q.base → p.members = q.members →
          (p.name = q.name ↔ p.name = p.base ∨ p.owner = q.owner) :=
  ⟨_, rfl, (@shared_iff_base_or_owner _ "Root" .csharp
    [⟨"Root", [⟨"x", .named "X", false⟩, ⟨"a", .named "A", false⟩, ⟨"b", .named "B", false⟩]⟩,
      ⟨"B", [⟨"x", .named "BX", false⟩, ⟨"a", .named "A", false⟩]⟩,
      ⟨"BX", [⟨"q", .value .int32, false⟩]⟩, ⟨"A", [⟨"x", .named "AX", false⟩]⟩,
      ⟨"AX", [⟨"q", .value .int32, false⟩]⟩, ⟨"X", [⟨"p", .value .int32, false⟩]⟩]
    (by decide +kernel)).2.2⟩

/-- A key and the members under it do not settle the declaration: in the owners `A` and `B` one
    shape under the key `x` is declared twice, as `AX` and as `BX`. -/
theorem not_shared_across_owners :
    ∃ root, Property.root (.object [
        ("x", .object [("p", .number "1")]),
        ("a", .object [("x", .object [("q", .number "1")])]),
        ("b", .object [("x", .object [("q", .number "1")])])]) = .ok root ∧
      root.declarations "Root" .csharp = .ok
        [⟨"Root", [⟨"x", .named "X", false⟩, ⟨"a", .named "A", false⟩, ⟨"b", .named "B", false⟩]⟩,
          ⟨"B", [⟨"x", .named "BX", false⟩]⟩, ⟨"BX", [⟨"q", .value .int32, false⟩]⟩,
          ⟨"A", [⟨"x", .named "AX", false⟩]⟩, ⟨"AX", [⟨"q", .value .int32, false⟩]⟩,
          ⟨"X", [⟨"p", .value .int32, false⟩]⟩] ∧
      ¬ ∀ p ∈ root.placements "Root" .csharp, ∀ q ∈ root.placements "Root" .csharp,
        p.base = q.base → p.members = q.members → p.name = q.name :=
  ⟨_, rfl, by decide +kernel, by decide +kernel⟩

end SampleTypes
