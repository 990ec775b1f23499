import SampleTypes.Declaration.Registry
import SampleTypes.Proofs.Naming.Numbered

set_option autoImplicit false

/-! # What registering a shape does

`register_cases` says all of it: the shape gets the first candidate that the registry admits, and
either a declaration of that name with the same members is there already or one is put in front.
From it follow the facts that later proofs use: a registry only grows (`Extends`), a name that
was refused stays refused, and one that was given keeps its members. -/

namespace SampleTypes

/-- The declaration of a name in a list of declarations. -/
def lookup (declarations : List Declaration) (name : String) : Option Declaration :=
  declarations.find? fun d => d.name == name

theorem lookup_cons (d : Declaration) (rest : List Declaration) (name : String) :
    lookup (d :: rest) name = if d.name = name then some d else lookup rest name := by
  rw [lookup, List.find?_cons]
  by_cases h : d.name = name
  · rw [if_pos h, h, beq_self_eq_true]
  · rw [if_neg h, beq_eq_false_iff_ne.2 h]
    rfl

theorem lookup_eq_none_iff {declarations : List Declaration} {name : String} :
    lookup declarations name = none ↔ name ∉ declarations.map (·.name) := by
  simp [lookup, List.find?_eq_none]

theorem lookup_some {declarations : List Declaration} {name : String} {d : Declaration}
    (h : lookup declarations name = some d) : d ∈ declarations ∧ d.name = name :=
  ⟨List.mem_of_find?_eq_some h, by simpa using List.find?_some h⟩

namespace Registry

theorem find?_eq_lookup (r : Registry) (name : String) : r.find? name = lookup r.declared name :=
  rfl

/-! ## Candidates -/

/-- The number at the end of a candidate, which the first two have none of. -/
def numeral (n : Nat) : String :=
  if n ≤ 1 then "" else toString n

theorem numeral_injOn {m n : Nat} (hm : 1 ≤ m) (hn : 1 ≤ n) (h : numeral m = numeral n) :
    m = n := by
  unfold numeral at h
  split_ifs at h
  · omega
  · exact absurd h.symm (Naming.toString_ne_empty n)
  · exact absurd h (Naming.toString_ne_empty m)
  · exact Nat.repr_injective h

theorem isDigit_of_mem_numeral {n : Nat} {c : Char} (h : c ∈ (numeral n).toList) :
    c.isDigit = true := by
  unfold numeral at h
  split_ifs at h
  · simp at h
  · exact Naming.isDigit_of_mem_toString h

theorem candidate_eq {owner base : String} {n : Nat} (hn : 1 ≤ n) :
    candidate owner base n = owner ++ base ++ numeral n := by
  rcases n with _ | _ | n
  · omega
  · rw [candidate, numeral, if_pos (by omega), String.append_empty]
  · rw [candidate, numeral, if_neg (by omega)]
    all_goals omega

theorem candidate_injective (owner base : String) :
    Function.Injective fun n => candidate owner base (n + 1) := by
  intro m n h
  simp only [candidate_eq (Nat.le_add_left 1 _), String.append_right_inj] at h
  have := numeral_injOn (by omega) (by omega) h
  omega

/-- Candidates that carry their owner tell it. -/
theorem owner_eq_of_candidate_eq {owner owner' base : String}
    (hbase : ∃ c ∈ base.toList, c.isDigit = false) {m n : Nat} (hm : 1 ≤ m) (hn : 1 ≤ n)
    (h : candidate owner base m = candidate owner' base n) : owner = owner' := by
  rw [candidate_eq hm, candidate_eq hn] at h
  have hlist := congrArg String.toList h
  simp only [String.toList_append] at hlist
  exact String.toList_injective (Naming.append_digits_inj hbase
    (fun c hc => isDigit_of_mem_numeral hc) (fun c hc => isDigit_of_mem_numeral hc) hlist).1

/-! ## The name of a shape -/

theorem admits_of_find {r : Registry} {members : List Member} {name : String} {d : Declaration}
    (h : r.find? name = some d) : r.admits members name = true ↔ d.members = members := by
  rw [admits, h]
  exact beq_iff_eq

theorem admits_of_not_found {r : Registry} {members : List Member} {name : String}
    (h : r.find? name = none) : r.admits members name = true ↔ name ∉ r.taken := by
  rw [admits, h]
  simp

/-- Two more candidates than there are names are enough. -/
theorem exists_admitted (r : Registry) (owner base : String) (members : List Member) :
    ∃ n < r.names.length + 2, r.admits members (candidate owner base n) = true := by
  -- The first two candidates may be one name; from the second on they are distinct.
  obtain ⟨n, hn, hfree⟩ := Naming.exists_not_mem (candidate_injective owner base) r.names
  rw [names, List.mem_append, not_or] at hfree
  refine ⟨n + 1, by omega, ?_⟩
  rw [admits_of_not_found]
  · exact hfree.2
  · rw [find?_eq_lookup, lookup_eq_none_iff]
    exact hfree.1

/-- The name of a shape is the first candidate that is admitted. -/
theorem nameFor_spec (r : Registry) (owner base : String) (members : List Member) :
    ∃ n < r.names.length + 2, r.nameFor owner base members = candidate owner base n ∧
      r.admits members (candidate owner base n) = true ∧
      ∀ k < n, r.admits members (candidate owner base k) = false := by
  obtain ⟨n, hn, hfind, hadmits, hfirst⟩ :=
    Naming.exists_find?_range (r.exists_admitted owner base members)
  exact ⟨n, hn, by rw [nameFor, hfind, Option.getD_some], hadmits, hfirst⟩

theorem admits_nameFor (r : Registry) (owner base : String) (members : List Member) :
    r.admits members (r.nameFor owner base members) = true := by
  obtain ⟨n, -, hname, hadmits, -⟩ := r.nameFor_spec owner base members
  rw [hname, hadmits]

theorem nameFor_eq_of_first {r : Registry} {owner base : String} {members : List Member} {n : Nat}
    (hadmits : r.admits members (candidate owner base n) = true)
    (hfirst : ∀ k < n, r.admits members (candidate owner base k) = false) :
    r.nameFor owner base members = candidate owner base n := by
  obtain ⟨k, -, hname, hk, hkfirst⟩ := r.nameFor_spec owner base members
  rcases Nat.lt_trichotomy k n with hlt | rfl | hlt
  · rw [hfirst k hlt] at hk; cases hk
  · exact hname
  · rw [hkfirst n hlt] at hadmits; cases hadmits

/-! ## Registering -/

/-- Registering a shape finds it declared under its name, or declares it under a free one. -/
theorem register_cases (r : Registry) (owner base : String) (members : List Member) :
    (∃ d, r.find? (r.nameFor owner base members) = some d ∧ d.members = members ∧
        r.register owner base members = (r.nameFor owner base members, r)) ∨
      (r.find? (r.nameFor owner base members) = none ∧
        r.nameFor owner base members ∉ r.taken ∧
        r.register owner base members = (r.nameFor owner base members,
          { r with declared := ⟨r.nameFor owner base members, members⟩ :: r.declared })) := by
  have hadmits := r.admits_nameFor owner base members
  cases hfind : r.find? (r.nameFor owner base members) with
  | some d =>
    refine .inl ⟨d, rfl, (admits_of_find hfind).1 hadmits, ?_⟩
    simp only [register, hfind]
  | none =>
    refine .inr ⟨rfl, (admits_of_not_found hfind).1 hadmits, ?_⟩
    simp only [register, hfind]

theorem register_fst (r : Registry) (owner base : String) (members : List Member) :
    (r.register owner base members).1 = r.nameFor owner base members := by
  rcases r.register_cases owner base members with ⟨_, -, -, h⟩ | ⟨-, -, h⟩ <;> rw [h]

/-- The name that a shape is registered under is that of a declaration with its members. -/
theorem find?_register (r : Registry) (owner base : String) (members : List Member) :
    (r.register owner base members).2.find? (r.register owner base members).1
      = some ⟨(r.register owner base members).1, members⟩ := by
  rcases r.register_cases owner base members with ⟨d, hd, hmembers, h⟩ | ⟨hnone, -, h⟩
  · obtain ⟨name, found⟩ := d
    have hname : name = r.nameFor owner base members := (lookup_some hd).2
    have hfound : found = members := hmembers
    rw [h]
    show r.find? (r.nameFor owner base members) = some ⟨r.nameFor owner base members, members⟩
    rw [hd, hname, hfound]
  · rw [h, find?_eq_lookup, lookup_cons, if_pos rfl]

/-! ## Growing -/

/-- `r'` extends `r`: the declarations of `r` keep their names, and what may not be declared in
    `r` is not declared in `r'`. -/
structure Extends (r r' : Registry) : Prop where
  taken_eq : r'.taken = r.taken
  find : ∀ {name : String} {d : Declaration}, r.find? name = some d → r'.find? name = some d
  find_taken : ∀ {name : String}, name ∈ r.taken → r.find? name = none → r'.find? name = none

theorem Extends.refl (r : Registry) : Extends r r :=
  ⟨rfl, id, fun _ h => h⟩

theorem Extends.trans {r r' r'' : Registry} (h : Extends r r') (h' : Extends r' r'') :
    Extends r r'' where
  taken_eq := h'.taken_eq.trans h.taken_eq
  find := fun hd => h'.find (h.find hd)
  find_taken := fun htaken hnone =>
    h'.find_taken (h.taken_eq ▸ htaken) (h.find_taken htaken hnone)

theorem register_extends (r : Registry) (owner base : String) (members : List Member) :
    Extends r (r.register owner base members).2 := by
  rcases r.register_cases owner base members with ⟨d, -, -, h⟩ | ⟨hnone, hfree, h⟩
  · rw [h]
    exact .refl r
  · rw [h]
    -- The new declaration stands in front and hides none, since its name was not found.
    refine ⟨rfl, ?_, ?_⟩
    · intro name d hd
      rw [find?_eq_lookup, lookup_cons, if_neg]
      · exact hd
      · rintro rfl
        rw [hnone] at hd
        cases hd
    · intro name htaken hd
      rw [find?_eq_lookup, lookup_cons, if_neg]
      · exact hd
      · rintro rfl
        exact hfree htaken

/-- A name that is refused to a shape stays refused. -/
theorem Extends.refused {r r' : Registry} (h : Extends r r') {members : List Member}
    {name : String} (hrefused : r.admits members name = false) :
    r'.admits members name = false := by
  rw [← Bool.not_eq_true] at hrefused ⊢
  cases hfind : r.find? name with
  | some d =>
    rw [admits_of_find hfind] at hrefused
    rwa [admits_of_find (h.find hfind)]
  | none =>
    rw [admits_of_not_found hfind, not_not] at hrefused
    rw [admits_of_not_found (h.find_taken hrefused hfind), not_not, h.taken_eq]
    exact hrefused

end Registry

/-! ## Declaring -/

namespace Shape

theorem declare_list (owner key : String) (item : Shape) (nullable : Bool) (r : Registry) :
    (Shape.list item nullable).declare owner key r
      = (.list (item.declare owner key r).1 nullable, (item.declare owner key r).2) := by
  rw [declare]

theorem declare_record (owner key : String) (slots : List (String × Shape × Bool))
    (r : Registry) :
    (Shape.record slots).declare owner key r =
      let base := Naming.typeIdentifier key
      let inner := declareSlots base slots r
      let registered := inner.2.register owner base inner.1
      (.named registered.1, registered.2) := by
  rw [declare]

theorem declareSlots_cons (owner key : String) (shape : Shape) (nullable : Bool)
    (rest : List (String × Shape × Bool)) (r : Registry) :
    declareSlots owner ((key, shape, nullable) :: rest) r =
      let declared := shape.declare owner key r
      let others := declareSlots owner rest declared.2
      (⟨key, declared.1, nullable⟩ :: others.1, others.2) := by
  rw [declareSlots]

theorem declareSlots_keys (owner : String) (slots : List (String × Shape × Bool)) (r : Registry) :
    (declareSlots owner slots r).1.map (·.key) = slots.map (·.1) := by
  induction slots generalizing r with
  | nil => rw [declareSlots]; rfl
  | cons slot rest ih =>
    obtain ⟨key, shape, nullable⟩ := slot
    rw [declareSlots_cons, List.map_cons, List.map_cons, ih]

theorem declareSlots_ne_nil (owner : String) {slots : List (String × Shape × Bool)}
    (h : slots ≠ []) (r : Registry) : (declareSlots owner slots r).1 ≠ [] := by
  intro hnil
  have hkeys := declareSlots_keys owner slots r
  rw [hnil] at hkeys
  exact h (List.map_eq_nil_iff.1 hkeys.symm)

mutual

/-- Declaring a shape only extends the registry. -/
theorem declare_extends (owner key : String) :
    ∀ (shape : Shape) (r : Registry), r.Extends (shape.declare owner key r).2
  | .any, r => by rw [declare]; exact .refl r
  | .scalar _, r => by rw [declare]; exact .refl r
  | .list item _, r => by
    rw [declare_list]
    exact declare_extends owner key item r
  | .record slots, r => by
    rw [declare_record]
    exact (declareSlots_extends _ slots r).trans (Registry.register_extends ..)

theorem declareSlots_extends (owner : String) :
    ∀ (slots : List (String × Shape × Bool)) (r : Registry),
      r.Extends (declareSlots owner slots r).2
  | [], r => by rw [declareSlots]; exact .refl r
  | (key, shape, _) :: rest, r => by
    rw [declareSlots_cons]
    exact (declare_extends owner key shape r).trans (declareSlots_extends owner rest _)

end

end Shape

end SampleTypes
