import SampleTypes.Proofs.Declaration.Registry
import SampleTypes.Proofs.Naming.Granting
import SampleTypes.Target.Alias

set_option autoImplicit false

/-! # Registering by a table of names

A registry finds a name by looking through its declarations. A ledger keeps a table of the names in
use instead: the name of a declaration leads to its place in the order of registration, and a name
that no nested declaration may take leads nowhere. As long as the table is in order
(`Ledger.Indexed`) a ledger accepts the names that the registry admits, so that both register a
shape under the same name, and registering keeps the table in order.

Candidates are tried until one is accepted. That this comes to an end is shown by trying a limited
number of them only: two more than there are names in the table. -/

namespace SampleTypes

/-- Nested declarations with a table of the names in use. -/
structure Ledger where
  /-- The nested declarations, in the order of their registration. -/
  nested : List Declaration
  /-- The place of the declaration with that name; none for a name that no nested declaration may
      take. -/
  names : AList fun _ : String => Option Nat

namespace Ledger

/-- Put a declaration behind the others and its place into the table. -/
def declare (l : Ledger) (name : String) (members : List Member) : Ledger :=
  ⟨l.nested ++ [⟨name, members⟩], l.names.insert name (some l.nested.length)⟩

/-- Let no nested declaration take the name. -/
def reserve (l : Ledger) (name : String) : Ledger :=
  ⟨l.nested, l.names.insert name none⟩

/-- Whether members may be registered under a name: it is not in use, or leads to a declaration
    with the same members. -/
def accepts (l : Ledger) (members : List Member) (name : String) : Bool :=
  match l.names.lookup name with
  | none => true
  | some (some i) => l.nested[i]?.any fun d => d.members == members
  | some none => false

/-- Register members under a name that is accepted. -/
def enter (l : Ledger) (members : List Member) (name : String) : Ledger :=
  match l.names.lookup name with
  | none => l.declare name members
  | some _ => l

/-- Register members under the first of so many candidates that is accepted. -/
def register? (tries : Nat) (l : Ledger) (owner base : String) (members : List Member) :
    Option (String × Ledger) :=
  let accepted? := (List.range tries).find? fun n =>
    l.accepts members (Registry.candidate owner base n)
  accepted?.map fun n =>
    let name := Registry.candidate owner base n
    (name, l.enter members name)

/-- Reserve the first of so many variants of the root's name that is not in use. -/
def reserveRoot? (tries : Nat) (l : Ledger) (rootName : String) : Option (String × Ledger) :=
  let free? := (List.range tries).find? fun n => Naming.variant "" rootName n ∉ l.names
  free?.map fun n =>
    let name := Naming.variant "" rootName n
    (name, l.reserve name)

/-- The ledger that a document begins with. -/
def opening : (reserved : List String) → Ledger
  | [] => ⟨[], ∅⟩
  | name :: rest => (opening rest).reserve name

/-- The registry that a ledger stands for when these names are taken. -/
def registry (l : Ledger) (taken : List String) : Registry :=
  ⟨taken, l.nested.reverse⟩

/-! ## A table in order -/

theorem getElem?_declare (l : Ledger) (name : String) (members : List Member) (i : Nat)
    (d : Declaration) : (l.declare name members).nested[i]? = some d ↔
      l.nested[i]? = some d ∨ i = l.nested.length ∧ d = ⟨name, members⟩ := by
  rw [declare, List.getElem?_append]
  split
  · next hlt => exact (or_iff_left fun h => hlt.ne h.1).symm
  · next hge =>
    rw [List.getElem?_eq_none (Nat.le_of_not_lt hge), List.getElem?_singleton]
    split
    · next hend => simp [show i = l.nested.length by omega, eq_comm]
    · next hbeyond => simp [show i ≠ l.nested.length by omega]

/-- The table leads from the name of each declaration to its place, and from the taken names
    nowhere. -/
structure Indexed (l : Ledger) (taken : List String) : Prop where
  place_iff : ∀ {name : String} {i : Nat},
    l.names.lookup name = some (some i) ↔ ∃ d, l.nested[i]? = some d ∧ d.name = name
  taken_iff : ∀ {name : String}, l.names.lookup name = some none ↔ name ∈ taken

section Indexed

variable {l : Ledger} {taken : List String} (h : l.Indexed taken) {name : String}

include h

theorem Indexed.name_ne (hname : name ∉ l.names) {d : Declaration} (hd : d ∈ l.nested) :
    d.name ≠ name := by
  rintro rfl
  obtain ⟨i, hi⟩ := List.getElem?_of_mem hd
  rw [← AList.lookup_eq_none, h.place_iff.2 ⟨d, hi, rfl⟩] at hname
  cases hname

theorem Indexed.not_taken (hname : name ∉ l.names) : name ∉ taken := by
  intro htaken
  rw [← AList.lookup_eq_none, h.taken_iff.2 htaken] at hname
  cases hname

theorem Indexed.reserve (hname : ∀ d ∈ l.nested, d.name ≠ name) :
    (l.reserve name).Indexed (name :: taken) where
  place_iff := by
    intro name' i
    rw [Ledger.reserve]
    by_cases heq : name' = name
    · subst heq
      rw [AList.lookup_insert]
      refine iff_of_false (by simp) ?_
      rintro ⟨d, hd, hsame⟩
      exact hname d (List.mem_of_getElem? hd) hsame
    · rw [AList.lookup_insert_ne heq]
      exact h.place_iff
  taken_iff := by
    intro name'
    rw [Ledger.reserve, List.mem_cons]
    by_cases heq : name' = name
    · subst heq
      rw [AList.lookup_insert]
      exact iff_of_true rfl (.inl rfl)
    · rw [AList.lookup_insert_ne heq, h.taken_iff]
      exact (or_iff_right heq).symm

theorem Indexed.declare (hname : name ∉ l.names) (members : List Member) :
    (l.declare name members).Indexed taken where
  place_iff := by
    intro name' i
    simp only [getElem?_declare]
    rw [Ledger.declare]
    by_cases heq : name' = name
    · subst heq
      rw [AList.lookup_insert, Option.some_inj, Option.some_inj]
      constructor
      · rintro rfl
        exact ⟨_, .inr ⟨rfl, rfl⟩, rfl⟩
      · rintro ⟨d, hd | ⟨rfl, -⟩, hsame⟩
        · exact absurd hsame (h.name_ne hname (List.mem_of_getElem? hd))
        · rfl
    · rw [AList.lookup_insert_ne heq, h.place_iff]
      constructor
      · rintro ⟨d, hd, hsame⟩
        exact ⟨d, .inl hd, hsame⟩
      · rintro ⟨d, hd | ⟨-, rfl⟩, hsame⟩
        · exact ⟨d, hd, hsame⟩
        · exact absurd hsame.symm heq
  taken_iff := by
    intro name'
    rw [Ledger.declare]
    by_cases heq : name' = name
    · subst heq
      rw [AList.lookup_insert]
      exact iff_of_false (by simp) (h.not_taken hname)
    · rw [AList.lookup_insert_ne heq, h.taken_iff]

/-! ## The registry of a ledger -/

/-- The declaration that the registry finds is the one that the table leads to. -/
theorem Indexed.find?_eq_some_iff {d : Declaration} : (l.registry taken).find? name = some d ↔
    ∃ i, l.names.lookup name = some (some i) ∧ l.nested[i]? = some d := by
  have hleads : ∀ {d : Declaration}, (l.registry taken).find? name = some d →
      ∃ i, l.names.lookup name = some (some i) ∧ l.nested[i]? = some d := by
    intro d hd
    obtain ⟨hmem, hname⟩ := lookup_some hd
    obtain ⟨i, hi⟩ := List.getElem?_of_mem (List.mem_reverse.1 hmem)
    exact ⟨i, h.place_iff.2 ⟨d, hi, hname⟩, hi⟩
  refine ⟨hleads, ?_⟩
  rintro ⟨i, hlookup, hi⟩
  obtain ⟨d', hi', hname⟩ := h.place_iff.1 hlookup
  obtain rfl := Option.some.inj (hi.symm.trans hi')
  cases hfind : (l.registry taken).find? name with
  | none =>
    refine absurd ?_ (lookup_eq_none_iff.1 hfind)
    exact List.mem_map.2 ⟨d, List.mem_reverse.2 (List.mem_of_getElem? hi), hname⟩
  | some e =>
    obtain ⟨j, hlookup', hj⟩ := hleads hfind
    rw [hlookup, Option.some_inj, Option.some_inj] at hlookup'
    subst hlookup'
    rw [← hj, hi]

theorem Indexed.find?_eq_none (hname : ∀ i, l.names.lookup name ≠ some (some i)) :
    (l.registry taken).find? name = none := by
  rw [Option.eq_none_iff_forall_not_mem]
  intro d hd
  obtain ⟨i, hi, -⟩ := h.find?_eq_some_iff.1 hd
  exact hname i hi

theorem Indexed.lookup_eq_none (hnone : (l.registry taken).find? name = none)
    (hfree : name ∉ taken) : l.names.lookup name = none := by
  cases hlookup : l.names.lookup name with
  | none => rfl
  | some place =>
    cases place with
    | none => exact absurd (h.taken_iff.1 hlookup) hfree
    | some i =>
      obtain ⟨d, hd, -⟩ := h.place_iff.1 hlookup
      rw [h.find?_eq_some_iff.2 ⟨i, hlookup, hd⟩] at hnone
      cases hnone

/-- A ledger accepts the names that the registry admits. -/
theorem Indexed.accepts_eq_admits (members : List Member) :
    l.accepts members name = (l.registry taken).admits members name := by
  cases hlookup : l.names.lookup name with
  | none =>
    have hfind : (l.registry taken).find? name = none := h.find?_eq_none (by simp [hlookup])
    have hfree := h.not_taken (AList.lookup_eq_none.1 hlookup)
    rw [(Registry.admits_of_not_found hfind).2 hfree, accepts, hlookup]
  | some place =>
    cases place with
    | none =>
      have hfind : (l.registry taken).find? name = none := h.find?_eq_none (by simp [hlookup])
      have hrefused : (l.registry taken).admits members name = false := by
        rw [← Bool.not_eq_true, Registry.admits_of_not_found hfind, not_not]
        exact h.taken_iff.1 hlookup
      rw [hrefused, accepts, hlookup]
    | some i =>
      obtain ⟨d, hd, -⟩ := h.place_iff.1 hlookup
      have hfind := h.find?_eq_some_iff.2 ⟨i, hlookup, hd⟩
      rw [Registry.admits, hfind, accepts, hlookup]
      simp [hd]

end Indexed

theorem registry_declare (l : Ledger) (taken : List String) (name : String)
    (members : List Member) : (l.declare name members).registry taken
      = ⟨taken, ⟨name, members⟩ :: l.nested.reverse⟩ := by
  rw [registry, declare, List.reverse_append, List.reverse_singleton, List.singleton_append]

theorem opening_indexed (reserved : List String) :
    (opening reserved).nested = [] ∧ (opening reserved).Indexed reserved := by
  induction reserved with
  | nil => exact ⟨rfl, by simp [opening], by simp [opening]⟩
  | cons name rest ih => exact ⟨ih.1, ih.2.reserve (by simp [ih.1])⟩

/-- Every registry in which names are distinct and not taken, as they are in a sound one, is that of
    a ledger whose table is in order. -/
theorem exists_ledger {taken : List String} {declared : List Declaration}
    (hnodup : (declared.map (·.name)).Nodup) (hfree : ∀ d ∈ declared, d.name ∉ taken) :
    ∃ l : Ledger, l.Indexed taken ∧ l.registry taken = ⟨taken, declared⟩ := by
  induction declared with
  | nil =>
    obtain ⟨hnested, hindexed⟩ := opening_indexed taken
    exact ⟨opening taken, hindexed, by rw [registry, hnested, List.reverse_nil]⟩
  | cons d rest ih =>
    obtain ⟨hd, hrest⟩ := List.forall_mem_cons.1 hfree
    obtain ⟨hnew, hnodup⟩ := List.nodup_cons.1 hnodup
    obtain ⟨l, hindexed, hregistry⟩ := ih hnodup hrest
    have hnone : (l.registry taken).find? d.name = none := by
      rw [hregistry, Registry.find?_eq_lookup, lookup_eq_none_iff]
      exact hnew
    have hname := AList.lookup_eq_none.1 (hindexed.lookup_eq_none hnone hd)
    have hnested : l.nested.reverse = rest := congrArg Registry.declared hregistry
    exact ⟨_, hindexed.declare hname d.members, by rw [registry_declare, hnested]⟩

/-! ## Registering -/

/-- Two more candidates than there are names in the table are enough. -/
theorem exists_accepted (l : Ledger) (owner base : String) (members : List Member) :
    ∃ n < l.names.keys.length + 2,
      l.accepts members (Registry.candidate owner base n) = true := by
  obtain ⟨n, hn, hfree⟩ :=
    Naming.exists_not_mem (Registry.candidate_injective owner base) l.names.keys
  rw [← AList.mem_keys, ← AList.lookup_eq_none] at hfree
  exact ⟨n + 1, by omega, by rw [accepts, hfree]⟩

/-- The candidates are tried up to the first that is accepted. -/
theorem register?_first (l : Ledger) (owner base : String) (members : List Member) :
    ∃ n, l.accepts members (Registry.candidate owner base n) = true ∧
      (∀ k < n, l.accepts members (Registry.candidate owner base k) = false) ∧
      l.register? (l.names.keys.length + 2) owner base members =
        some (Registry.candidate owner base n,
          l.enter members (Registry.candidate owner base n)) := by
  obtain ⟨n, -, hfind, haccepts, hfirst⟩ :=
    Naming.exists_find?_range (l.exists_accepted owner base members)
  exact ⟨n, haccepts, hfirst, by rw [register?, hfind, Option.map_some]⟩

/-- What registering members under a name does to a ledger: the name is that of a declaration with
    these members, and either nothing has changed or this declaration stands behind the others. -/
structure Registered (l : Ledger) (taken : List String) (members : List Member) (name : String)
    (l' : Ledger) : Prop where
  not_taken : name ∉ taken
  leads : ∃ i d, l'.names.lookup name = some (some i) ∧ l'.nested[i]? = some d ∧
    d.members = members
  grows : l' = l ∨ l'.nested = l.nested ++ [⟨name, members⟩]
  indexed : l'.Indexed taken

section Indexed

variable {l : Ledger} {taken : List String} (h : l.Indexed taken) {name : String}

include h

theorem Indexed.registered_of_found {members : List Member} {d : Declaration}
    (hd : (l.registry taken).find? name = some d) (hmembers : d.members = members) :
    l.enter members name = l ∧ Registered l taken members name l := by
  obtain ⟨i, hlookup, hi⟩ := h.find?_eq_some_iff.1 hd
  refine ⟨by rw [enter, hlookup], ?_, ⟨i, d, hlookup, hi, hmembers⟩, .inl rfl, h⟩
  intro htaken
  rw [h.taken_iff.2 htaken] at hlookup
  cases hlookup

theorem Indexed.registered_of_free (members : List Member)
    (hnone : (l.registry taken).find? name = none) (hfree : name ∉ taken) :
    l.enter members name = l.declare name members ∧
      Registered l taken members name (l.declare name members) := by
  have hlookup := h.lookup_eq_none hnone hfree
  refine ⟨by rw [enter, hlookup], hfree, ⟨l.nested.length, ⟨name, members⟩, ?_, ?_, rfl⟩,
    .inr rfl, h.declare (AList.lookup_eq_none.1 hlookup) members⟩
  · exact AList.lookup_insert l.names
  · exact List.getElem?_concat_length

/-- The first candidate that a ledger accepts is the name that its registry gives, and registering
    it does the same to both. -/
theorem Indexed.register?_registered (owner base : String) (members : List Member) :
    ∃ name l', l.register? (l.names.keys.length + 2) owner base members = some (name, l') ∧
      Registered l taken members name l' ∧
      (l.registry taken).register owner base members = (name, l'.registry taken) := by
  obtain ⟨n, haccepts, hfirst, heq⟩ := l.register?_first owner base members
  have hname : (l.registry taken).nameFor owner base members
      = Registry.candidate owner base n := by
    refine Registry.nameFor_eq_of_first ?_ fun k hk => ?_
    · rw [← h.accepts_eq_admits, haccepts]
    · rw [← h.accepts_eq_admits, hfirst k hk]
  rw [← hname] at heq
  rcases (l.registry taken).register_cases owner base members with
    ⟨d, hd, hmembers, hregister⟩ | ⟨hnone, hfree, hregister⟩
  · obtain ⟨henter, hregistered⟩ := h.registered_of_found hd hmembers
    rw [henter] at heq
    exact ⟨_, l, heq, hregistered, hregister⟩
  · obtain ⟨henter, hregistered⟩ := h.registered_of_free members hnone hfree
    rw [henter] at heq
    exact ⟨_, _, heq, hregistered, by rw [hregister, registry_declare]; rfl⟩

end Indexed

/-! ## The name of the root -/

/-- One more variant than there are names in the table is enough, and the first that is free is
    the fresh name. -/
theorem reserveRoot?_eq (l : Ledger) (rootName : String) :
    l.reserveRoot? (l.names.keys.length + 1) rootName =
      some (Naming.fresh l.names.keys "" rootName,
        l.reserve (Naming.fresh l.names.keys "" rootName)) := by
  obtain ⟨n, hn, heq, hfree, hpassed⟩ := Naming.fresh_eq_variant l.names.keys "" rootName
  have hfind : ((List.range (l.names.keys.length + 1)).find? fun n =>
      decide (Naming.variant "" rootName n ∉ l.names)) = some n := by
    refine List.find?_range_eq_some.2 ⟨?_, List.mem_range.2 (by omega), fun k hk => ?_⟩
    · rw [← AList.mem_keys] at hfree
      exact decide_eq_true hfree
    · have hused := AList.mem_keys.2 (hpassed k hk)
      simpa using hused
  rw [reserveRoot?, hfind, heq]
  rfl

/-- In a ledger whose table is in order, registering members comes to an end after two more
    candidates than there are names at most. Their name is not taken and leads to a declaration
    with these members; at most this declaration has been put behind the others, and the table is
    in order again. A registry registers them likewise. The search for the root's name ends with
    a name that was not in use. -/
theorem registering_ends {l : Ledger} {taken : List String} (h : l.Indexed taken) :
    (∀ owner base members, ∃ name l',
      l.register? (l.names.keys.length + 2) owner base members = some (name, l') ∧
      Registered l taken members name l' ∧
      (l.registry taken).register owner base members = (name, l'.registry taken)) ∧
    ∀ rootName, ∃ name l',
      l.reserveRoot? (l.names.keys.length + 1) rootName = some (name, l') ∧
      name = Naming.fresh l.names.keys "" rootName ∧ name ∉ l.names ∧
      l'.nested = l.nested ∧ l'.Indexed (name :: taken) := by
  refine ⟨h.register?_registered, fun rootName => ?_⟩
  have hfree := Naming.fresh_not_mem l.names.keys "" rootName
  rw [← AList.mem_keys] at hfree
  exact ⟨_, _, l.reserveRoot?_eq rootName, rfl, hfree, rfl, h.reserve fun d => h.name_ne hfree⟩

/-- Where `Time` is the name of another shape and `DateTime` is reserved, a `Time` inside `Date` is
    numbered. -/
theorem registering_ends_dateTime :
    ∃ l : Ledger, l.Indexed ("Guid2" :: Language.csharp.reservedNames) ∧
      l.nested = [⟨"Time", [⟨"a", .value .bool, false⟩]⟩] ∧
      ∃ l', l.register? (l.names.keys.length + 2) "Date" "Time" [⟨"b", .value .bool, false⟩]
          = some ("DateTime2", l') ∧
        Registered l ("Guid2" :: Language.csharp.reservedNames) [⟨"b", .value .bool, false⟩]
          "DateTime2" l' := by
  let root := (opening Language.csharp.reservedNames).reserve "Guid2"
  let l := root.declare "Time" [⟨"a", .value .bool, false⟩]
  have hroot : root.Indexed ("Guid2" :: Language.csharp.reservedNames) :=
    (opening_indexed Language.csharp.reservedNames).2.reserve (by decide +kernel)
  have hindexed : l.Indexed ("Guid2" :: Language.csharp.reservedNames) :=
    hroot.declare (by decide +kernel) _
  have hname : (l.register? (l.names.keys.length + 2) "Date" "Time"
      [⟨"b", .value .bool, false⟩]).map (·.1) = some "DateTime2" := by
    decide +kernel
  obtain ⟨name, l', heq, hregistered, -⟩ :=
    (registering_ends hindexed).1 "Date" "Time" [⟨"b", .value .bool, false⟩]
  rw [heq] at hname
  obtain rfl := Option.some.inj hname
  exact ⟨l, hindexed, rfl, l', heq, hregistered⟩

end Ledger

end SampleTypes
