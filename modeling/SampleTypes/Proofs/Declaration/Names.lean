import SampleTypes.Proofs.Declaration.References
import SampleTypes.Proofs.Declaration.Scalars
import SampleTypes.Proofs.Naming.Wordlike

set_option autoImplicit false

/-! # Characters of declaration names

The name of a declaration is an identifier made from a key or from the name of the document, perhaps
behind that of its owner and in front of a number. So it has word characters only, and so has every
name that a member refers to. -/

namespace SampleTypes

open Naming (Wordlike)

/-! ## The registry -/

namespace Registry

theorem wordlike_candidate {owner base : String} (howner : Wordlike owner) (hbase : Wordlike base)
    (n : Nat) : Wordlike (candidate owner base n) := by
  cases n with
  | zero => exact hbase
  | succ n =>
    rw [candidate_eq (Nat.le_add_left 1 n)]
    exact (howner.append hbase.chars).append fun c hc =>
      .inl (Naming.isAlphanumeric_of_isDigit (isDigit_of_mem_numeral hc))

/-- A class of names that has the identifiers of all keys, and with an owner and a base all their
    candidates. -/
structure NameClass (P : String → Prop) : Prop where
  ofKey : ∀ key, P (Naming.typeIdentifier key)
  candidate : ∀ {owner base : String}, P owner → P base → ∀ n, P (candidate owner base n)

theorem wordlike_nameClass : NameClass Wordlike where
  ofKey := Naming.wordlike_typeIdentifier
  candidate := wordlike_candidate

/-- Names that are put together begin as the one in front does, which is that of a type. -/
theorem capitalized_nameClass :
    NameClass fun name => Wordlike name ∧ Naming.beginsWith Char.isLower name = false where
  ofKey := fun key => ⟨Naming.wordlike_typeIdentifier key, Naming.isLower_typeIdentifier key⟩
  candidate := by
    rintro owner base ⟨howner, hlower⟩ ⟨hbase, hlowerBase⟩ n
    refine ⟨wordlike_candidate howner hbase n, ?_⟩
    cases n with
    | zero => exact hlowerBase
    | succ n =>
      rw [candidate_eq (Nat.le_add_left 1 n), String.append_assoc, howner.beginsWith_append, hlower]

variable {P : String → Prop}

theorem NameClass.register (hP : NameClass P) {r : Registry} (h : ∀ d ∈ r.declared, P d.name)
    {owner base : String} (howner : P owner) (hbase : P base) (members : List Member) :
    ∀ d ∈ (r.register owner base members).2.declared, P d.name := by
  obtain ⟨n, -, hname, -⟩ := r.nameFor_spec owner base members
  rcases r.register_cases owner base members with ⟨d, -, -, heq⟩ | ⟨-, -, heq⟩
  · rw [heq]
    exact h
  · rw [heq]
    refine List.forall_mem_cons.2 ⟨?_, h⟩
    rw [hname]
    exact hP.candidate howner hbase n

/-! ## Declaring -/

mutual

/-- Names are put together from the owner's and from that of the key. -/
theorem NameClass.declare (hP : NameClass P) {owner : String} (howner : P owner) (key : String) :
    ∀ (shape : Shape) (r : Registry), (∀ d ∈ r.declared, P d.name) →
      ∀ d ∈ (shape.declare owner key r).2.declared, P d.name
  | .any, r, h => by
    rw [Shape.declare]
    exact h
  | .scalar _, r, h => by
    rw [Shape.declare]
    exact h
  | .list item _, r, h => by
    rw [Shape.declare_list]
    exact hP.declare howner key item r h
  | .record slots, r, h => by
    rw [Shape.declare_record]
    have hbase := hP.ofKey key
    exact hP.register (hP.declareSlots hbase slots r h) howner hbase _

theorem NameClass.declareSlots (hP : NameClass P) {owner : String} (howner : P owner) :
    ∀ (slots : List (String × Shape × Bool)) (r : Registry), (∀ d ∈ r.declared, P d.name) →
      ∀ d ∈ (Shape.declareSlots owner slots r).2.declared, P d.name
  | [], r, h => by
    rw [Shape.declareSlots]
    exact h
  | (key, shape, _) :: rest, r, h => by
    rw [Shape.declareSlots_cons]
    exact hP.declareSlots howner rest _ (hP.declare howner key shape r h)

end

end Registry

/-! ## The declarations of a document -/

theorem exists_root_of_declarationsFor {rootName : String} {language : Language}
    {document : Json.Value} {declarations : List Declaration}
    (h : declarationsFor rootName language document = .ok declarations) :
    ∃ root slots, Property.root document = .ok root ∧ rootMembers root = .ok slots ∧
      declarations = declarationsOf rootName language slots := by
  unfold declarationsFor Property.declarations at h
  split at h
  · cases h
  · next root hroot =>
    split at h
    · next slots hslots =>
      cases h
      exact ⟨root, slots, hroot, hslots, rfl⟩
    · cases h

theorem Registry.NameClass.declarationsFor {P : String → Prop} (hP : NameClass P)
    {rootName : String} {language : Language} {document : Json.Value}
    {declarations : List Declaration}
    (hname : P (Naming.fresh language.reservedNames "" rootName))
    (h : declarationsFor rootName language document = .ok declarations) :
    ∀ d ∈ declarations, P d.name := by
  obtain ⟨root, slots, -, -, rfl⟩ := exists_root_of_declarationsFor h
  by_cases hne : slots = []
  · subst hne
    rw [declarationsOf_nil]
    exact fun d hd => absurd hd List.not_mem_nil
  · rw [declarationsOf_eq rootName language hne]
    refine List.forall_mem_cons.2 ⟨hname, hP.declareSlots hname slots _ ?_⟩
    exact fun d hd => absurd hd List.not_mem_nil

theorem declarationsFor_wordlike {rootName : String} (hname : Wordlike rootName)
    {language : Language} {document : Json.Value} {declarations : List Declaration}
    (h : declarationsFor rootName language document = .ok declarations) :
    ∀ d ∈ declarations, Wordlike d.name :=
  Registry.wordlike_nameClass.declarationsFor (hname.fresh (by simp) language.reservedNames) h

/-- No declaration bears a reserved name: the root gives way to them, and the registry holds them
    as taken. -/
theorem declarationsFor_not_reserved {rootName : String} {language : Language}
    {document : Json.Value} {declarations : List Declaration}
    (h : declarationsFor rootName language document = .ok declarations) :
    ∀ d ∈ declarations, d.name ∉ language.reservedNames := by
  obtain ⟨root, slots, -, hslots, rfl⟩ := exists_root_of_declarationsFor h
  by_cases hne : slots = []
  · subst hne
    rw [declarationsOf_nil]
    exact fun d hd => absurd hd List.not_mem_nil
  · rw [declarationsOf_eq rootName language hne]
    obtain ⟨hsound, -⟩ := Shape.declareSlots_sound
      (Naming.fresh language.reservedNames "" rootName) slots (.initial rootName language)
      (Registry.sound_of_nil _) (rootMembers_proper hslots).2
    have hext := Shape.declareSlots_extends
      (Naming.fresh language.reservedNames "" rootName) slots (.initial rootName language)
    refine List.forall_mem_cons.2 ⟨Naming.fresh_not_mem _ _ _, ?_⟩
    intro d hd hreserved
    refine hsound.not_taken d hd ?_
    rw [hext.taken_eq]
    exact List.mem_cons_of_mem _ hreserved

/-- Every declaration has members, and refers to later ones only. -/
theorem declarationsFor_referBack {rootName : String} {language : Language}
    {document : Json.Value} {declarations : List Declaration}
    (h : declarationsFor rootName language document = .ok declarations) :
    ReferBack declarations ∧ ∀ d ∈ declarations, d.members ≠ [] := by
  obtain ⟨root, slots, -, hslots, rfl⟩ := exists_root_of_declarationsFor h
  by_cases hne : slots = []
  · subst hne
    rw [declarationsOf_nil]
    exact ⟨trivial, fun d hd => absurd hd List.not_mem_nil⟩
  · rw [declarationsOf_eq rootName language hne]
    obtain ⟨hsound, hrefs⟩ := Shape.declareSlots_sound
      (Naming.fresh language.reservedNames "" rootName) slots (.initial rootName language)
      (Registry.sound_of_nil _) (rootMembers_proper hslots).2
    constructor
    · exact .cons hrefs hsound.referBack
    · exact List.forall_mem_cons.2 ⟨Shape.declareSlots_ne_nil _ hne _, hsound.members_ne_nil⟩

/-- What members refer to are names of declarations. -/
theorem exists_declaration_of_reference {rootName : String} {language : Language}
    {document : Json.Value} {declarations : List Declaration}
    (h : declarationsFor rootName language document = .ok declarations) {d : Declaration}
    (hd : d ∈ declarations) {name : String} (hname : name ∈ references d.members) :
    ∃ e ∈ declarations, e.name = name := by
  obtain ⟨p, hp⟩ := List.getElem?_of_mem hd
  obtain ⟨q, -, hq⟩ := (declarationsFor_referBack h).1.exists_later hp hname
  exact List.mem_map.1 (List.mem_of_getElem? hq)

theorem references_wordlike {rootName : String} (hname : Wordlike rootName) {language : Language}
    {document : Json.Value} {declarations : List Declaration}
    (h : declarationsFor rootName language document = .ok declarations) :
    ∀ d ∈ declarations, ∀ name ∈ references d.members, Wordlike name := by
  intro d hd name hreference
  obtain ⟨e, he, rfl⟩ := exists_declaration_of_reference h hd hreference
  exact declarationsFor_wordlike hname h e he

end SampleTypes
