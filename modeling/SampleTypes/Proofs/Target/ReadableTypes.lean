import SampleTypes.Proofs.Declaration.Names
import SampleTypes.Proofs.Target.Spelling

set_option autoImplicit false

/-! # C# types that can be read back

A spelling in C# is a word with `?` and `[]` behind it, in the order in which the marks of its items
and its lists come from the inside to the outside. So it is read from its end (`readBack`), and the
word that is left in front is told by whether it is one of the aliases: the names of declarations
begin with no small letter, and all aliases that begin with a capital are reserved. -/

namespace SampleTypes.CSharp

open Naming (Wordlike beginsWith)
open SampleTypes.Unicode

/-! ## Names and types -/

/-- A name that a declaration may bear beside the keywords of C# and the types of its library. -/
structure IsTypeName (name : String) : Prop where
  wordlike : Wordlike name
  not_lower : beginsWith Char.isLower name = false
  not_reserved : name ∉ Language.csharp.reservedNames

/-- Whether the value types in a type are those of scalars, and the names in it those of
    declarations. -/
def IsType : TypeExpr → Prop
  | .any => True
  | .value type => type.isScalar = true
  | .named name => IsTypeName name
  | .list item _ => IsType item

/-- The types of scalars. -/
def scalarTypes : List ValueType :=
  [.bool, .text, .uuid, .dateTime, .offsetDateTime, .timeSpan, .int32, .uint32, .int64, .uint64,
    .float32, .float64, .decimal]

theorem mem_scalarTypes {type : ValueType} (h : type.isScalar = true) : type ∈ scalarTypes := by
  cases type <;> first | decide | cases h

/-! ## Words -/

/-- The type that a single word spells. -/
def typeOfWord (word : String) : TypeExpr :=
  if csharpAlias? .object = some word then .any
  else match scalarTypes.find? fun type => csharpAlias? type == some word with
    | some type => .value type
    | none => .named word

theorem typeOfWord_alias :
    ∀ type ∈ scalarTypes, ∀ word ∈ csharpAlias? type, typeOfWord word = .value type := by
  decide +kernel

theorem alias_letters : ∀ type ∈ .object :: scalarTypes, ∀ word ∈ csharpAlias? type,
    word ≠ "" ∧ word.toList.all Char.isAlpha = true := by
  decide +kernel

/-- The aliases that begin with a capital are reserved. -/
theorem alias_lower_or_reserved : ∀ type ∈ .object :: scalarTypes, ∀ word ∈ csharpAlias? type,
    beginsWith Char.isLower word = true ∨ word ∈ Language.csharp.reservedNames := by
  decide +kernel

theorem wordlike_alias {type : ValueType} (htype : type ∈ .object :: scalarTypes) {word : String}
    (h : csharpAlias? type = some word) : Wordlike word where
  ne_empty := (alias_letters type htype word h).1
  chars := fun c hc =>
    .inl (isAlphanumeric_of_isAlpha (List.all_eq_true.1 (alias_letters type htype word h).2 c hc))

/-- The name of a declaration is no alias. -/
theorem IsTypeName.typeOfWord {name : String} (h : IsTypeName name) :
    typeOfWord name = .named name := by
  have hnone : ∀ type ∈ .object :: scalarTypes, csharpAlias? type ≠ some name := by
    intro type htype halias
    rcases alias_lower_or_reserved type htype name halias with hlower | hreserved
    · rw [h.not_lower] at hlower
      cases hlower
    · exact h.not_reserved hreserved
  have hfind : (scalarTypes.find? fun type => csharpAlias? type == some name) = none := by
    rw [List.find?_eq_none]
    intro type htype
    rw [beq_iff_eq]
    exact hnone type (List.mem_cons_of_mem _ htype)
  rw [CSharp.typeOfWord, if_neg (hnone .object List.mem_cons_self), hfind]

/-! ## Reading back -/

/-- Read the characters of a spelling from the last one on. `marked` is whether a mark stands
    behind them. -/
def readBack : (marked : Bool) → List Char → TypeExpr × Bool
  | _, '?' :: rest => readBack true rest
  | marked, ']' :: '[' :: rest => (.list (readBack false rest).1 (readBack false rest).2, marked)
  | marked, word => (typeOfWord (String.ofList word.reverse), marked)

theorem readBack_word {word : String} (h : Wordlike word) (marked : Bool) :
    readBack marked word.toList.reverse = (typeOfWord word, marked) := by
  have hmark : '?' ∉ word.toList := h.not_mem (by decide +kernel) (by decide)
  have hbracket : ']' ∉ word.toList := h.not_mem (by decide +kernel) (by decide)
  rw [readBack]
  · rw [List.reverse_reverse, String.ofList_toList]
  · intro rest hrest
    exact hmark (List.mem_reverse.1 (hrest ▸ List.mem_cons_self))
  · intro rest hrest
    exact hbracket (List.mem_reverse.1 (hrest ▸ List.mem_cons_self))

theorem readBack_listOf (item : String) (marked : Bool) :
    readBack marked (Language.csharp.listOf item).toList.reverse =
      (.list (readBack false item.toList.reverse).1 (readBack false item.toList.reverse).2,
        marked) := by
  rw [Language.listOf, String.toList_append, List.reverse_append]
  rfl

/-- A mark that is read belongs to what stands in front of it. -/
theorem readBack_mark {spelling : String} {type : TypeExpr}
    (h : ∀ marked, readBack marked spelling.toList.reverse = (type, marked)) (nullable : Bool) :
    readBack false (Language.csharp.mark nullable spelling).toList.reverse = (type, nullable) := by
  cases nullable with
  | false => exact h false
  | true =>
    rw [Language.mark, if_pos rfl, Language.optional, String.toList_append, List.reverse_append]
    exact h true

/-- A type is read back from its spelling. -/
theorem readBack_spell {type : TypeExpr} (h : IsType type) {spelling : String}
    (hspelling : type.spell .csharp = .ok spelling) (marked : Bool) :
    readBack marked spelling.toList.reverse = (type, marked) := by
  induction type generalizing spelling marked with
  | any =>
    obtain rfl : "object" = spelling := Except.ok.inj hspelling
    exact readBack_word (wordlike_alias List.mem_cons_self rfl) marked
  | value type =>
    have htype := mem_scalarTypes h
    rw [TypeExpr.spell, Language.spellingOf, Language.alias?] at hspelling
    split at hspelling
    · next word halias =>
      obtain rfl := Except.ok.inj hspelling
      rw [readBack_word (wordlike_alias (List.mem_cons_of_mem _ htype) halias) marked,
        typeOfWord_alias type htype _ halias]
    · cases hspelling
  | named name =>
    obtain rfl : name = spelling := Except.ok.inj hspelling
    have hname : IsTypeName name := h
    rw [readBack_word hname.wordlike marked, hname.typeOfWord]
  | list item itemNullable ih =>
    rw [TypeExpr.spell] at hspelling
    split at hspelling
    · next itemSpelling hitem =>
      obtain rfl := Except.ok.inj hspelling
      rw [readBack_listOf, readBack_mark (ih h hitem) itemNullable]
    · cases hspelling

/-- The type of a member is read back from its spelling, and so is whether it is nullable. -/
theorem readBack_memberSpell {m : Member} (h : IsType m.type) {spelling : String}
    (hspelling : m.spell .csharp = .ok spelling) :
    readBack false spelling.toList.reverse = (m.type, m.nullable) := by
  rw [Member.spell] at hspelling
  split at hspelling
  · next inner hinner =>
    obtain rfl := Except.ok.inj hspelling
    exact readBack_mark (readBack_spell h hinner) m.nullable
  · cases hspelling

/-! ## The types of a document -/

theorem IsType.allScalar {type : TypeExpr} (h : IsType type) : type.AllScalar := by
  induction type with
  | any => trivial
  | value type => exact h
  | named name => trivial
  | list item itemNullable ih => exact ih h

theorem isType_of_names {type : TypeExpr} (h : type.AllScalar)
    (hnames : ∀ name ∈ type.named?, IsTypeName name) : IsType type := by
  induction type with
  | any => trivial
  | value type => exact h
  | named name => exact hnames name rfl
  | list item itemNullable ih => exact ih h hnames

/-- The types of the members that are declared for a document are such types. -/
theorem declarationsFor_isType {objectName : String} {document : Json.Value}
    {declarations : List Declaration}
    (h : declarationsFor (Naming.typeIdentifier objectName) .csharp document = .ok declarations) :
    ∀ d ∈ declarations, ∀ m ∈ d.members, IsType m.type := by
  have hroot := Naming.wordlike_typeIdentifier objectName
  have hnames := Registry.capitalized_nameClass.declarationsFor
    ⟨hroot.fresh (by simp) _,
      hroot.isLower_fresh (Naming.isLower_typeIdentifier objectName) "" _⟩ h
  intro d hd m hm
  refine isType_of_names (declarationsFor_allScalar h d hd m hm) ?_
  intro name hname
  obtain ⟨e, he, rfl⟩ :=
    exists_declaration_of_reference h hd (List.mem_filterMap.2 ⟨m, hm, hname⟩)
  exact ⟨(hnames e he).1, (hnames e he).2, declarationsFor_not_reserved h e he⟩

/-! ## Spellings -/

theorem IsType.exists_spell {m : Member} (h : IsType m.type) :
    ∃ spelling, m.spell .csharp = .ok spelling := by
  obtain ⟨inner, hinner⟩ := h.allScalar.exists_spell .csharp
  exact ⟨Language.csharp.mark m.nullable inner, by rw [Member.spell, hinner]⟩

/-- Every type of a member has a C# spelling, and two members are spelled alike only if they have
    one type and are both nullable or both not. All members that are declared for a document have
    such types. -/
theorem memberSpell_unambiguous :
    (∀ m m' : Member, IsType m.type → IsType m'.type →
      (∃ spelling, m.spell .csharp = .ok spelling) ∧
      (m.spell .csharp = m'.spell .csharp → m.type = m'.type ∧ m.nullable = m'.nullable)) ∧
    ∀ (objectName : String) (document : Json.Value) (declarations : List Declaration),
      declarationsFor (Naming.typeIdentifier objectName) .csharp document = .ok declarations →
      ∀ d ∈ declarations, ∀ m ∈ d.members, IsType m.type := by
  refine ⟨?_, fun objectName document declarations h => declarationsFor_isType h⟩
  intro m m' hm hm'
  obtain ⟨spelling, hspelling⟩ := hm.exists_spell
  refine ⟨⟨spelling, hspelling⟩, ?_⟩
  intro heq
  have hread := (readBack_memberSpell hm hspelling).symm.trans
    (readBack_memberSpell hm' (heq ▸ hspelling))
  exact ⟨congrArg Prod.fst hread, congrArg Prod.snd hread⟩

/-- Rows with a list of lists of nullable objects, or with nothing in its place: the root gives way
    to a reserved name, and the member's type is read off its spelling. -/
theorem rows_unambiguous :
    declarationsFor (Naming.typeIdentifier "guid") .csharp
        (.array [.object [("x", .array [.array [.object [("k", .number "1")], .null]])],
          .object [("x", .null)]])
      = .ok [⟨"Guid2", [⟨"x", .list (.list (.named "X") true) false, true⟩]⟩,
          ⟨"X", [⟨"k", .value .int32, false⟩]⟩] ∧
    (IsType (.list (.list (.named "X") true) false) ∧ IsType (.value .int32)) ∧
    Member.spell .csharp ⟨"x", .list (.list (.named "X") true) false, true⟩ = .ok "X?[][]?" ∧
    ∀ m : Member, IsType m.type → m.spell .csharp = .ok "X?[][]?" →
      .list (.list (.named "X") true) false = m.type ∧ true = m.nullable := by
  have hdeclared : declarationsFor (Naming.typeIdentifier "guid") .csharp
        (.array [.object [("x", .array [.array [.object [("k", .number "1")], .null]])],
          .object [("x", .null)]])
      = .ok [⟨"Guid2", [⟨"x", .list (.list (.named "X") true) false, true⟩]⟩,
          ⟨"X", [⟨"k", .value .int32, false⟩]⟩] := by decide +kernel
  have htypes := memberSpell_unambiguous.2 "guid" _ _ hdeclared
  have hx := htypes _ List.mem_cons_self _ List.mem_cons_self
  have hk := htypes _ (List.mem_cons_of_mem _ List.mem_cons_self) _ List.mem_cons_self
  have hspelling : Member.spell .csharp ⟨"x", .list (.list (.named "X") true) false, true⟩
      = .ok "X?[][]?" := by decide +kernel
  refine ⟨hdeclared, ⟨hx, hk⟩, hspelling, ?_⟩
  intro m hm hsame
  exact (memberSpell_unambiguous.1 ⟨"x", _, true⟩ m hx hm).2 (hspelling.trans hsame.symm)

end SampleTypes.CSharp
