import SampleTypes.Document
import SampleTypes.Proofs.Inference.Slots

set_option autoImplicit false

/-! # Documents that differ in their samples alone

Two documents are alike when they have the same nesting, the same keys in the same order and
`null` in the same places, and when the scalars in any other place have the same type. Alike
documents have alike trees (`Property.Alike`), and whatever merging asks of a value it asks of
its tree in a way that cannot tell alike trees apart. So alike documents merge to the same slots,
or fail with the same words, and their generated sources are the same to the letter: a source
shows nothing of the samples it was made from. -/

namespace SampleTypes

open Json (Value)

/-! ## Alike values -/

/-- Two values that differ in the texts and digits of their scalars alone. -/
inductive Json.Value.Alike : Value → Value → Prop where
  | null : Alike .null .null
  | scalar {v w : Value} {type : ValueType} :
    v.isScalar = true → w.isScalar = true → leafType v = .ok type → leafType w = .ok type →
    Alike v w
  | array {items items' : List Value} :
    List.Forall₂ Alike items items' → Alike (.array items) (.array items')
  | object {members members' : List (String × Value)} :
    members.map (·.1) = members'.map (·.1) →
    List.Forall₂ Alike (members.map (·.2)) (members'.map (·.2)) →
    Alike (.object members) (.object members')

/-! ## The type of a scalar tells its kind -/

/-- The kind of the values of a type. -/
def ValueType.kind : ValueType → String
  | .bool => "a boolean"
  | .text | .uuid | .dateTime | .offsetDateTime | .timeSpan => "a string"
  | .object => "an object"
  | .arrayOf _ | .mixedArray => "an array"
  | _ => "a number"

theorem integerType?_kind {n : Int} {type : ValueType} (h : integerType? n = some type) :
    type.kind = "a number" := by
  unfold integerType? at h
  split_ifs at h <;> cases h <;> rfl

theorem fractionalType?_kind {d : Decimal} {type : ValueType}
    (h : fractionalType? d = some type) : type.kind = "a number" := by
  unfold fractionalType? at h
  split_ifs at h <;> cases h <;> rfl

theorem numberType?_kind {literal : List Char} {type : ValueType}
    (h : numberType? literal = some type) : type.kind = "a number" := by
  simp only [numberType?] at h
  split at h
  · next integer hinteger =>
    cases h
    split at hinteger
    · obtain ⟨n, -, hn⟩ := Option.bind_eq_some_iff.1 hinteger
      exact integerType?_kind hn
    · cases hinteger
  · obtain ⟨d, -, hd⟩ := Option.bind_eq_some_iff.1 h
    exact fractionalType?_kind hd

theorem textType_kind (s : List Char) : (textType s).kind = "a string" := by
  unfold textType
  split_ifs <;> rfl

theorem leafType_kind {v : Value} {type : ValueType} (hscalar : v.isScalar = true)
    (h : leafType v = .ok type) : v.kind = type.kind := by
  cases v with
  | bool b => cases h; rfl
  | string text => cases h; exact (textType_kind _).symm
  | number literal =>
    simp only [leafType] at h
    split at h
    · next t ht => cases h; exact (numberType?_kind ht).symm
    · cases h
  | null => cases hscalar
  | array items => cases hscalar
  | object members => cases hscalar

theorem Json.Value.Alike.kind_eq {v w : Value} (h : v.Alike w) : v.kind = w.kind := by
  cases h with
  | null => rfl
  | scalar hv hw htype htype' => rw [leafType_kind hv htype, leafType_kind hw htype']
  | array _ => rfl
  | object _ _ => rfl

namespace Json.Value

theorem isNull_eq_kind (v : Value) : v.isNull = (v.kind == "null") := by
  cases v <;> rfl

theorem isArray_eq_kind (v : Value) : v.isArray = (v.kind == "an array") := by
  cases v <;> rfl

theorem isObject_eq_kind (v : Value) : v.isObject = (v.kind == "an object") := by
  cases v <;> rfl

/-- Alike values are `null`, or hold a `null`, at the same time. -/
theorem Alike.isNullable_eq {v w : Value} (h : v.Alike w) : v.isNullable = w.isNullable := by
  cases h with
  | null => rfl
  | scalar hv hw _ _ =>
    have hscalar : ∀ {u : Value}, u.isScalar = true → u.isNullable = false := by
      intro u hu
      cases u <;> first | rfl | cases hu
    rw [hscalar hv, hscalar hw]
  | array hitems =>
    rw [isNullable, isNullable]
    induction hitems with
    | nil => rfl
    | cons hvw _ ih =>
      rw [List.any_cons, List.any_cons, ih, isNull_eq_kind, isNull_eq_kind, hvw.kind_eq]
  | object _ _ => rfl

end Json.Value

/-! ## Alike trees -/

namespace Property

/-- Two trees that nothing but the values of their scalars tells apart. -/
inductive Alike : Property → Property → Prop where
  | intro {p q : Property} :
    p.key = q.key → p.type = q.type → p.node.kind = q.node.kind →
    p.node.isNullable = q.node.isNullable →
    List.Forall₂ Alike p.children q.children → Alike p q

namespace Alike

variable {p q : Property}

theorem key_eq (h : p.Alike q) : p.key = q.key := by
  cases h; assumption

theorem type_eq (h : p.Alike q) : p.type = q.type := by
  cases h; assumption

theorem kind_eq (h : p.Alike q) : p.node.kind = q.node.kind := by
  cases h; assumption

theorem children (h : p.Alike q) : List.Forall₂ Alike p.children q.children := by
  cases h; assumption

theorem isNull_eq (h : p.Alike q) : p.isNull = q.isNull := by
  rw [isNull, isNull, Value.isNull_eq_kind, Value.isNull_eq_kind, h.kind_eq]

theorem isNullable_eq (h : p.Alike q) : p.isNullable = q.isNullable := by
  cases h; assumption

theorem isArray_eq (h : p.Alike q) : p.node.isArray = q.node.isArray := by
  rw [Value.isArray_eq_kind, Value.isArray_eq_kind, h.kind_eq]

theorem isObject_eq (h : p.Alike q) : p.node.isObject = q.node.isObject := by
  rw [Value.isObject_eq_kind, Value.isObject_eq_kind, h.kind_eq]

end Alike

variable {ps qs : List Property}

/-- What alike trees have in common, lists of them have in common in the same order. -/
theorem map_eq_of_alike {α : Type} {f : Property → α} (hf : ∀ {p q}, Alike p q → f p = f q)
    (h : List.Forall₂ Alike ps qs) : ps.map f = qs.map f := by
  induction h with
  | nil => rfl
  | cons hpq _ ih => rw [List.map_cons, List.map_cons, hf hpq, ih]

theorem filter_alike {f : Property → Bool} (hf : ∀ {p q}, Alike p q → f p = f q)
    (h : List.Forall₂ Alike ps qs) : List.Forall₂ Alike (ps.filter f) (qs.filter f) :=
  List.rel_filter (fun p q hpq => show f p = true ↔ f q = true by rw [hf hpq]) h

theorem flatMap_children_alike (h : List.Forall₂ Alike ps qs) :
    List.Forall₂ Alike (ps.flatMap (·.children)) (qs.flatMap (·.children)) :=
  List.rel_flatMap h fun _ _ hpq => hpq.children

theorem Alike.keys_eq {p q : Property} (h : p.Alike q) : p.keys = q.keys := by
  have hmap := map_eq_of_alike (f := (·.key)) Alike.key_eq h.children
  have hkeys : ∀ cs : List Property, cs.filterMap (·.key) = (cs.map (·.key)).filterMap id := by
    intro cs
    rw [List.filterMap_map]
    rfl
  rw [keys, keys, hkeys, hkeys, hmap]

/-! ## Trees of alike values -/

theorem assemble_of_not_array {key : Option String} {node : Value} {children : List Property}
    {type : ValueType} (harray : node.isArray = false) (h : leafType node = .ok type) :
    assemble key node children = .ok ⟨key, node, type, children⟩ := by
  unfold assemble
  split
  · cases harray
  · rw [h]

theorem ofNode_of_scalar {key : Option String} {node : Value} {type : ValueType}
    (hscalar : node.isScalar = true) (h : leafType node = .ok type) :
    ofNode key node = .ok ⟨key, node, type, []⟩ := by
  cases node
  case null => cases hscalar
  case array => cases hscalar
  case object => cases hscalar
  all_goals
    rw [ofNode]
    exact assemble_of_not_array rfl h

mutual

/-- Alike values have trees, and the trees are alike. -/
theorem exists_ofNode_alike (key : Option String) :
    ∀ {v w : Value}, v.Alike w →
      ∃ p q, ofNode key v = .ok p ∧ ofNode key w = .ok q ∧ Alike p q
  | _, _, .null =>
    ⟨⟨key, .null, .object, []⟩, ⟨key, .null, .object, []⟩, by rw [ofNode]; rfl,
      by rw [ofNode]; rfl, .intro rfl rfl rfl rfl .nil⟩
  | _, _, .scalar hv hw htype htype' =>
    have halike := Value.Alike.scalar hv hw htype htype'
    ⟨_, _, ofNode_of_scalar hv htype, ofNode_of_scalar hw htype',
      .intro rfl rfl halike.kind_eq halike.isNullable_eq .nil⟩
  | .array items, .array items', .array hitems => by
    obtain ⟨ps, qs, hps, hqs, halike⟩ := exists_ofItems_alike items hitems
    have hentries := map_eq_of_alike (f := fun c => (c.isNull, c.type))
      (fun h => by rw [h.isNull_eq, h.type_eq]) halike
    refine ⟨⟨key, .array items, .ofElements (ps.map fun c => (c.isNull, c.type)), ps⟩,
      ⟨key, .array items', .ofElements (qs.map fun c => (c.isNull, c.type)), qs⟩, ?_, ?_, ?_⟩
    · rw [ofNode, hps]; rfl
    · rw [ofNode, hqs]; rfl
    · exact .intro rfl (congrArg ValueType.ofElements hentries) rfl
        (Value.Alike.array hitems).isNullable_eq halike
  | .object members, .object members', .object hkeys hvalues => by
    obtain ⟨ps, qs, hps, hqs, halike⟩ := exists_ofMembers_alike members hkeys hvalues
    refine ⟨⟨key, .object members, .object, ps⟩, ⟨key, .object members', .object, qs⟩,
      ?_, ?_, .intro rfl rfl rfl rfl halike⟩
    · rw [ofNode, hps]; rfl
    · rw [ofNode, hqs]; rfl

theorem exists_ofItems_alike :
    ∀ (items : List Value) {items' : List Value}, List.Forall₂ Value.Alike items items' →
      ∃ ps qs, ofItems items = .ok ps ∧ ofItems items' = .ok qs ∧ List.Forall₂ Alike ps qs
  | [], _, .nil => ⟨[], [], by rw [ofItems], by rw [ofItems], .nil⟩
  | v :: rest, _, .cons hv hrest => by
    obtain ⟨p, q, hp, hq, hpq⟩ := exists_ofNode_alike none hv
    obtain ⟨ps, qs, hps, hqs, halike⟩ := exists_ofItems_alike rest hrest
    exact ⟨p :: ps, q :: qs, by rw [ofItems, hp, hps], by rw [ofItems, hq, hqs],
      .cons hpq halike⟩

theorem exists_ofMembers_alike :
    ∀ (members : List (String × Value)) {members' : List (String × Value)},
      members.map (·.1) = members'.map (·.1) →
      List.Forall₂ Value.Alike (members.map (·.2)) (members'.map (·.2)) →
      ∃ ps qs, ofMembers members = .ok ps ∧ ofMembers members' = .ok qs ∧
        List.Forall₂ Alike ps qs
  | [], [], _, _ => ⟨[], [], by rw [ofMembers], by rw [ofMembers], .nil⟩
  | (key, v) :: rest, (key', w) :: rest', hkeys, .cons hv hrest => by
    obtain ⟨rfl, hrestKeys⟩ := List.cons.inj hkeys
    obtain ⟨p, q, hp, hq, hpq⟩ := exists_ofNode_alike (some key) hv
    obtain ⟨ps, qs, hps, hqs, halike⟩ := exists_ofMembers_alike rest hrestKeys hrest
    exact ⟨p :: ps, q :: qs, by rw [ofMembers, hp, hps], by rw [ofMembers, hq, hqs],
      .cons hpq halike⟩

end

end Property

/-! ## Merging alike trees -/

section Merging

variable {ps qs : List Property}

theorem present_alike (h : List.Forall₂ Property.Alike ps qs) :
    List.Forall₂ Property.Alike (present ps) (present qs) :=
  Property.filter_alike (fun hpq => by rw [hpq.isNull_eq]) h

theorem column_alike (key : String) (h : List.Forall₂ Property.Alike ps qs) :
    List.Forall₂ Property.Alike (column key ps) (column key qs) :=
  Property.filter_alike (fun hpq => by rw [hpq.key_eq]) h

theorem isEmpty_alike (h : List.Forall₂ Property.Alike ps qs) : ps.isEmpty = qs.isEmpty := by
  cases h <;> rfl

theorem any_alike {f : Property → Bool} (hf : ∀ {p q}, Property.Alike p q → f p = f q)
    (h : List.Forall₂ Property.Alike ps qs) : ps.any f = qs.any f := by
  induction h with
  | nil => rfl
  | cons hpq _ ih => rw [List.any_cons, List.any_cons, hf hpq, ih]

theorem all_alike {f : Property → Bool} (hf : ∀ {p q}, Property.Alike p q → f p = f q)
    (h : List.Forall₂ Property.Alike ps qs) : ps.all f = qs.all f := by
  induction h with
  | nil => rfl
  | cons hpq _ ih => rw [List.all_cons, List.all_cons, hf hpq, ih]

theorem Property.Alike.isHollowArray_eq {p q : Property} (h : p.Alike q) :
    p.isHollowArray = q.isHollowArray := by
  rw [isHollowArray, isHollowArray, h.isArray_eq, all_alike Alike.isNull_eq h.children]

theorem evidence_alike (h : List.Forall₂ Property.Alike ps qs) :
    List.Forall₂ Property.Alike (evidence ps) (evidence qs) :=
  Property.filter_alike (fun hpq => by rw [hpq.isHollowArray_eq]) (present_alike h)

theorem Common.of_alike (h : List.Forall₂ Property.Alike ps qs) :
    Common.Matches (List.Forall₂ Property.Alike) (Common.of ps) (Common.of qs) := by
  have hpresent := present_alike h
  refine Common.of_matches (any_alike Property.Alike.isHollowArray_eq hpresent) ?_
    (Property.flatMap_children_alike hpresent) hpresent
  intro type
  rw [← List.mem_map, ← List.mem_map,
    Property.map_eq_of_alike (f := (·.type)) Property.Alike.type_eq (evidence_alike h)]

theorem checkKeys_alike (path : String) (expected : List String) (index : Nat)
    (h : List.Forall₂ Property.Alike ps qs) :
    checkKeys path expected index ps = checkKeys path expected index qs := by
  induction h generalizing index with
  | nil => rfl
  | cons hpq _ ih => rw [checkKeys, checkKeys, hpq.keys_eq, ih]

theorem mergedKeys_alike (path : String) (h : List.Forall₂ Property.Alike ps qs) :
    mergedKeys path ps = mergedKeys path qs := by
  cases h with
  | nil => rfl
  | cons hpq hrest =>
    rw [mergedKeys, mergedKeys, hpq.keys_eq, checkKeys_alike path _ 1 hrest]

/-- Slots of alike values come to the same. -/
theorem Shape.ofValues_alike (path : String) (h : List.Forall₂ Property.Alike ps qs) :
    ofValues path ps = ofValues path qs := by
  induction ps using slot_induction generalizing qs path with
  | step ps ihElements ihColumn =>
    have hcommon := Common.of_alike h
    have hnull := any_alike Property.Alike.isNull_eq h
    generalize hp : Common.of ps = c at hcommon
    generalize hq : Common.of qs = d at hcommon
    cases hcommon with
    | nothing => rw [ofValues_of_nothing hp, ofValues_of_nothing hq, hnull]
    | scalar type => rw [ofValues_of_scalar hp, ofValues_of_scalar hq, hnull]
    | arrays helements =>
      rw [ofValues_of_arrays hp, ofValues_of_arrays hq, hnull, ihElements _ hp path helements,
        any_alike Property.Alike.isNullable_eq (present_alike h)]
    | objects hobjects =>
      have hparts := Property.flatMap_children_alike hobjects
      have hkeys : ∀ keys, ofKeys path _ keys = ofKeys path _ keys := fun keys =>
        ofKeys_congr fun key _ => ihColumn _ hp key _ (column_alike key hparts)
      rw [ofValues_of_objects hp, ofValues_of_objects hq, hnull, mergedKeys_alike path hobjects]
      simp only [hkeys]

/-! ## The root -/

/-- Objects that are found among alike trees: none on either side, for the same reason, or alike
    ones. -/
inductive SameObjects : (found found' : Except Error (List Property)) → Prop where
  | error (e : Error) : SameObjects (.error e) (.error e)
  | ok {objects objects' : List Property} :
    List.Forall₂ Property.Alike objects objects' → SameObjects (.ok objects) (.ok objects')

theorem elementObjects_alike (h : List.Forall₂ Property.Alike ps qs) :
    SameObjects (elementObjects ps) (elementObjects qs) := by
  induction h with
  | nil => exact .ok .nil
  | @cons p q ps qs hpq hrest ih =>
    rw [elementObjects, elementObjects, hpq.isNull_eq, hpq.isObject_eq, hpq.kind_eq]
    split_ifs
    · exact ih
    · generalize elementObjects ps = found at ih
      generalize elementObjects qs = found' at ih
      cases ih with
      | error e => exact .error e
      | ok hobjects => exact .ok (.cons hpq hobjects)
    · exact .error _

theorem rootObjects_alike {p q : Property} (h : p.Alike q) :
    SameObjects (rootObjects p) (rootObjects q) := by
  have hchildren := h.children
  have hobjects := elementObjects_alike hchildren
  unfold rootObjects
  rw [h.isObject_eq, h.isArray_eq, h.kind_eq, isEmpty_alike hchildren]
  split_ifs
  · exact .ok (.cons h .nil)
  · exact .error _
  · exact .error _
  · generalize elementObjects p.children = found at hobjects
    generalize elementObjects q.children = found' at hobjects
    cases hobjects with
    | error e => exact .error e
    | ok hobjects =>
      cases hobjects with
      | nil => exact .error _
      | cons hpq hrest => exact .ok (.cons hpq hrest)

/-- Alike trees have the same slots under their root, or fail in the same way. -/
theorem rootMembers_alike {p q : Property} (h : p.Alike q) : rootMembers p = rootMembers q := by
  have hobjects := rootObjects_alike h
  unfold rootMembers
  generalize rootObjects p = found at hobjects
  generalize rootObjects q = found' at hobjects
  cases hobjects with
  | error e => rfl
  | ok hobjects =>
    have hparts := Property.flatMap_children_alike hobjects
    have hkeys : ∀ keys, Shape.ofKeys rootPath _ keys = Shape.ofKeys rootPath _ keys := fun keys =>
      Shape.ofKeys_congr fun key _ => Shape.ofValues_alike _ (column_alike key hparts)
    simp only [mergedKeys_alike rootPath hobjects, hkeys]

end Merging

/-! ## Generated sources -/

/-- Alike documents are rendered alike, in every style and also where rendering fails. -/
theorem renderDocument_eq_of_alike {document document' : Value} (h : document.Alike document')
    (name : String) (o : Options) :
    renderDocument name document o = renderDocument name document' o := by
  obtain ⟨root, root', hroot, hroot', halike⟩ := Property.exists_ofNode_alike none h
  have hdeclarations : ∀ typeName, root.declarations typeName o.language
      = root'.declarations typeName o.language := by
    intro typeName
    rw [Property.declarations, Property.declarations, rootMembers_alike halike]
  have htyped : ∀ typeName, renderTyped typeName document o = renderTyped typeName document' o := by
    intro typeName
    simp only [renderTyped, Property.root, hroot, hroot', hdeclarations]
  simp only [renderDocument, htyped]

/-- Two rows of orders and two of other orders: all numbers, dates and notes differ. -/
theorem orders_render_alike :
    let document (id day note : String) : Value := .array [
      .object [("id", .number id), ("day", .string day), ("notes", .array [.null, .string note])],
      .object [("id", .number id), ("day", .null), ("notes", .array [])]]
    (document "1" "2024-03-01" "secret").Alike (document "77" "1999-12-31" "") ∧
      renderDocument "order" (document "1" "2024-03-01" "secret") .default
        = renderDocument "order" (document "77" "1999-12-31" "") .default := by
  intro document
  have halike : (document "1" "2024-03-01" "secret").Alike (document "77" "1999-12-31" "") := by
    have hid : Value.Alike (.number "1") (.number "77") := .scalar rfl rfl rfl rfl
    have hday : Value.Alike (.string "2024-03-01") (.string "1999-12-31") :=
      @Value.Alike.scalar _ _ .dateTime rfl rfl (by decide +kernel) (by decide +kernel)
    have hnote : Value.Alike (.string "secret") (.string "") :=
      @Value.Alike.scalar _ _ .text rfl rfl (by decide +kernel) (by decide +kernel)
    refine .array (.cons (.object rfl ?_) (.cons (.object rfl ?_) .nil))
    · exact .cons hid (.cons hday (.cons (.array (.cons .null (.cons hnote .nil))) .nil))
    · exact .cons hid (.cons .null (.cons (.array .nil) .nil))
  exact ⟨halike, renderDocument_eq_of_alike halike "order" .default⟩

end SampleTypes
