import SampleTypes.Naming.Identifier
import SampleTypes.Proofs.Naming.TypeNames
import SampleTypes.Proofs.Naming.Words

set_option autoImplicit false

/-! # Identifiers made from keys

An identifier is made of alphanumeric characters and underscores, and begins with no digit of any
script. Whatever a key holds, its identifiers have this form up to one point: a digit in front is
guarded if it is one of 0 to 9, and stays in front if it belongs to another script. -/

namespace SampleTypes.Naming

open SampleTypes.Unicode

/-! ## The form of an identifier -/

/-- Whether a name begins with a character of this kind. -/
def beginsWith (kind : Char → Bool) (name : String) : Bool :=
  name.toList.head?.any kind

/-- Whether the first alphanumeric character of a text is a decimal digit other than 0 to 9. -/
def opensWithForeignDigit (raw : String) : Bool :=
  (raw.toList.find? isAlphanumeric).any fun c => isDecimalDigit c && !c.isDigit

/-- A name with the form of an identifier, except that a decimal digit stands in front if
    `digitInFront`. -/
structure HasForm (digitInFront : Bool) (name : String) : Prop where
  ne_empty : name ≠ ""
  chars : ∀ c ∈ name.toList, isAlphanumeric c = true ∨ c = '_'
  digit : beginsWith isDecimalDigit name = digitInFront

/-! ## Guarded names -/

theorem guardDigit_cons (c : Char) (rest : List Char) :
    guardDigit (c :: rest) = if c.isDigit then '_' :: c :: rest else c :: rest := by
  have hdigit : ('0' ≤ c ∧ c ≤ '9') ↔ c.isDigit = true := by
    rw [Char.isDigit, Bool.and_eq_true, decide_eq_true_iff, decide_eq_true_iff]
    rfl
  simp only [guardDigit, hdigit]

theorem mem_guardDigit {name : List Char} {c : Char} (h : c ∈ guardDigit name) :
    c ∈ name ∨ c = '_' := by
  cases name with
  | nil => cases h
  | cons d rest =>
    rw [guardDigit_cons] at h
    split at h
    · exact (List.mem_cons.1 h).symm
    · exact .inl h

/-- The guard takes the digits 0 to 9 out of the front, and no others. -/
theorem digit_head?_guardDigit (name : List Char) :
    (guardDigit name).head?.filter isDecimalDigit
      = (name.head?.filter isDecimalDigit).filter fun c => !c.isDigit := by
  cases name with
  | nil => rfl
  | cons c rest =>
    rw [guardDigit_cons]
    cases hc : c.isDigit with
    | true =>
      have hfront : isDecimalDigit '_' = false := by decide +kernel
      rw [if_pos rfl, Option.filter_filter]
      simp [Option.filter_some, hc, hfront]
    | false =>
      rw [if_neg Bool.false_ne_true, Option.filter_filter]
      simp [Option.filter_some, hc]

theorem isLower_head?_guardDigit {name : List Char} (h : name.head?.any Char.isLower = false) :
    (guardDigit name).head?.any Char.isLower = false := by
  cases name with
  | nil => rfl
  | cons c rest =>
    rw [guardDigit_cons]
    split
    · rfl
    · exact h

/-! ## From the words of a key to an identifier -/

/-- What a name that is made from `raw` keeps until it is an identifier. -/
structure MadeFrom (raw name : List Char) : Prop where
  ne_nil : name ≠ []
  chars : ∀ c ∈ name, isAlphanumeric c = true ∨ c = '_'
  digit : name.head?.filter isDecimalDigit
    = (raw.find? isAlphanumeric).filter fun c => isDecimalDigit c && !c.isDigit

section MadeFrom

variable {raw cased name : List Char} {fallback : String}

/-- A cased name becomes one that is guarded, or the fallback if it is empty. -/
theorem MadeFrom.of_cased (hfallback : fallback.toList ≠ [])
    (hletters : fallback.toList.all Char.isAlpha = true)
    (hchars : ∀ c ∈ cased, isAlphanumeric c = true ∨ c = '_')
    (hdigit : cased.head?.filter isDecimalDigit
      = (raw.find? isAlphanumeric).filter isDecimalDigit) :
    MadeFrom raw (guardDigit (orElse fallback cased)) := by
  have hname : (∀ c ∈ orElse fallback cased, isAlphanumeric c = true ∨ c = '_') ∧
      (orElse fallback cased).head?.filter isDecimalDigit
        = (raw.find? isAlphanumeric).filter isDecimalDigit := by
    cases cased with
    | nil =>
      refine ⟨fun c hc => .inl (isAlphanumeric_of_isAlpha (List.all_eq_true.1 hletters c hc)), ?_⟩
      -- There is no digit among the letters of the fallback, and none among no characters.
      obtain ⟨c, rest, hcons⟩ := List.exists_cons_of_ne_nil hfallback
      rw [hcons, List.all_cons, Bool.and_eq_true] at hletters
      rw [← hdigit]
      show fallback.toList.head?.filter isDecimalDigit = none
      rw [hcons, List.head?_cons, Option.filter_some, isDecimalDigit_of_isAlpha hletters.1]
      rfl
    | cons c rest => exact ⟨hchars, hdigit⟩
  refine ⟨?_, ?_, ?_⟩
  · obtain ⟨c, rest, heq, -⟩ := guardDigit_eq_cons (orElse_ne_nil hfallback cased)
    rw [heq]
    exact List.cons_ne_nil c rest
  · intro c hc
    rcases mem_guardDigit hc with hc | hc
    · exact hname.1 c hc
    · exact .inr hc
  · rw [digit_head?_guardDigit, hname.2, Option.filter_filter]

/-- A suffix changes nothing in front. -/
theorem MadeFrom.append (h : MadeFrom raw name) {suffix : List Char}
    (hsuffix : (suffix.all fun c => c.isAlpha || c == '_') = true) :
    MadeFrom raw (name ++ suffix) where
  ne_nil := by simp [h.ne_nil]
  chars := by
    intro c hc
    rcases List.mem_append.1 hc with hc | hc
    · exact h.chars c hc
    · have hchar := List.all_eq_true.1 hsuffix c hc
      rw [Bool.or_eq_true, beq_iff_eq] at hchar
      exact hchar.imp_left isAlphanumeric_of_isAlpha
  digit := by rw [List.head?_append_of_ne_nil _ h.ne_nil, h.digit]

/-- A suffix is put behind some names. -/
theorem MadeFrom.suffixed (h : MadeFrom raw name) (p : Prop) [Decidable p] {suffix : String}
    (hsuffix : (suffix.toList.all fun c => c.isAlpha || c == '_') = true) :
    MadeFrom raw (if p then String.ofList name ++ suffix else String.ofList name).toList := by
  split
  · rw [String.toList_append, String.toList_ofList]
    exact h.append hsuffix
  · rw [String.toList_ofList]
    exact h

theorem MadeFrom.hasForm {raw name : String} (h : MadeFrom raw.toList name.toList) :
    HasForm (opensWithForeignDigit raw) name where
  ne_empty := by
    rintro rfl
    exact h.ne_nil rfl
  chars := h.chars
  digit := by
    rw [beginsWith, opensWithForeignDigit, ← Option.isSome_filter, h.digit, Option.isSome_filter]

end MadeFrom

/-! ## The three identifiers -/

theorem typeIdentifier_madeFrom (raw : String) :
    MadeFrom raw.toList (typeIdentifier raw).toList := by
  have hname : MadeFrom raw.toList (guardDigit (orElse "Item" (pascalCase raw.toList))) :=
    .of_cased (by decide) (by decide) (fun c hc => .inl (isAlphanumeric_of_mem_pascalCase hc))
      (digit_head?_pascalCase raw.toList)
  exact hname.suffixed _ (by decide)

/-- The colons of a key are no part of its words. -/
theorem find?_replaceChar (s : List Char) :
    (replaceChar ':' ['_'] s).find? isAlphanumeric = s.find? isAlphanumeric := by
  induction s with
  | nil => rfl
  | cons c rest ih =>
    have hcolon : isAlphanumeric ':' = false := by decide +kernel
    rw [replaceChar] at ih ⊢
    rw [List.flatMap_cons]
    by_cases hc : c = ':'
    · subst hc
      simp [hcolon, isAlphanumeric_underscore, ih]
    · simp [hc, List.find?_cons, ih]

theorem csharpMember_madeFrom (raw enclosing : String) :
    MadeFrom raw.toList (csharpMember raw enclosing).toList := by
  have hname : MadeFrom raw.toList
      (guardDigit (orElse "Property" (pascalCase (replaceChar ':' ['_'] raw.toList)))) := by
    refine .of_cased (by decide) (by decide)
      (fun c hc => .inl (isAlphanumeric_of_mem_pascalCase hc)) ?_
    rw [digit_head?_pascalCase, find?_replaceChar]
  exact hname.suffixed _ (by decide)

theorem pythonMember_madeFrom (raw : String) :
    MadeFrom raw.toList (pythonMember raw).toList := by
  have hname : MadeFrom raw.toList (guardDigit (orElse "field" (snakeCase raw.toList))) :=
    .of_cased (by decide) (by decide) (fun _ => isAlphanumeric_of_mem_snakeCase)
      (digit_head?_snakeCase raw.toList)
  exact hname.suffixed _ (by decide)

/-! ## First letters and keywords -/

/-- A name in pascal case does not begin with one of the letters a to z, and a suffix changes
    nothing about that. -/
theorem isLower_pascal (fallback : String) (hne : fallback.toList ≠ [])
    (hfallback : fallback.toList.head?.any Char.isLower = false) (s : List Char) (p : Prop)
    [Decidable p] (suffix : String) :
    let name := String.ofList (guardDigit (orElse fallback (pascalCase s)))
    beginsWith Char.isLower (if p then name ++ suffix else name) = false := by
  have hname : (guardDigit (orElse fallback (pascalCase s))).head?.any Char.isLower = false := by
    refine isLower_head?_guardDigit ?_
    rw [orElse]
    split
    · exact hfallback
    · exact isLower_head?_pascalCase s
  obtain ⟨c, rest, hcons, -⟩ := guardDigit_eq_cons (orElse_ne_nil hne (pascalCase s))
  rw [hcons] at hname ⊢
  dsimp only
  split
  · rw [beginsWith, String.toList_append, String.toList_ofList]
    exact hname
  · rw [beginsWith, String.toList_ofList]
    exact hname

theorem isLower_typeIdentifier (raw : String) :
    beginsWith Char.isLower (typeIdentifier raw) = false :=
  isLower_pascal "Item" (by decide) (by decide) raw.toList _ "Type"

theorem isLower_csharpMember (raw enclosing : String) :
    beginsWith Char.isLower (csharpMember raw enclosing) = false :=
  isLower_pascal "Property" (by decide) (by decide) (replaceChar ':' ['_'] raw.toList) _ "Value"

/-- A keyword with an underscore behind it is none. -/
theorem pythonMember_not_mem (raw : String) : pythonMember raw ∉ "self" :: pythonKeywords := by
  have hsuffix : ∀ word ∈ "self" :: pythonKeywords, word ++ "_" ∉ "self" :: pythonKeywords := by
    decide +kernel
  rw [pythonMember]
  split
  · next hkeyword => exact hsuffix _ (List.mem_cons.2 hkeyword)
  · next hkeyword => exact fun hmem => hkeyword (List.mem_cons.1 hmem)

/-- The identifiers of every key have the form of an identifier, up to a digit of another script
    in front: one stands there if and only if it is the first alphanumeric character of the key.
    Names of types and of C# members do not begin with one of the letters a to z, as keywords of
    C# do, and Python attributes are neither keywords nor the name of the instance. -/
theorem identifiers_formed (raw enclosing : String) :
    (HasForm (opensWithForeignDigit raw) (typeIdentifier raw) ∧
      beginsWith Char.isLower (typeIdentifier raw) = false) ∧
    (HasForm (opensWithForeignDigit raw) (csharpMember raw enclosing) ∧
      beginsWith Char.isLower (csharpMember raw enclosing) = false) ∧
    (HasForm (opensWithForeignDigit raw) (pythonMember raw) ∧
      pythonMember raw ∉ pythonKeywords ∧ pythonMember raw ≠ "self") := by
  have hpython := pythonMember_not_mem raw
  rw [List.mem_cons, not_or] at hpython
  exact ⟨⟨(typeIdentifier_madeFrom raw).hasForm, isLower_typeIdentifier raw⟩,
    ⟨(csharpMember_madeFrom raw enclosing).hasForm, isLower_csharpMember raw enclosing⟩,
    (pythonMember_madeFrom raw).hasForm, hpython.2, hpython.1⟩

/-- A key that is the Arabic digit three keeps it in front of its three identifiers. -/
theorem arabicDigit_in_front :
    (typeIdentifier "\u0663" = "\u0663" ∧ csharpMember "\u0663" "Root" = "\u0663" ∧
      pythonMember "\u0663" = "\u0663") ∧ beginsWith isDecimalDigit "\u0663" = true := by
  decide +kernel

end SampleTypes.Naming
