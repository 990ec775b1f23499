import SampleTypes.Proofs.Naming.Granting
import SampleTypes.Proofs.Naming.Identifiers

set_option autoImplicit false

/-! # Names made of word characters

Identifiers, and what is put together from them and from numbers, have no characters but alphanumeric
ones and underscores. So nothing in a name ends the line or the list that it stands in, whatever the
keys are that names are made from. -/

namespace SampleTypes.Naming

open SampleTypes.Unicode

theorem isAlphanumeric_of_isDigit {c : Char} (h : c.isDigit = true) : isAlphanumeric c = true := by
  have hrange : 0x30 ≤ c.toNat ∧ c.toNat ≤ 0x39 := Char.isDigit_iff_toNat.mp h
  exact SpanTable.contains_of_includes_all (by decide) hrange.1 hrange.2

/-- A name that is not empty and has word characters only. -/
structure Wordlike (name : String) : Prop where
  ne_empty : name ≠ ""
  chars : ∀ c ∈ name.toList, isAlphanumeric c = true ∨ c = '_'

namespace Wordlike

variable {name base owner : String}

theorem not_mem (h : Wordlike name) {c : Char} (hc : isAlphanumeric c = false) (hne : c ≠ '_') :
    c ∉ name.toList := by
  intro hmem
  rcases h.chars c hmem with halphanumeric | hunderscore
  · rw [hc] at halphanumeric
    cases halphanumeric
  · exact hne hunderscore

theorem of_madeFrom {raw : List Char} (h : MadeFrom raw name.toList) : Wordlike name where
  ne_empty := by
    rintro rfl
    exact h.ne_nil rfl
  chars := h.chars

/-- Word characters may follow. -/
theorem append (h : Wordlike base) {rest : String}
    (hrest : ∀ c ∈ rest.toList, isAlphanumeric c = true ∨ c = '_') : Wordlike (base ++ rest) where
  ne_empty := by
    intro hempty
    exact h.ne_empty (String.append_eq_empty_iff.1 hempty).1
  chars := by
    intro c hc
    rw [String.toList_append] at hc
    rcases List.mem_append.1 hc with hc | hc
    · exact h.chars c hc
    · exact hrest c hc

theorem beginsWith_append (h : Wordlike name) (kind : Char → Bool) (rest : String) :
    beginsWith kind (name ++ rest) = beginsWith kind name := by
  rw [beginsWith, beginsWith, String.toList_append, List.head?_append_of_ne_nil]
  exact fun hnil => h.ne_empty (String.toList_eq_nil_iff.1 hnil)

theorem append_toString (h : Wordlike base) (n : Nat) : Wordlike (base ++ toString n) :=
  h.append fun _ hc => .inl (isAlphanumeric_of_isDigit (isDigit_of_mem_toString hc))

theorem numbered (h : Wordlike base) {separator : String}
    (hseparator : ∀ c ∈ separator.toList, c = '_') (n : Nat) :
    Wordlike (numbered separator base n) :=
  (h.append fun c hc => .inr (hseparator c hc)).append_toString n

end Wordlike

theorem wordlike_typeIdentifier (raw : String) : Wordlike (typeIdentifier raw) :=
  .of_madeFrom (typeIdentifier_madeFrom raw)

theorem wordlike_pythonMember (raw : String) : Wordlike (pythonMember raw) :=
  .of_madeFrom (pythonMember_madeFrom raw)

/-! ## Granted names -/

/-- What is granted is the claim or a number of it. -/
theorem fresh_eq_or_numbered (taken : List String) (separator base : String) :
    fresh taken separator base = base ∨
      ∃ n, 2 ≤ n ∧ fresh taken separator base = numbered separator base n := by
  by_cases h : base ∈ taken
  · obtain ⟨n, hn, heq, -⟩ := fresh_of_mem separator h
    exact .inr ⟨n, hn, heq⟩
  · exact .inl (fresh_of_not_mem separator h)

/-- A granted name is a claim or a number of one. -/
theorem exists_claim_of_mem_grantAll {separator : String} {granted claims : List String}
    {name : String} (h : name ∈ grantAll separator granted claims) :
    ∃ base ∈ claims, name = base ∨ ∃ n, 2 ≤ n ∧ name = numbered separator base n := by
  induction claims generalizing granted with
  | nil => cases h
  | cons base rest ih =>
    rw [grantAll] at h
    rcases List.mem_cons.1 h with rfl | h
    · exact ⟨base, List.mem_cons_self, fresh_eq_or_numbered granted separator base⟩
    · obtain ⟨claim, hclaim, hname⟩ := ih h
      exact ⟨claim, List.mem_cons_of_mem _ hclaim, hname⟩

theorem Wordlike.fresh {base : String} (h : Wordlike base) {separator : String}
    (hseparator : ∀ c ∈ separator.toList, c = '_') (taken : List String) :
    Wordlike (fresh taken separator base) := by
  rcases fresh_eq_or_numbered taken separator base with heq | ⟨n, -, heq⟩
  · rw [heq]
    exact h
  · rw [heq]
    exact h.numbered hseparator n

/-- A number behind a name changes nothing in front. -/
theorem Wordlike.isLower_fresh {base : String} (h : Wordlike base)
    (hlower : beginsWith Char.isLower base = false) (separator : String) (taken : List String) :
    beginsWith Char.isLower (Naming.fresh taken separator base) = false := by
  rcases fresh_eq_or_numbered taken separator base with heq | ⟨n, -, heq⟩
  · rw [heq, hlower]
  · rw [heq, Naming.numbered, String.append_assoc, h.beginsWith_append, hlower]

theorem wordlike_of_mem_grantAll {separator : String} (hseparator : ∀ c ∈ separator.toList, c = '_')
    {granted claims : List String} (hclaims : ∀ base ∈ claims, Wordlike base) {name : String}
    (h : name ∈ grantAll separator granted claims) : Wordlike name := by
  obtain ⟨base, hbase, rfl | ⟨n, -, rfl⟩⟩ := exists_claim_of_mem_grantAll h
  · exact hclaims _ hbase
  · exact (hclaims base hbase).numbered hseparator n

/-- A number is told by its last character. -/
theorem getLast?_numbered (separator base : String) (n : Nat) :
    (numbered separator base n).toList.getLast?.any Char.isDigit = true := by
  have hne : (toString n).toList ≠ [] := fun h => toString_ne_empty n (String.toList_eq_nil_iff.1 h)
  rw [numbered, String.toList_append, List.getLast?_append_of_ne_nil _ hne,
    List.getLast?_eq_getLast_of_ne_nil hne]
  exact isDigit_of_mem_toString (List.getLast_mem hne)

/-! ## Names in ASCII -/

/-- A text without characters beyond ASCII. -/
def IsAscii (text : String) : Prop :=
  ∀ c ∈ text.toList, c.toNat < 128

namespace IsAscii

variable {text rest : String}

theorem append (h : IsAscii text) (hrest : IsAscii rest) : IsAscii (text ++ rest) := by
  intro c hc
  rw [String.toList_append] at hc
  rcases List.mem_append.1 hc with hc | hc
  · exact h c hc
  · exact hrest c hc

theorem numbered (h : IsAscii text) {separator : String} (hseparator : IsAscii separator) (n : Nat) :
    IsAscii (numbered separator text n) := by
  refine (h.append hseparator).append fun c hc => ?_
  have hdigit : 0x30 ≤ c.toNat ∧ c.toNat ≤ 0x39 :=
    Char.isDigit_iff_toNat.mp (isDigit_of_mem_toString hc)
  omega

end IsAscii

theorem isAscii_of_mem_grantAll {separator : String} (hseparator : IsAscii separator)
    {granted claims : List String} (hclaims : ∀ base ∈ claims, IsAscii base) {name : String}
    (h : name ∈ grantAll separator granted claims) : IsAscii name := by
  obtain ⟨base, hbase, rfl | ⟨n, -, rfl⟩⟩ := exists_claim_of_mem_grantAll h
  · exact hclaims _ hbase
  · exact (hclaims base hbase).numbered hseparator n

/-- What a key in ASCII is made into is in ASCII as well. -/
theorem isAscii_pythonMember {raw : String} (h : IsAscii raw) : IsAscii (pythonMember raw) := by
  have hcased : ∀ c ∈ snakeCase raw.toList, c.toNat < 128 := by
    intro c hc
    rcases exists_of_mem_snakeCase hc with ⟨w, hw, d, hd, rfl⟩ | rfl
    · exact lowerChar_lt_of_ascii (h d (mem_of_mem_words hw hd))
    · decide
  have hfallback : IsAscii "field" := by simp [IsAscii]
  have hname : IsAscii (String.ofList (guardDigit (orElse "field" (snakeCase raw.toList)))) := by
    intro c hc
    rw [String.toList_ofList] at hc
    rcases mem_guardDigit hc with hc | rfl
    · rw [orElse] at hc
      split at hc
      · exact hfallback c hc
      · exact hcased c hc
    · decide
  rw [pythonMember]
  split
  · exact hname.append (by simp [IsAscii])
  · exact hname

end SampleTypes.Naming
