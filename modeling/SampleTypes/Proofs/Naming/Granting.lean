import SampleTypes.Proofs.Naming.Numbered

set_option autoImplicit false

/-! # What a list of claims is granted

`grantAll_getElem?` is all there is to granting: a claim gets the name that is fresh among those
granted before it. Hence granted names are distinct, and a name that nobody has claimed is
granted only as the number of a name that somebody has.

A fresh name is the first that is free among the variants of a base (`fresh_eq_variant`). The
variants are distinct, so that the search is over after one more of them than there are names. -/

namespace SampleTypes.Naming

/-! ## Variants of a name -/

/-- A number makes another name. -/
theorem numbered_ne (separator base : String) (n : Nat) : numbered separator base n ≠ base := by
  intro h
  rw [numbered, String.append_assoc, String.append_eq_left_iff, String.append_eq_empty_iff] at h
  exact toString_ne_empty n h.2

/-- The names that a claim for `base` may be granted, in order of preference. -/
def variant (separator base : String) : Nat → String
  | 0 => base
  | n + 1 => numbered separator base (n + 2)

theorem variant_injective (separator base : String) :
    Function.Injective (variant separator base) := by
  intro m n h
  cases m with
  | zero =>
    cases n with
    | zero => rfl
    | succ n => exact absurd h.symm (numbered_ne separator base (n + 2))
  | succ m =>
    cases n with
    | zero => exact absurd h (numbered_ne separator base (m + 2))
    | succ n =>
      have hnumber := numbered_injective separator base h
      omega

/-- A fresh name is the first variant that is not taken. As many variants as there are taken names
    may be passed over, and no more. -/
theorem fresh_eq_variant (taken : List String) (separator base : String) :
    ∃ n ≤ taken.length, fresh taken separator base = variant separator base n ∧
      variant separator base n ∉ taken ∧ ∀ k < n, variant separator base k ∈ taken := by
  have hfirst : ∃ n, fresh taken separator base = variant separator base n ∧
      ∀ k < n, variant separator base k ∈ taken := by
    by_cases hbase : base ∈ taken
    · obtain ⟨n, hn, heq, -, hleast⟩ := fresh_of_mem separator hbase
      obtain ⟨n, rfl⟩ := Nat.exists_eq_add_of_le' hn
      refine ⟨n + 1, heq, fun k hk => ?_⟩
      cases k with
      | zero => exact hbase
      | succ k => exact hleast (k + 2) (by omega) (by omega)
    · exact ⟨0, fresh_of_not_mem separator hbase, fun k hk => absurd hk (Nat.not_lt_zero k)⟩
  obtain ⟨n, heq, hpassed⟩ := hfirst
  -- The variants are distinct, and one of any `taken.length + 1` of them is free.
  obtain ⟨m, hm, hfree⟩ := exists_not_mem (variant_injective separator base) taken
  have hnm : n ≤ m := by
    by_contra hlt
    exact hfree (hpassed m (by omega))
  exact ⟨n, by omega, heq, heq ▸ fresh_not_mem taken separator base, hpassed⟩

/-! ## Granting -/

theorem grantAll_length (separator : String) (granted claims : List String) :
    (grantAll separator granted claims).length = claims.length := by
  induction claims generalizing granted with
  | nil => rfl
  | cons base rest ih => simp only [grantAll, List.length_cons, ih]

/-- A claim is granted the name that is fresh among those granted before it. -/
theorem grantAll_getElem? (separator : String) (granted claims : List String) (i : Nat) :
    (grantAll separator granted claims)[i]? = claims[i]?.map
      (fresh (((grantAll separator granted claims).take i).reverse ++ granted) separator) := by
  induction claims generalizing granted i with
  | nil => rfl
  | cons base rest ih =>
    cases i with
    | zero => rfl
    | succ i =>
      simp only [grantAll, List.getElem?_cons_succ, List.take_succ_cons, List.reverse_cons,
        List.append_assoc, List.singleton_append]
      exact ih _ i

theorem not_mem_of_mem_grantAll {separator : String} {granted claims : List String}
    {name : String} (h : name ∈ grantAll separator granted claims) : name ∉ granted := by
  induction claims generalizing granted with
  | nil => cases h
  | cons base rest ih =>
    rw [grantAll] at h
    rcases List.mem_cons.1 h with rfl | h
    · exact fresh_not_mem granted separator base
    · exact fun hmem => ih h (List.mem_cons_of_mem _ hmem)

/-- Granted names are distinct. -/
theorem nodup_grantAll (separator : String) (granted claims : List String) :
    (grantAll separator granted claims).Nodup := by
  induction claims generalizing granted with
  | nil => exact List.nodup_nil
  | cons base rest ih =>
    rw [grantAll]
    refine List.nodup_cons.2 ⟨?_, ih _⟩
    intro hmem
    exact not_mem_of_mem_grantAll hmem List.mem_cons_self

/-- What a claim for `base` is granted after the names `earlier`: `base` itself if it is not one of
    them, and else `base` with the least number from two on that makes none of them. -/
structure GrantedAfter (separator : String) (earlier : List String) (base name : String) :
    Prop where
  eq_base_iff : name = base ↔ base ∉ earlier
  /-- The search for the number comes to an end: it passes over fewer numbers than there are
      earlier names. -/
  eq_numbered : base ∈ earlier → ∃ n, 2 ≤ n ∧ n ≤ earlier.length + 1 ∧
    name = numbered separator base n ∧ numbered separator base n ∉ earlier ∧
    ∀ m, 2 ≤ m → m < n → numbered separator base m ∈ earlier

theorem grantedAfter_fresh (separator : String) (earlier : List String) (base : String) :
    GrantedAfter separator earlier base (fresh earlier separator base) := by
  obtain ⟨n, hn, heq, hfree, hpassed⟩ := fresh_eq_variant earlier separator base
  cases n with
  | zero =>
    -- No variant is passed over, and the first one is the base.
    exact ⟨⟨fun _ => hfree, fun _ => heq⟩, fun hbase => absurd hbase hfree⟩
  | succ n =>
    have hbase : base ∈ earlier := hpassed 0 (Nat.succ_pos n)
    refine ⟨⟨fun h => ?_, fun h => absurd hbase h⟩, fun _ => ?_⟩
    · exact absurd (heq.symm.trans h) (numbered_ne separator base (n + 2))
    · refine ⟨n + 2, by omega, by omega, heq, hfree, fun m hm hlt => ?_⟩
      obtain ⟨m, rfl⟩ := Nat.exists_eq_add_of_le' hm
      exact hpassed (m + 1) (by omega)

/-- Freshness depends on which names are taken and not on their order. -/
theorem GrantedAfter.congr {separator : String} {earlier earlier' : List String}
    {base name : String} (h : GrantedAfter separator earlier base name)
    (hperm : earlier.Perm earlier') : GrantedAfter separator earlier' base name := by
  obtain ⟨hbase, hnumbered⟩ := h
  simp only [hperm.mem_iff, hperm.length_eq] at hbase hnumbered
  exact ⟨hbase, hnumbered⟩

/-- Every claim of every list is granted a name: its base if that is not granted yet, and else the
    base with the least number from two on that makes a name not granted yet. So no two claims are
    granted one name. -/
theorem grantAll_exact (separator : String) (claims : List String) :
    (grantAll separator [] claims).length = claims.length ∧
    (∀ i base, claims[i]? = some base → ∃ name, (grantAll separator [] claims)[i]? = some name ∧
      GrantedAfter separator ((grantAll separator [] claims).take i) base name) ∧
    (grantAll separator [] claims).Nodup := by
  refine ⟨grantAll_length separator [] claims, ?_, nodup_grantAll separator [] claims⟩
  intro i base hbase
  refine ⟨_, ?_, (grantedAfter_fresh separator _ base).congr (List.reverse_perm _)⟩
  rw [grantAll_getElem?, hbase, List.append_nil, Option.map_some]

/-- The number of a name may be a base that is claimed by itself, and is then passed over. -/
theorem grantAll_exact_of_collision :
    grantAll "" [] ["Id", "Id2", "Id", "Id3", "Id"] = ["Id", "Id2", "Id3", "Id32", "Id4"] ∧
    GrantedAfter "" ["Id", "Id2", "Id3", "Id32"] "Id" "Id4" := by
  have hgranted : grantAll "" [] ["Id", "Id2", "Id", "Id3", "Id"]
      = ["Id", "Id2", "Id3", "Id32", "Id4"] := by
    decide
  obtain ⟨name, hname, hexact⟩ :=
    (grantAll_exact "" ["Id", "Id2", "Id", "Id3", "Id"]).2.1 4 "Id" rfl
  rw [hgranted] at hname hexact
  obtain rfl := Option.some.inj hname
  exact ⟨hgranted, hexact⟩

/-! ## Names that nobody has claimed -/

/-- Whether some claim comes up to the name by numbering: the name is `base` with a number, and
    when the claim for `base` is made, `base` and all its lower numbers have been granted. -/
def CountsUpTo (separator : String) (claims : List String) (name : String) : Prop :=
  ∃ i base n, claims[i]? = some base ∧ 2 ≤ n ∧ name = numbered separator base n ∧
    base ∈ (grantAll separator [] claims).take i ∧
    ∀ m, 2 ≤ m → m < n → numbered separator base m ∈ (grantAll separator [] claims).take i

/-- A name that nobody has claimed is granted if and only if some claim counts up to it. -/
theorem mem_grantAll_iff {separator : String} {claims : List String} {name : String}
    (hname : name ∉ claims) :
    name ∈ grantAll separator [] claims ↔ CountsUpTo separator claims name := by
  constructor
  · intro hmem
    obtain ⟨i, hi⟩ := List.getElem?_of_mem hmem
    rw [grantAll_getElem?, List.append_nil] at hi
    obtain ⟨base, hbase, hfresh⟩ := Option.map_eq_some_iff.1 hi
    by_cases htaken : base ∈ (grantAll separator [] claims).take i
    · obtain ⟨n, hn, heq, -, hleast⟩ := fresh_of_mem separator (List.mem_reverse.2 htaken)
      refine ⟨i, base, n, hbase, hn, hfresh.symm.trans heq, htaken, ?_⟩
      intro m hm hlt
      exact List.mem_reverse.1 (hleast m hm hlt)
    · rw [fresh_of_not_mem separator (fun h => htaken (List.mem_reverse.1 h))] at hfresh
      subst hfresh
      exact absurd (List.mem_of_getElem? hbase) hname
  · rintro ⟨i, base, n, hbase, hn, rfl, htaken, hleast⟩
    by_cases hgranted : numbered separator base n ∈ (grantAll separator [] claims).take i
    · exact List.mem_of_mem_take hgranted
    · have hi := grantAll_getElem? separator [] claims i
      rw [hbase, List.append_nil, Option.map_some] at hi
      obtain ⟨k, hk, heq, hfree, hbelow⟩ := fresh_of_mem separator (List.mem_reverse.2 htaken)
      rw [heq] at hi
      -- The number granted here is free and has no free number below it, and so has `n`.
      have hkn : k = n := by
        rcases Nat.lt_trichotomy k n with hlt | heq | hlt
        · exact absurd (List.mem_reverse.2 (hleast k hk hlt)) hfree
        · exact heq
        · exact absurd (List.mem_reverse.1 (hbelow n hn hlt)) hgranted
      subst hkn
      exact List.mem_of_getElem? hi

end SampleTypes.Naming
