import Mathlib
import SampleTypes.Naming.Fresh

set_option autoImplicit false

/-! # Numbers behind names

Names that differ in their number alone differ, so some of them are free whatever has been given
out; and a number can be told from the name in front of it unless the name is all digits. -/

namespace SampleTypes.Naming

/-! ## Among many names one is free -/

/-- Of more names than have been given out one is free. -/
theorem exists_not_mem {f : Nat → String} (hf : Function.Injective f) (taken : List String) :
    ∃ n < taken.length + 1, f n ∉ taken := by
  by_contra hnone
  have hmem : ∀ n < taken.length + 1, f n ∈ taken := by
    intro n hn
    by_contra hfree
    exact hnone ⟨n, hn, hfree⟩
  have hnodup : ((List.range (taken.length + 1)).map f).Nodup :=
    List.nodup_range.map hf
  have hsub : (List.range (taken.length + 1)).map f ⊆ taken := by
    intro name hname
    obtain ⟨n, hn, rfl⟩ := List.mem_map.1 hname
    exact hmem n (List.mem_range.1 hn)
  have hle := (List.subperm_of_subset hnodup hsub).length_le
  rw [List.length_map, List.length_range] at hle
  omega

/-- A search among so many numbers that holds a hit ends with the first one. -/
theorem exists_find?_range {p : Nat → Bool} {count : Nat} (h : ∃ n < count, p n = true) :
    ∃ n < count, (List.range count).find? p = some n ∧ p n = true ∧ ∀ k < n, p k = false := by
  cases hfind : (List.range count).find? p with
  | some n =>
    obtain ⟨hn, hmem, hfirst⟩ := List.find?_range_eq_some.1 hfind
    exact ⟨n, List.mem_range.1 hmem, rfl, hn, fun k hk => by simpa using hfirst k hk⟩
  | none =>
    obtain ⟨n, hn, hp⟩ := h
    exact absurd hp (List.find?_eq_none.1 hfind n (List.mem_range.2 hn))

theorem toString_ne_empty (n : Nat) : toString n ≠ "" := by
  intro h
  have hlist := congrArg String.toList h
  rw [Nat.toString_eq_repr, Nat.toList_repr] at hlist
  exact Nat.toDigits_ne_nil hlist

theorem isDigit_of_mem_toString {n : Nat} {c : Char} (h : c ∈ (toString n).toList) :
    c.isDigit = true := by
  rw [Nat.toString_eq_repr, Nat.toList_repr] at h
  exact Nat.isDigit_of_mem_toDigits (by omega) (by omega) h

theorem numbered_injective (separator base : String) :
    Function.Injective (numbered separator base) := by
  intro m n h
  rw [numbered, numbered, String.append_right_inj] at h
  exact Nat.repr_injective h

/-! ## Fresh names -/

theorem fresh_of_not_mem {taken : List String} {base : String} (separator : String)
    (h : base ∉ taken) : fresh taken separator base = base := by
  rw [fresh, if_neg h]

/-- A name that is taken gets the least number that makes it free. -/
theorem fresh_of_mem {taken : List String} {base : String} (separator : String)
    (h : base ∈ taken) :
    ∃ n, 2 ≤ n ∧ fresh taken separator base = numbered separator base n ∧
      numbered separator base n ∉ taken ∧
      ∀ m, 2 ≤ m → m < n → numbered separator base m ∈ taken := by
  rw [fresh, if_pos h]
  cases hfind : (List.range' 2 (taken.length + 1)).find? fun n =>
      decide (numbered separator base n ∉ taken) with
  | none =>
    obtain ⟨n, hn, hfree⟩ := exists_not_mem
      (f := fun n => numbered separator base (n + 2))
      (fun a b h => by simpa using numbered_injective separator base h) taken
    rw [List.find?_eq_none] at hfind
    have hmem : n + 2 ∈ List.range' 2 (taken.length + 1) := by
      rw [List.mem_range'_1]; omega
    exact absurd hfree (by simpa using hfind (n + 2) hmem)
  | some n =>
    rw [List.find?_range'_eq_some] at hfind
    obtain ⟨hfree, hn, hleast⟩ := hfind
    refine ⟨n, (List.mem_range'_1.1 hn).1, rfl, by simpa using hfree, ?_⟩
    intro m hm hlt
    simpa using hleast m hm hlt

/-- A name that `fresh` gives out has not been given out. -/
theorem fresh_not_mem (taken : List String) (separator base : String) :
    fresh taken separator base ∉ taken := by
  by_cases h : base ∈ taken
  · obtain ⟨n, -, heq, hfree, -⟩ := fresh_of_mem separator h
    rw [heq]
    exact hfree
  · rw [fresh_of_not_mem separator h]
    exact h

/-! ## Where a number begins -/

/-- What is left and right of a known name can be told apart when only digits stand behind it
    and the name holds anything else. -/
theorem append_digits_inj {base : List Char} (hbase : ∃ c ∈ base, c.isDigit = false)
    {front front' back back' : List Char} (hback : ∀ c ∈ back, c.isDigit = true)
    (hback' : ∀ c ∈ back', c.isDigit = true)
    (h : front ++ base ++ back = front' ++ base ++ back') : front = front' ∧ back = back' := by
  have htake : ∀ (front back : List Char), (∀ c ∈ back, c.isDigit = true) →
      (front ++ base ++ back).reverse.takeWhile Char.isDigit
        = back.reverse ++ base.reverse.takeWhile Char.isDigit := by
    intro front back hback
    rw [List.reverse_append, List.reverse_append,
      List.takeWhile_append_of_pos (fun c hc => hback c (List.mem_reverse.1 hc)),
      List.takeWhile_append, if_neg]
    intro hall
    obtain ⟨c, hc, hdigit⟩ := hbase
    have heq := (List.takeWhile_sublist Char.isDigit).eq_of_length hall
    have hc' : c ∈ base.reverse.takeWhile Char.isDigit := by
      rw [heq]; exact List.mem_reverse.2 hc
    rw [List.mem_takeWhile_imp hc'] at hdigit
    cases hdigit
  have hrev := htake front back hback
  rw [h, htake front' back' hback'] at hrev
  have hback_eq : back = back' := by
    have := List.append_cancel_right hrev
    exact (List.reverse_injective this).symm
  subst hback_eq
  exact ⟨List.append_cancel_right (List.append_cancel_right h), rfl⟩

end SampleTypes.Naming
