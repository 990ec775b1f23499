import Mathlib
import SampleTypes.Naming.Identifier

set_option autoImplicit false

/-! # Names of types

What the identifiers made from keys have in common, whatever the key. -/

namespace SampleTypes.Naming

theorem orElse_ne_nil {fallback : String} (hfallback : fallback.toList ≠ []) (name : List Char) :
    orElse fallback name ≠ [] := by
  unfold orElse
  split
  · exact hfallback
  · next hne => simpa using hne

/-- A name that is guarded begins with no digit 0 to 9. -/
theorem guardDigit_eq_cons {name : List Char} (hname : name ≠ []) :
    ∃ c rest, guardDigit name = c :: rest ∧ c.isDigit = false := by
  cases name with
  | nil => exact absurd rfl hname
  | cons c rest =>
    rw [guardDigit]
    split
    · exact ⟨'_', c :: rest, rfl, rfl⟩
    · next hdigit =>
      refine ⟨c, rest, rfl, ?_⟩
      rw [← Bool.not_eq_true]
      intro h
      rw [Char.isDigit, Bool.and_eq_true, decide_eq_true_iff, decide_eq_true_iff] at h
      exact hdigit ⟨h.1, h.2⟩

/-- The name of a type is not made of digits alone. -/
theorem exists_not_digit_typeIdentifier (raw : String) :
    ∃ c ∈ (typeIdentifier raw).toList, c.isDigit = false := by
  obtain ⟨c, rest, hguard, hdigit⟩ :=
    guardDigit_eq_cons (orElse_ne_nil (by decide : "Item".toList ≠ []) (pascalCase raw.toList))
  refine ⟨c, ?_, hdigit⟩
  simp only [typeIdentifier, hguard]
  split
  · rw [String.toList_append, String.toList_ofList]
    exact List.mem_append_left _ List.mem_cons_self
  · rw [String.toList_ofList]
    exact List.mem_cons_self

end SampleTypes.Naming
