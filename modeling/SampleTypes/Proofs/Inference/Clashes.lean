import SampleTypes.Proofs.Inference.Description

set_option autoImplicit false

/-! # Objects whose keys differ

Objects that share a slot are compared with the first one of them, one after the other. They merge
if they all have its keys, and if not, the first one that differs is named. -/

namespace SampleTypes

/-- Two objects have the same keys, in whatever order. -/
def Property.SameKeys (p q : Property) : Prop :=
  ∀ key, key ∈ p.keys ↔ key ∈ q.keys

/-- Counting keys and looking them up comes to comparing the sets. -/
theorem sameKeys_iff {p q : Property} : sameKeys p.keys q.keys = true ↔ q.SameKeys p := by
  constructor
  · intro h key
    exact mem_iff_of_sameKeys q.nodup_keys h
  · intro h
    have hperm : q.keys.Perm p.keys :=
      (List.perm_ext_iff_of_nodup q.nodup_keys p.nodup_keys).2 h
    rw [sameKeys, Bool.and_eq_true, beq_iff_eq, List.all_eq_true]
    refine ⟨hperm.length_eq, ?_⟩
    intro key hkey
    rw [List.contains_iff_mem]
    exact (h key).1 hkey

/-- The object named as the fault is the first one that differs; its place counts from where the
    comparison began. -/
theorem checkKeys_eq_error {path : String} {first : Property} {index : Nat}
    {objects : List Property} {e : Error} :
    checkKeys path first.keys index objects = .error e ↔
      ∃ before q after, objects = before ++ q :: after ∧ (∀ o ∈ before, o.SameKeys first) ∧
        ¬ q.SameKeys first ∧
        e = .incompatibleShapes (path ++ "[" ++ toString (index + before.length) ++ "]")
          first.keys q.keys := by
  -- the place moves along: an object that agrees is one more in front of the fault
  induction objects generalizing index with
  | nil =>
    rw [checkKeys]
    constructor
    · intro h
      exact absurd h (by simp)
    · rintro ⟨before, q, after, hobjects, -⟩
      exact absurd hobjects (by simp)
  | cons p rest ih =>
    rw [checkKeys]
    split
    · rename_i hsame
      rw [ih]
      constructor
      · rintro ⟨before, q, after, rfl, hbefore, hq, rfl⟩
        refine ⟨p :: before, q, after, rfl, ?_, hq, ?_⟩
        · exact List.forall_mem_cons.2 ⟨sameKeys_iff.1 hsame, hbefore⟩
        · rw [List.length_cons, Nat.add_right_comm, Nat.add_assoc]
      · rintro ⟨before, q, after, hobjects, hbefore, hq, rfl⟩
        cases before with
        | nil =>
          obtain ⟨rfl, rfl⟩ := List.cons.inj hobjects
          exact absurd (sameKeys_iff.1 hsame) hq
        | cons o before =>
          obtain ⟨rfl, rfl⟩ := List.cons.inj hobjects
          refine ⟨before, q, after, rfl, (List.forall_mem_cons.1 hbefore).2, hq, ?_⟩
          rw [List.length_cons, Nat.add_right_comm, Nat.add_assoc]
    · rename_i hdiffers
      rw [sameKeys_iff] at hdiffers
      constructor
      · intro h
        obtain rfl := Except.error.inj h
        exact ⟨[], p, rest, rfl, by simp, hdiffers, rfl⟩
      · rintro ⟨before, q, after, hobjects, hbefore, -, rfl⟩
        cases before with
        | nil =>
          obtain ⟨rfl, rfl⟩ := List.cons.inj hobjects
          rfl
        | cons o before =>
          obtain ⟨rfl, rfl⟩ := List.cons.inj hobjects
          exact absurd (hbefore _ List.mem_cons_self) hdiffers

theorem mergedKeys_eq_error {path : String} {objects : List Property} {e : Error} :
    mergedKeys path objects = .error e ↔
      ∃ first before q after, objects = first :: (before ++ q :: after) ∧
        (∀ o ∈ before, o.SameKeys first) ∧ ¬ q.SameKeys first ∧
        e = .incompatibleShapes (path ++ "[" ++ toString (1 + before.length) ++ "]")
          first.keys q.keys := by
  cases objects with
  | nil => simp [mergedKeys]
  | cons first rest =>
    rw [mergedKeys]
    constructor
    · intro h
      split at h
      · exact absurd h (by simp)
      · rename_i e' hcheck
        obtain rfl : e' = e := Except.error.inj h
        obtain ⟨before, q, after, rfl, hbefore, hq, rfl⟩ := checkKeys_eq_error.1 hcheck
        exact ⟨first, before, q, after, rfl, hbefore, hq, rfl⟩
    · rintro ⟨first', before, q, after, hobjects, hbefore, hq, rfl⟩
      obtain ⟨rfl, rfl⟩ := List.cons.inj hobjects
      rw [checkKeys_eq_error.2 ⟨before, q, after, rfl, hbefore, hq, rfl⟩]

/-- Objects fail to merge exactly when two of them have different keys. -/
theorem mergedKeys_fails_iff {path : String} {objects : List Property} :
    (∃ e, mergedKeys path objects = .error e) ↔
      ∃ p ∈ objects, ∃ q ∈ objects, ¬ p.SameKeys q := by
  constructor
  · rintro ⟨e, h⟩
    obtain ⟨first, before, q, after, rfl, -, hq, -⟩ := mergedKeys_eq_error.1 h
    exact ⟨q, by simp, first, by simp, hq⟩
  · rintro ⟨p, hp, q, hq, hdiffers⟩
    cases hmerged : mergedKeys path objects with
    | error e => exact ⟨e, rfl⟩
    | ok keys =>
      have hsame := (mergedKeys_ok hmerged).2
      exact absurd (fun key => (hsame p hp key).trans (hsame q hq key).symm) hdiffers

end SampleTypes
