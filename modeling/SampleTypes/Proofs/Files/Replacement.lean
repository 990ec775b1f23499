import SampleTypes.Files.Replacement
import SampleTypes.Proofs.Files.Tree

set_option autoImplicit false

/-! # What a replacement leaves behind

While a file is being replaced, the tree is the old one and the passing file, which stands where
nothing was. Every step keeps this, so removing the passing file gives back the old files, and
moving it changes the one file that the path leads to. -/

namespace SampleTypes.Files

namespace Tree

variable {t current : Tree} {g : Passage} {passing : Location}

/-! ## Removing -/

theorem get?_remove_self {l : Location} (hl : l ≠ []) : (t.remove l).get? l = none := by
  rw [get?_of_ne_nil hl]
  exact lookup_filter_self l t.entries

theorem get?_remove_of_ne {l k : Location} (h : k ≠ l) : (t.remove l).get? k = t.get? k := by
  by_cases hk : k = []
  · subst hk
    rw [get?_root, get?_root]
  · rw [get?_of_ne_nil hk, get?_of_ne_nil hk]
    exact lookup_filter_ne h t.entries

/-! ## The passing file -/

/-- A tree is an old one and a passing file with this content, which stands where nothing was. -/
structure PassedBy (t current : Tree) (passing : Location) (content : List UInt8) : Prop where
  ne_nil : passing ≠ []
  free : t.get? passing = none
  content : current.get? passing = some (.file content)
  others : ∀ k, k ≠ passing → current.get? k = t.get? k

theorem passedBy_of_createPassing {directory : Path}
    (h : t.createPassing g directory = .ok (passing, current)) :
    PassedBy t current passing [] := by
  unfold createPassing at h
  split at h
  · exact absurd h (by simp)
  · split at h
    · exact absurd h (by simp)
    · rename_i l _
      simp only at h
      split_ifs at h with hthere
      cases h
      refine ⟨by simp, by simpa using hthere, get?_put_self (by simp) _, ?_⟩
      intro k hk
      exact get?_put_of_ne hk _

theorem PassedBy.put {content : List UInt8} (h : PassedBy t current passing content)
    (next : List UInt8) : PassedBy t (current.put passing (.file next)) passing next := by
  refine ⟨h.ne_nil, h.free, get?_put_self h.ne_nil _, ?_⟩
  intro k hk
  rw [get?_put_of_ne hk, h.others k hk]

/-- Writing stays within the passing file, which holds all of the content unless a fault is
    met. -/
theorem PassedBy.writePassing {before : List UInt8} (h : PassedBy t current passing before)
    (g : Passage) (content : List UInt8) :
    ∃ after, PassedBy t (current.writePassing g passing content).1 passing after ∧
      ((current.writePassing g passing content).2 = none → after = content) := by
  unfold Tree.writePassing
  cases g.writing with
  | none => exact ⟨content, h.put content, fun _ => rfl⟩
  | some fault =>
    obtain ⟨written, e⟩ := fault
    exact ⟨content.take written, h.put _, by simp⟩

/-- Without the passing file the files are the old ones. -/
theorem PassedBy.sameFiles_remove {content : List UInt8}
    (h : PassedBy t current passing content) : SameFiles (current.remove passing) t := by
  intro k
  apply contentAt_congr
  by_cases hk : k = passing
  · subst hk
    rw [get?_remove_self h.ne_nil, h.free]
  · rw [get?_remove_of_ne hk, h.others k hk]

/-! ## The file in its place -/

/-- A tree has the files of another one, but for the file that the path leads to, which has this
    content. -/
def HoldsAt (left t : Tree) (p : Path) (content : List UInt8) : Prop :=
  ∃ l, left.follow p p.segments = .ok l ∧ left.contentAt l = some content ∧
    ∀ k, k ≠ l → left.contentAt k = t.contentAt k

theorem HoldsAt.congr {left t' : Tree} {p : Path} {content : List UInt8}
    (h : HoldsAt left t p content) (hfiles : SameFiles t t') : HoldsAt left t' p content := by
  obtain ⟨l, hfollow, hcontent, hothers⟩ := h
  exact ⟨l, hfollow, hcontent, fun k hk => (hothers k hk).trans (hfiles k)⟩

/-- The passing file that was moved is the file that the path leads to, and no other file has
    changed. -/
theorem PassedBy.holdsAt_movePassing {content : List UInt8} {target : Path} {moved : Tree}
    (h : PassedBy t current passing content)
    (hmove : current.movePassing g passing target = .ok moved) :
    HoldsAt moved t target content := by
  unfold movePassing at hmove
  split at hmove
  · exact absurd hmove (by simp)
  · rw [h.content] at hmove
    obtain ⟨l, hl, -, rfl, hfollow⟩ := replaceFile_ok hmove
    refine ⟨l, hfollow, contentAt_eq_some.2 (get?_put_self hl _), ?_⟩
    intro k hk
    rw [← h.sameFiles_remove k]
    exact contentAt_congr (get?_put_of_ne hk _)

end Tree

end SampleTypes.Files
