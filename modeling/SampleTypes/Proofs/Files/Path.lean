import SampleTypes.Files.Path

set_option autoImplicit false

/-! # Paths with an extension

A path whose file name has no extension is given one; that changes the name alone, and leaves the
file in its directory. -/

namespace SampleTypes.Files

namespace Path

/-- A path is another one with the extension added to the file name, if that has none. A path
    without a file name, such as the root, is left as it is. -/
def CompletedBy (p : Path) (extension : String) (q : Path) : Prop :=
  match p.fileName? with
  | none => q = p
  | some name =>
    if hasExtension name then q = p
    else q.fileName? = some (name ++ "." ++ extension) ∧ q.parent? = p.parent?

theorem trimEnd_snoc {p : Path} {front : List String} {name : String}
    (hsegments : p.segments = front ++ [name]) (hname : isIdle name = false) : p.trimEnd = p := by
  have hkept : (p.segments.reverse.dropWhile isIdle).reverse = p.segments := by
    rw [hsegments, List.reverse_append, List.reverse_singleton, List.singleton_append,
      List.dropWhile_cons_of_neg (by simp [hname])]
    simp
  have hne : p.segments.isEmpty = false := by simp [hsegments]
  rw [trimEnd]
  simp only [hkept, hne]
  rfl

theorem append_ne_of_char {extension other name : String} {c : Char} (hc : c ∈ extension.toList)
    (hother : c ∉ other.toList) : name ++ "." ++ extension ≠ other := by
  intro h
  apply hother
  rw [← h, String.toList_append]
  exact List.mem_append_right _ hc

/-- An extension that holds anything but points completes a path. -/
theorem completedBy_orExtension {extension : String} (h : ∃ c ∈ extension.toList, c ≠ '.')
    (p : Path) : p.CompletedBy extension (p.orExtension extension) := by
  obtain ⟨c, hc, hpoint⟩ := h
  unfold CompletedBy orExtension
  cases hname : p.fileName? with
  | none => rfl
  | some name =>
    by_cases hextension : hasExtension name = true
    · simp only [hextension, if_true]
    · simp only [hextension, Bool.false_eq_true, if_false]
      have hidle : isIdle (name ++ "." ++ extension) = false := by
        simp only [isIdle, Bool.or_eq_false_iff, beq_eq_false_iff_ne]
        exact ⟨append_ne_of_char hc (by simp), append_ne_of_char hc (by simpa using hpoint)⟩
      have hdots : ¬ (name ++ "." ++ extension = "." ∨ name ++ "." ++ extension = "..") := by
        rintro (heq | heq)
        · exact append_ne_of_char hc (by simpa using hpoint) heq
        · exact append_ne_of_char hc (by simpa using hpoint) heq
      have hkept : p.trimEnd.segments.isEmpty = false := by
        unfold fileName? at hname
        cases hsegments : p.trimEnd.segments with
        | nil => simp [hsegments] at hname
        | cons first rest => rfl
      refine ⟨?_, ?_⟩
      · unfold fileName?
        rw [trimEnd_snoc rfl hidle]
        simp only [List.getLast?_append, List.getLast?_singleton, Option.some_or]
        rw [if_neg hdots]
      · unfold parent?
        rw [trimEnd_snoc rfl hidle]
        simp [hkept]

end Path

end SampleTypes.Files
