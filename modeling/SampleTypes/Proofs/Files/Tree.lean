import Mathlib
import SampleTypes.Files.Tree

set_option autoImplicit false

/-! # What operations on a tree leave in place

An entry is found where it was put, and putting or removing it moves no other one. Making
directories changes no file. Where a file has been put, the path that it was put at leads: the
steps of the path are directories, and no directory gave way to the file. -/

namespace SampleTypes.Files

namespace Tree

variable {t t' : Tree}

/-! ## Entries -/

theorem lookup_filter_ne {l k : Location} (h : k ≠ l) (entries : List (Location × Entry)) :
    (entries.filter fun entry => entry.1 != l).lookup k = entries.lookup k := by
  induction entries with
  | nil => rfl
  | cons entry rest ih =>
    obtain ⟨place, e⟩ := entry
    by_cases hplace : place = l
    · subst hplace
      have hother : (k == place) = false := by simpa using h
      rw [List.filter_cons_of_neg (by simp), ih]
      simp only [List.lookup, hother]
    · rw [List.filter_cons_of_pos (by simpa using hplace), List.lookup_cons, List.lookup_cons, ih]

theorem lookup_filter_self (l : Location) (entries : List (Location × Entry)) :
    (entries.filter fun entry => entry.1 != l).lookup l = none := by
  rw [List.lookup_eq_none_iff]
  intro entry hentry
  exact bne_comm.trans (List.mem_filter.1 hentry).2

/-- The root is a directory, whatever the entries. -/
theorem get?_root (t : Tree) : t.get? [] = some .directory := rfl

theorem get?_of_ne_nil {l : Location} (hl : l ≠ []) : t.get? l = t.entries.lookup l := by
  rw [get?, if_neg (by simpa using hl)]

theorem get?_put_self {l : Location} (hl : l ≠ []) (e : Entry) : (t.put l e).get? l = some e := by
  simp [get?_of_ne_nil hl, put]

theorem get?_put_of_ne {l k : Location} (h : k ≠ l) (e : Entry) :
    (t.put l e).get? k = t.get? k := by
  by_cases hk : k = []
  · subst hk
    rw [get?_root, get?_root]
  · have hother : (k == l) = false := by simpa using h
    rw [get?_of_ne_nil hk, get?_of_ne_nil hk, ← lookup_filter_ne h t.entries]
    simp only [put, List.lookup, hother]

theorem isDirectory_iff {l : Location} : t.isDirectory l = true ↔ t.get? l = some .directory := by
  simp [isDirectory]

/-! ## The files of a tree -/

/-- The content of the file at a location. -/
def contentAt (t : Tree) (l : Location) : Option (List UInt8) :=
  match t.get? l with
  | some (.file content) => some content
  | _ => none

theorem contentAt_eq_some {l : Location} {content : List UInt8} :
    t.contentAt l = some content ↔ t.get? l = some (.file content) := by
  unfold contentAt
  split <;> simp_all

theorem contentAt_eq_none_of_get? {l : Location} (h : t.get? l = none) : t.contentAt l = none := by
  simp [contentAt, h]

theorem contentAt_congr {l : Location} (h : t.get? l = t'.get? l) :
    t.contentAt l = t'.contentAt l := by
  rw [contentAt, contentAt, h]

/-- Two trees have the same files, whatever directories they have. -/
def SameFiles (t t' : Tree) : Prop :=
  ∀ l, t.contentAt l = t'.contentAt l

theorem SameFiles.refl (t : Tree) : SameFiles t t :=
  fun _ => rfl

theorem SameFiles.trans {t'' : Tree} (h : SameFiles t t') (h' : SameFiles t' t'') :
    SameFiles t t'' :=
  fun l => (h l).trans (h' l)

/-- A directory that is put where nothing was changes no file. -/
theorem sameFiles_put_directory {l : Location} (h : t.get? l = none) :
    SameFiles (t.put l .directory) t := by
  intro k
  by_cases hk : k = l
  · subst hk
    have hne : k ≠ [] := by
      rintro rfl
      simp [get?_root] at h
    rw [contentAt_eq_none_of_get? h, contentAt, get?_put_self hne]
  · exact contentAt_congr (get?_put_of_ne hk _)

/-! ## Paths -/

theorem walk_append (start : Location) (before after : List String) :
    t.walk start (before ++ after) =
      match t.walk start before with
      | .error e => .error e
      | .ok l => t.walk l after := by
  induction before generalizing start with
  | nil => rfl
  | cons segment more ih =>
    rw [List.cons_append, walk, walk]
    split_ifs
    · rfl
    · exact ih start
    · exact ih _
    · rfl
    · exact ih _
    · rfl

/-- Where a walk leads, it leads as long as no directory and no entry on the way is lost. -/
theorem walk_mono (hdirectory : ∀ k, t.isDirectory k = true → t'.isDirectory k = true)
    (hentry : ∀ k, (t.get? k).isSome = true → (t'.get? k).isSome = true)
    {segments : List String} {start l : Location} (h : t.walk start segments = .ok l) :
    t'.walk start segments = .ok l := by
  induction segments generalizing start with
  | nil => exact h
  | cons segment more ih =>
    rw [walk] at h ⊢
    split_ifs at h with hstart hidle hup hlong hthere
    · rw [Bool.not_eq_true, Bool.not_eq_false'] at hstart
      rw [hdirectory start hstart, if_neg (by simp), if_pos hidle]
      exact ih h
    · rw [Bool.not_eq_true, Bool.not_eq_false'] at hstart
      rw [hdirectory start hstart, if_neg (by simp), if_neg hidle, if_pos hup]
      exact ih h
    · rw [Bool.not_eq_true, Bool.not_eq_false'] at hstart
      rw [hdirectory start hstart, if_neg (by simp), if_neg hidle, if_neg hup, if_neg hlong,
        if_pos (hentry _ hthere)]
      exact ih h

/-- A walk to a directory leads to the entries in it. -/
theorem walk_snoc {segments : List String} {start l : Location} {name : String}
    (h : t.walk start segments = .ok l) (hl : t.isDirectory l = true)
    (hidle : Path.isIdle name = false) (hup : name ≠ "..")
    (hshort : ¬ maxName < name.utf8ByteSize) (hentry : (t.get? (l ++ [name])).isSome = true) :
    t.walk start (segments ++ [name]) = .ok (l ++ [name]) := by
  rw [walk_append, h]
  simp only [walk, hl, hidle, hup, hshort, hentry]
  rfl

theorem followToDirectory_ok {p : Path} {segments : List String} {l : Location}
    (h : t.followToDirectory p segments = .ok l) :
    t.follow p segments = .ok l ∧ t.isDirectory l = true := by
  unfold followToDirectory at h
  split at h
  · exact absurd h (by simp)
  · rename_i k hk
    split_ifs at h with hdirectory
    cases h
    exact ⟨hk, hdirectory⟩

theorem follow_ok {p : Path} {segments : List String} {l : Location} :
    t.follow p segments = .ok l ↔ ¬ maxPath < p.text.utf8ByteSize ∧
      t.walk (if p.isAbsolute then [] else t.workingDirectory) segments = .ok l := by
  unfold follow
  split_ifs with hlong <;> simp [hlong]

/-- A path whose last segment counts is that segment behind the others. -/
theorem segments_of_splitLast {p : Path} {before : List String} {name : String}
    (h : splitLast p = (before, some name, false)) :
    p.segments = before ++ [name] ∧ name ≠ "" := by
  unfold splitLast at h
  cases hreverse : p.segments.reverse with
  | nil => simp [hreverse] at h
  | cons last front =>
    have hsegments : p.segments = front.reverse ++ [last] := by
      rw [← List.reverse_reverse p.segments, hreverse, List.reverse_cons]
    by_cases hlast : last = ""
    · -- An empty last segment is the slash at the end, which the flag rules out.
      subst hlast
      split at h
      · simp at h
      · simp [hsegments] at h
    · rw [hreverse, List.dropWhile_cons_of_neg (by simpa using hlast)] at h
      simp only [Prod.mk.injEq, Option.some.injEq] at h
      obtain ⟨rfl, rfl, -⟩ := h
      exact ⟨hsegments, hlast⟩

/-! ## Operations -/

theorem makeDirectory_ok {p : Path} {made : Tree} (h : t.makeDirectory p = .ok made) :
    ∃ l, t.get? l = none ∧ made = t.put l .directory := by
  unfold makeDirectory at h
  split at h
  split at h
  · exact absurd h (by simp)
  · rename_i l _
    split at h
    · exact absurd h (by simp)
    · rename_i name _
      split_ifs at h with hdots hlong hthere
      cases h
      exact ⟨l ++ [name], by simpa using hthere, rfl⟩

theorem sameFiles_makeDirectory {p : Path} {made : Tree} (h : t.makeDirectory p = .ok made) :
    SameFiles made t := by
  obtain ⟨l, hfree, rfl⟩ := makeDirectory_ok h
  exact sameFiles_put_directory hfree

/-- Making directories changes no file, also where it fails half way. -/
theorem sameFiles_makeDirectories (t : Tree) (p : Path) : SameFiles (t.makeDirectories p).1 t := by
  rw [makeDirectories]
  split
  · exact .refl t
  · rename_i q hq
    have hlt := Path.length_parent?_lt hq
    split
    · rename_i made hmade
      exact sameFiles_makeDirectory hmade
    · -- The parent was missing. Whatever was made of it, the files are those of `t`.
      have hparent := sameFiles_makeDirectories t q
      split
      · rename_i made e hmade
        rw [hmade] at hparent
        exact hparent
      · rename_i made hmade
        rw [hmade] at hparent
        split
        · rename_i all hall
          exact (sameFiles_makeDirectory hall).trans hparent
        · exact hparent
    · exact .refl t
termination_by p.segments.length

/-- A file is put where its path leads from then on, and no directory gives way to it. -/
theorem replaceFile_ok {p : Path} {content : List UInt8} {t' : Tree}
    (h : t.replaceFile p content = .ok t') :
    ∃ l, l ≠ [] ∧ t.isDirectory l = false ∧ t' = t.put l (.file content) ∧
      t'.follow p p.segments = .ok l := by
  unfold replaceFile at h
  split at h
  rename_i before last slash hlast
  split at h
  · exact absurd h (by simp)
  · rename_i l hl
    split at h
    · exact absurd h (by simp)
    · rename_i name
      split_ifs at h with hdots hlong hslash hdirectory
      cases h
      rw [Bool.not_eq_true] at hslash hdirectory
      subst hslash
      obtain ⟨hsegments, hname⟩ := segments_of_splitLast hlast
      refine ⟨l ++ [name], by simp, hdirectory, rfl, ?_⟩
      obtain ⟨hfollow, hl⟩ := followToDirectory_ok hl
      obtain ⟨hshort, hwalk⟩ := follow_ok.1 hfollow
      have hkept : ∀ k, t.isDirectory k = true →
          (t.put (l ++ [name]) (.file content)).isDirectory k = true := by
        intro k hk
        have hne : k ≠ l ++ [name] := by
          rintro rfl
          rw [hdirectory] at hk
          cases hk
        rw [isDirectory_iff] at hk ⊢
        rw [get?_put_of_ne hne, hk]
      have hpresent : ∀ k, (t.get? k).isSome = true →
          ((t.put (l ++ [name]) (.file content)).get? k).isSome = true := by
        intro k hk
        by_cases hne : k = l ++ [name]
        · subst hne
          rw [get?_put_self (by simp)]
          rfl
        · rw [get?_put_of_ne hne, hk]
      refine follow_ok.2 ⟨hshort, ?_⟩
      rw [hsegments]
      refine walk_snoc (walk_mono hkept hpresent hwalk) (hkept l hl) ?_ ?_ hlong ?_
      · simp only [not_or] at hdots
        simp [Path.isIdle, hname, hdots.1]
      · simp only [not_or] at hdots
        exact hdots.2
      · rw [get?_put_self (by simp)]
        rfl

end Tree

end SampleTypes.Files
