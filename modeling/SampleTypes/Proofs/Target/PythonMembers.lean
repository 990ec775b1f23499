import SampleTypes.Proofs.Naming.Wordlike
import SampleTypes.Proofs.Target.Spelling

set_option autoImplicit false

/-! # Names of Python members

The members of a declaration are parameters of its constructor, written out or made for a data class,
next to the instance itself. So their identifiers must differ from one another and from `self`, and
no keyword may be one of them. Keys collapse under casing, and a number may make the identifier of
another key, but numbers are chosen among the names that are left, and no keyword ends in one.

Identifiers are told apart as they are written. Python takes them in a normal form, which leaves
names in ASCII as they are, so there the same holds of what it reads; but beyond ASCII two different
identifiers may be one name (`parameters_repeated`). -/

namespace SampleTypes

open Naming (Wordlike)

/-- Each member has its spelling. -/
theorem length_of_spellAll {language : Language} {members : List Member} {types : List String}
    (h : spellAll language members = .ok types) : types.length = members.length := by
  induction members generalizing types with
  | nil =>
    cases h
    rfl
  | cons m rest ih =>
    rw [spellAll] at h
    split at h
    · cases h
    · split at h
      · next hrest =>
        cases h
        rw [List.length_cons, List.length_cons, ih hrest]
      · cases h

namespace Python

/-! ## The identifiers -/

theorem length_memberNames (d : Declaration) : (memberNames d).length = d.members.length := by
  rw [memberNames, Naming.grantAll_length, List.length_map]

theorem wordlike_of_mem_memberNames {d : Declaration} {name : String} (h : name ∈ memberNames d) :
    Wordlike name := by
  refine Naming.wordlike_of_mem_grantAll (by simp) ?_ h
  intro base hbase
  obtain ⟨m, -, rfl⟩ := List.mem_map.1 hbase
  exact Naming.wordlike_pythonMember m.key

/-- Neither a claim nor a number of one is `self` or a keyword. -/
theorem not_mem_of_mem_memberNames {d : Declaration} {name : String} (h : name ∈ memberNames d) :
    name ∉ "self" :: Naming.pythonKeywords := by
  obtain ⟨base, hbase, rfl | ⟨n, -, rfl⟩⟩ := Naming.exists_claim_of_mem_grantAll h
  · obtain ⟨m, -, rfl⟩ := List.mem_map.1 hbase
    exact Naming.pythonMember_not_mem m.key
  · have hdigits : ∀ word ∈ "self" :: Naming.pythonKeywords,
        word.toList.getLast?.any Char.isDigit = false := by decide +kernel
    intro hmem
    have hlast := Naming.getLast?_numbered "_" base n
    rw [hdigits _ hmem] at hlast
    cases hlast

/-! ## The parameters -/

/-- The identifier of a parameter, which its annotation stands behind. -/
def parameterName (parameter : String) : String :=
  String.ofList (parameter.toList.takeWhile (· != ':'))

theorem not_mem_colon {name : String} (h : Wordlike name) : ':' ∉ name.toList :=
  h.not_mem (by decide +kernel) (by decide)

theorem parameterName_annotated {name : String} (h : Wordlike name) (type : String) :
    parameterName (name ++ ": " ++ type) = name := by
  have hname : ∀ c ∈ name.toList, (c != ':') = true := by
    intro c hc
    rw [bne_iff_ne]
    rintro rfl
    exact not_mem_colon h hc
  rw [parameterName, String.toList_append, String.toList_append, List.append_assoc,
    List.takeWhile_append_of_pos hname]
  have hcolon : (": ".toList ++ type.toList).takeWhile (· != ':') = [] := rfl
  rw [hcolon, List.append_nil, String.ofList_toList]

theorem parameterName_bare {name : String} (h : Wordlike name) : parameterName name = name := by
  have hname : ∀ c ∈ name.toList, (c != ':') = true := by
    intro c hc
    rw [bne_iff_ne]
    rintro rfl
    exact not_mem_colon h hc
  rw [parameterName, List.takeWhile_eq_self_iff.2 hname, String.ofList_toList]

theorem map_parameterName_zip {names types : List String} (hnames : ∀ name ∈ names, Wordlike name)
    (hlength : names.length = types.length) :
    ((names.zip types).map fun nt => nt.1 ++ ": " ++ nt.2).map parameterName = names := by
  induction names generalizing types with
  | nil => rfl
  | cons name rest ih =>
    obtain ⟨type, types, rfl⟩ := List.exists_cons_of_length_eq_add_one hlength.symm
    obtain ⟨hname, hrest⟩ := List.forall_mem_cons.1 hnames
    rw [List.zip_cons_cons, List.map_cons, List.map_cons, ih hrest (Nat.succ.inj hlength),
      parameterName_annotated hname]

/-- The parameters of a declaration bear the identifiers of its members, annotated or not. -/
theorem map_parameterName {form : Form} {o : Options} {d : Declaration} {ps : List String}
    (h : parameters form o d = .ok ps) : ps.map parameterName = memberNames d := by
  unfold parameters at h
  split at h
  · split at h
    · next types htypes =>
      cases h
      refine map_parameterName_zip (fun name => wordlike_of_mem_memberNames) ?_
      rw [length_memberNames, length_of_spellAll htypes]
    · cases h
  · cases h
    rw [List.map_congr_left fun name hname => parameterName_bare (wordlike_of_mem_memberNames hname),
      List.map_id']

/-! ## Names as they are read -/

theorem nodup_self_memberNames (d : Declaration) : ("self" :: memberNames d).Nodup := by
  refine List.nodup_cons.2 ⟨?_, Naming.nodup_grantAll "_" [] _⟩
  intro hself
  exact not_mem_of_mem_memberNames hself List.mem_cons_self

/-- The normal form in which identifiers are read: it has nothing to change about ASCII. -/
structure IsNormalForm (normal : String → String) : Prop where
  ascii : ∀ name, Naming.IsAscii name → normal name = name

theorem isAscii_of_mem_memberNames {d : Declaration} (h : ∀ m ∈ d.members, Naming.IsAscii m.key)
    {name : String} (hname : name ∈ "self" :: memberNames d) : Naming.IsAscii name := by
  rcases List.mem_cons.1 hname with rfl | hname
  · simp [Naming.IsAscii]
  · refine Naming.isAscii_of_mem_grantAll (by simp [Naming.IsAscii]) ?_ hname
    intro base hbase
    obtain ⟨m, hm, rfl⟩ := List.mem_map.1 hbase
    exact Naming.isAscii_pythonMember (h m hm)

/-- Identifiers are read as different names where no two of them have one normal form. -/
theorem nodup_map_iff (d : Declaration) (normal : String → String) :
    (("self" :: memberNames d).map normal).Nodup ↔
      ∀ a ∈ "self" :: memberNames d, ∀ b ∈ "self" :: memberNames d, normal a = normal b → a = b :=
  ⟨fun h _ ha _ hb => List.inj_on_of_nodup_map h ha hb,
    fun h => (nodup_self_memberNames d).map_on h⟩

/-- In both forms, the parameters of the constructor have distinct identifiers, of which `self` is
    the first, and none of them is a keyword. There are as many as members, the lines of the
    declaration are made of them, and a plain class assigns all of them. They are read as different
    names if and only if no two of them have one normal form, and so always if the keys are in
    ASCII. -/
theorem members_usable (d : Declaration) (form : Form) (o : Options) {normal : String → String}
    (hnormal : IsNormalForm normal) :
    ("self" :: memberNames d).Nodup ∧
    (∀ name ∈ memberNames d, name ∉ Naming.pythonKeywords) ∧
    (memberNames d).length = d.members.length ∧
    (∀ text, render form o d = .ok text →
      ∃ ps, ps.map parameterName = memberNames d ∧
        text = "\n".intercalate (lines form o d ps)) ∧
    ((("self" :: memberNames d).map normal).Nodup ↔
      ∀ a ∈ "self" :: memberNames d, ∀ b ∈ "self" :: memberNames d, normal a = normal b → a = b) ∧
    ((∀ m ∈ d.members, Naming.IsAscii m.key) →
      ("self" :: memberNames d).map normal = "self" :: memberNames d) := by
  refine ⟨nodup_self_memberNames d, ?_, length_memberNames d, ?_, nodup_map_iff d normal, ?_⟩
  · intro name hname hkeyword
    exact not_mem_of_mem_memberNames hname (List.mem_cons_of_mem _ hkeyword)
  · intro text h
    unfold render at h
    split at h
    · next ps hps =>
      cases h
      exact ⟨ps, map_parameterName hps, rfl⟩
    · cases h
  · intro hascii
    have hsame : ∀ name ∈ "self" :: memberNames d, normal name = id name := fun name hname =>
      hnormal.ascii name (isAscii_of_mem_memberNames hascii hname)
    rw [List.map_congr_left hsame, List.map_id]

/-- A normal form that knows of two characters beyond ASCII, the long s and the ligature of f and i. -/
def unfolded (name : String) : String :=
  String.ofList (name.toList.flatMap fun c =>
    if c = '\u017F' then ['s'] else if c = '\uFB01' then ['f', 'i'] else [c])

theorem isNormalForm_unfolded : IsNormalForm unfolded where
  ascii name h := by
    have hkept : ∀ c ∈ name.toList, (if c = '\u017F' then ['s']
        else if c = '\uFB01' then ['f', 'i'] else [c]) = [c] := by
      intro c hc
      have hlt := h c hc
      rw [if_neg, if_neg]
      · rintro rfl
        revert hlt
        decide
      · rintro rfl
        revert hlt
        decide
    rw [unfolded, List.flatMap_congr hkept, List.flatMap_singleton', String.ofList_toList]

/-- Keys that make one name, a key that has the number of another one, and keys that are keywords. -/
theorem members_usable_of_collisions :
    let d : Declaration := ⟨"Root", ["id", "ID", "id_2", "class", "class_", "self", "1"].map
      fun key => ⟨key, .value .int32, false⟩⟩
    memberNames d = ["id", "id_2", "id_2_2", "class_", "class__2", "self_", "_1"] ∧
      ("self" :: memberNames d).Nodup ∧
      (("self" :: memberNames d).map unfolded).Nodup ∧
      ∃ text ps, render .plainClass (.forLanguage .python) d = .ok text ∧
        ps.map parameterName = memberNames d ∧
        text = "\n".intercalate (lines .plainClass (.forLanguage .python) d ps) := by
  intro d
  obtain ⟨hnodup, -, -, hrender, -, hread⟩ :=
    members_usable d .plainClass (.forLanguage .python) isNormalForm_unfolded
  have hascii : ∀ m ∈ d.members, Naming.IsAscii m.key := by
    intro m hm
    obtain ⟨key, hkey, rfl⟩ := List.mem_map.1 hm
    revert key
    simp [Naming.IsAscii]
  have hscalar : d.AllScalar := by
    intro m hm
    obtain ⟨key, -, rfl⟩ := List.mem_map.1 hm
    rfl
  obtain ⟨text, htext⟩ := exists_render hscalar .plainClass (.forLanguage .python)
  obtain ⟨ps, hps, hlines⟩ := hrender text htext
  exact ⟨by decide +kernel, hnodup, (hread hascii).symm ▸ hnodup, text, ps, htext, hps, hlines⟩

/-- A key with a long s in front of `elf`, whose parameter is read as a second `self`, and a key with
    a ligature, whose parameter is read as that of the other key. -/
theorem parameters_repeated :
    let long : Declaration := ⟨"Root", [⟨"\u017Felf", .value .int32, false⟩]⟩
    let ligature : Declaration :=
      ⟨"Root", [⟨"\uFB01", .value .int32, false⟩, ⟨"fi", .value .int32, false⟩]⟩
    (render .plainClass (.forLanguage .python) long).toOption = some
        ("class Root:\n    def __init__(self, \u017Felf: int) -> None:\n"
          ++ "        self.\u017Felf = \u017Felf") ∧
      ("self" :: memberNames long).map unfolded = ["self", "self"] ∧
      ¬ (("self" :: memberNames long).map unfolded).Nodup ∧
      ("self" :: memberNames ligature).map unfolded = ["self", "fi", "fi"] := by
  decide +kernel

end Python

end SampleTypes
