import SampleTypes.Proofs.Declaration.Scalars
import SampleTypes.Proofs.Naming.Granting
import SampleTypes.Target.Render

set_option autoImplicit false

/-! # Declarations that can be spelled

Every language spells every scalar type, and the placeholder for anything. Declarations whose
value types are those of scalars therefore render in every style, and a source holds the block of
each of them, in their order. -/

namespace SampleTypes

/-! ## Types -/

theorem Language.exists_spellingOf (language : Language) {type : ValueType}
    (h : type.isScalar = true ∨ type = .object) :
    ∃ spelling, language.spellingOf type = .ok spelling := by
  cases language <;> cases type <;>
    first | exact ⟨_, rfl⟩ | simp [ValueType.isScalar] at h

theorem TypeExpr.AllScalar.exists_spell {type : TypeExpr} (h : type.AllScalar)
    (language : Language) : ∃ spelling, type.spell language = .ok spelling := by
  induction type with
  | any => exact language.exists_spellingOf (.inr rfl)
  | value type => exact language.exists_spellingOf (.inl h)
  | named name => exact ⟨name, rfl⟩
  | list item itemNullable ih =>
    obtain ⟨spelling, hitem⟩ := ih h
    exact ⟨language.listOf (language.mark itemNullable spelling), by rw [spell, hitem]⟩

/-- Members are spelled one by one. -/
theorem exists_spellAll {members : List Member} (h : ∀ m ∈ members, m.type.AllScalar)
    (language : Language) :
    ∃ types, spellAll language members = .ok types ∧ types.length = members.length := by
  induction members with
  | nil => exact ⟨[], rfl, rfl⟩
  | cons m rest ih =>
    obtain ⟨hm, hrest⟩ := List.forall_mem_cons.1 h
    obtain ⟨spelling, hspelling⟩ := hm.exists_spell language
    obtain ⟨types, htypes, hlength⟩ := ih hrest
    refine ⟨language.mark m.nullable spelling :: types, ?_, by simp [hlength]⟩
    rw [spellAll, Member.spell, hspelling, htypes]

/-! ## Declarations -/

/-- Of as many names and types as members, each field takes one. -/
theorem CSharp.zip_fields {names types : List String} {members : List Member}
    (hnames : names.length = members.length) (htypes : types.length = members.length) :
    let fs : List CSharp.Field :=
      (names.zip types).zipWith (fun nt m => ⟨nt.1, nt.2, m.key⟩) members
    fs.map (·.name) = names ∧ fs.map (·.key) = members.map (·.key) := by
  induction members generalizing names types with
  | nil =>
    rw [List.eq_nil_of_length_eq_zero hnames]
    exact ⟨rfl, rfl⟩
  | cons m rest ih =>
    obtain ⟨name, names, rfl⟩ := List.exists_cons_of_length_eq_add_one hnames
    obtain ⟨type, types, rfl⟩ := List.exists_cons_of_length_eq_add_one htypes
    obtain ⟨hrestNames, hrestKeys⟩ := ih (Nat.succ.inj hnames) (Nat.succ.inj htypes)
    exact ⟨congrArg (name :: ·) hrestNames, congrArg (m.key :: ·) hrestKeys⟩

/-- The fields of a C# declaration are its members, under the identifiers they are granted. -/
theorem CSharp.exists_fields {d : Declaration} (h : d.AllScalar) :
    ∃ fs, CSharp.fields d = .ok fs ∧ fs.map (·.name) = CSharp.memberNames d ∧
      fs.map (·.key) = d.members.map (·.key) := by
  obtain ⟨types, htypes, hlength⟩ := exists_spellAll h .csharp
  have hnames : (CSharp.memberNames d).length = d.members.length := by
    rw [CSharp.memberNames, Naming.grantAll_length, List.length_map]
  exact ⟨_, by rw [CSharp.fields, htypes], CSharp.zip_fields hnames hlength⟩

theorem Python.exists_parameters {d : Declaration} (h : d.AllScalar) (form : Python.Form)
    (o : Options) : ∃ ps, Python.parameters form o d = .ok ps := by
  obtain ⟨types, htypes, -⟩ := exists_spellAll h .python
  unfold Python.parameters
  rw [htypes]
  split_ifs
  · exact ⟨_, rfl⟩
  · exact ⟨_, rfl⟩

theorem CSharp.exists_render {d : Declaration} (h : d.AllScalar) (form : CSharp.Form)
    (o : Options) : ∃ block, CSharp.render form o d = .ok block := by
  obtain ⟨fs, hfs, -, -⟩ := CSharp.exists_fields h
  exact ⟨CSharp.block form o d.name fs, by rw [CSharp.render, hfs]⟩

theorem Python.exists_render {d : Declaration} (h : d.AllScalar) (form : Python.Form)
    (o : Options) : ∃ block, Python.render form o d = .ok block := by
  obtain ⟨ps, hps⟩ := Python.exists_parameters h form o
  exact ⟨"\n".intercalate (Python.lines form o d ps), by rw [Python.render, hps]⟩

theorem Declaration.exists_render {d : Declaration} (h : d.AllScalar) (o : Options) :
    ∃ block, d.render o = .ok block := by
  unfold Declaration.render
  cases o.style with
  | record => exact CSharp.exists_render h .record o
  | classType => exact CSharp.exists_render h .classType o
  | structType => exact CSharp.exists_render h .structType o
  | dataClass => exact Python.exists_render h .dataClass o
  | plainClass => exact Python.exists_render h .plainClass o

/-! ## Sources -/

/-- The source of these declarations: the block of each one in its place, below the imports. -/
def CompleteSource (o : Options) (declarations : List Declaration) (source : String) : Prop :=
  ∃ blocks, List.Forall₂ (fun d block => d.render o = .ok block) declarations blocks ∧
    source =
      if declarations = [] then ""
      else importBlock o declarations ++ "\n\n".intercalate blocks ++ "\n"

theorem exists_renderAll {declarations : List Declaration} (h : ∀ d ∈ declarations, d.AllScalar)
    (o : Options) :
    ∃ blocks, renderAll o declarations = .ok blocks ∧
      List.Forall₂ (fun d block => d.render o = .ok block) declarations blocks := by
  induction declarations with
  | nil => exact ⟨[], rfl, .nil⟩
  | cons d rest ih =>
    obtain ⟨hd, hrest⟩ := List.forall_mem_cons.1 h
    obtain ⟨block, hblock⟩ := Declaration.exists_render hd o
    obtain ⟨blocks, hblocks, hall⟩ := ih hrest
    exact ⟨block :: blocks, by rw [renderAll, hblock, hblocks], .cons hblock hall⟩

theorem exists_completeSource {declarations : List Declaration}
    (h : ∀ d ∈ declarations, d.AllScalar) (o : Options) :
    ∃ source, renderDeclarations o declarations = .ok source ∧
      CompleteSource o declarations source := by
  obtain ⟨blocks, hblocks, hall⟩ := exists_renderAll h o
  cases declarations with
  | nil => exact ⟨"", rfl, blocks, hall, rfl⟩
  | cons d rest =>
    refine ⟨_, ?_, blocks, hall, rfl⟩
    rw [renderDeclarations, hblocks]
    rfl

end SampleTypes
