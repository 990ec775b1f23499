import SampleTypes.Proofs.Target.Spelling

set_option autoImplicit false

/-! # Names of C# members

A member may not bear the name of the type it stands in, and no two members of a type may bear
one name. The second always holds. The first holds of every name that a key makes, which gives
way to the name of the type; but a key whose name is taken already is numbered after that, and
counting may come up to the name of the type. -/

namespace SampleTypes.CSharp

open Json (Value)

theorem append_value_ne (name : String) : name ++ "Value" ≠ name := by
  intro h
  have hlength := congrArg String.length h
  rw [String.length_append] at hlength
  have hvalue : "Value".length = 5 := by decide
  omega

/-- The name that a key makes is not that of the type. -/
theorem csharpMember_ne (raw enclosing : String) : Naming.csharpMember raw enclosing ≠ enclosing := by
  simp only [Naming.csharpMember]
  split
  · next heq => rw [heq]; exact append_value_ne enclosing
  · next hne => exact hne

/-- The names that the members of a declaration ask for. -/
def claims (d : Declaration) : List String :=
  d.members.map fun m => Naming.csharpMember m.key d.name

theorem name_not_mem_claims (d : Declaration) : d.name ∉ claims d := by
  intro hmem
  obtain ⟨m, -, heq⟩ := List.mem_map.1 hmem
  exact csharpMember_ne m.key d.name heq

/-- In every form, the members of a declaration that is made for a document have distinct
    identifiers. One of them is the name of the declaration if and only if the name of a repeated
    member, counted on, comes up to it. -/
theorem member_bears_name_iff {document : Value} {rootName : String} {language : Language}
    {declarations : List Declaration}
    (h : declarationsFor rootName language document = .ok declarations) {d : Declaration}
    (hd : d ∈ declarations) (form : Form) (o : Options) :
    ∃ fs, render form o d = .ok (block form o d.name fs) ∧
      fs.map (·.key) = d.members.map (·.key) ∧
      (fs.map (·.name)).Nodup ∧
      (d.name ∈ fs.map (·.name) ↔ Naming.CountsUpTo "" (claims d) d.name) := by
  obtain ⟨fs, hfs, hnames, hkeys⟩ := exists_fields (declarationsFor_allScalar h d hd)
  refine ⟨fs, by rw [render, hfs], hkeys, ?_, ?_⟩
  · rw [hnames]
    exact Naming.nodup_grantAll "" [] (claims d)
  · rw [hnames]
    exact Naming.mem_grantAll_iff (name_not_mem_claims d)

/-- Two keys that make one name, and one that makes the name of the type. -/
theorem root_bears_name_iff :
    let d : Declaration := ⟨"Root", [⟨"id", .value .int32, false⟩, ⟨"ID", .value .text, false⟩,
      ⟨"root", .value .bool, false⟩]⟩
    ∃ fs, render .record .default d = .ok (block .record .default "Root" fs) ∧
      fs.map (·.key) = ["id", "ID", "root"] ∧ (fs.map (·.name)).Nodup ∧
      ("Root" ∈ fs.map (·.name) ↔ Naming.CountsUpTo "" (claims d) "Root") := by
  intro d
  have h : declarationsFor "Root" .csharp (.object [("id", .number "1"), ("ID", .string "a"),
      ("root", .bool true)]) = .ok [d] := by decide +kernel
  exact member_bears_name_iff h List.mem_cons_self .record .default

/-- In a type with the name `Id2`, the second of two keys that make the name `Id` is numbered
    into the name of the type. -/
theorem member_bears_name :
    ∃ d fs, declarationsFor (Naming.typeIdentifier "Id2") .csharp
        (.object [("id", .number "1"), ("Id", .number "2")]) = .ok [d] ∧
      render .record .default d = .ok (block .record .default d.name fs) ∧
      d.name ∈ fs.map (·.name) :=
  ⟨⟨"Id2", [⟨"id", .value .int32, false⟩, ⟨"Id", .value .int32, false⟩]⟩,
    [⟨"Id", "int", "id"⟩, ⟨"Id2", "int", "Id"⟩], by decide +kernel, by decide +kernel,
    by decide +kernel⟩

end SampleTypes.CSharp
