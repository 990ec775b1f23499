import SampleTypes.Proofs.Naming.Settling

set_option autoImplicit false

/-! # Snake case and pascal case of one text

Both conversions begin with the words of a text. What snake case writes has the same words again,
in small letters, unless one of them falls apart. Where in addition a letter and its small form
have one capital, capitalizing these words gives what the words of the text itself give. In ASCII
both hold of every text. -/

namespace SampleTypes.Naming

open SampleTypes.Unicode

/-! ## Capitalizing small words -/

/-- Only the first letter of a word shows whether the word was small before. -/
theorem capitalize_map_lowerChar {w : List Char}
    (h : ∀ c ∈ w.head?, upperChar (lowerChar c) = upperChar c) :
    capitalize (w.map lowerChar) = capitalize w := by
  cases w with
  | nil => rfl
  | cons c rest =>
    rw [List.map_cons, capitalize, capitalize, h c rfl, List.map_map]
    exact congrArg (upperChar c :: ·) (List.map_congr_left fun d _ => lowerChar_lowerChar d)

theorem flatMap_capitalize_smallWords {s : List Char}
    (h : ∀ w ∈ words s, ∀ c ∈ w.head?, upperChar (lowerChar c) = upperChar c) :
    (smallWords s).flatMap capitalize = pascalPass s := by
  rw [smallWords, List.flatMap_map, pascalPass]
  exact List.flatMap_congr fun w hw => capitalize_map_lowerChar (h w hw)

/-! ## From snake case to pascal case -/

/-- Pascal case depends on what its first pass makes of a text. -/
theorem pascalCase_congr {s t : List Char} (h : pascalPass s = pascalPass t) :
    pascalCase s = pascalCase t := by
  rw [pascalCase, pascalCase, h]

/-- Pascal case can be reached by way of snake case if the words are found again and begin with
    letters that have the capital of their small form. -/
theorem pascalCase_snakeCase {s : List Char} (hwords : words (snakeCase s) = smallWords s)
    (hcapitals : ∀ w ∈ words s, ∀ c ∈ w.head?, upperChar (lowerChar c) = upperChar c) :
    pascalCase (snakeCase s) = pascalCase s := by
  refine pascalCase_congr ?_
  rw [pascalPass, hwords, flatMap_capitalize_smallWords hcapitals]

/-- Both conversions cut a text in ASCII at the same places. So its snake case has the same pascal
    case as the text itself, and names the same type. -/
theorem casings_agree {raw : String} (h : ∀ c ∈ raw.toList, c.toNat < 128) :
    words (snakeCase raw.toList) = (words raw.toList).map (fun w => w.map lowerChar) ∧
    pascalCase (snakeCase raw.toList) = pascalCase raw.toList ∧
    typeIdentifier (String.ofList (snakeCase raw.toList)) = typeIdentifier raw := by
  have hascii : ∀ w ∈ words raw.toList, ∀ c ∈ w, c.toNat < 128 := fun w hw c hc =>
    h c (mem_of_mem_words hw hc)
  have hwords : words (snakeCase raw.toList) = smallWords raw.toList :=
    (words_snakeCase_iff raw.toList).2 fun w hw => not_hasBoundary_of_ascii (hascii w hw)
  have hpascal : pascalCase (snakeCase raw.toList) = pascalCase raw.toList :=
    pascalCase_snakeCase hwords fun w hw c hc =>
      upperChar_lowerChar_of_ascii (hascii w hw c (List.mem_of_mem_head? hc))
  refine ⟨hwords, hpascal, ?_⟩
  rw [typeIdentifier, String.toList_ofList, hpascal, typeIdentifier]

/-- A key with an acronym, a hyphen, digits and single letters, and its snake form. -/
theorem casings_agree_httpServer :
    (∀ c ∈ "HTTPServer-aB2cUserID".toList, c.toNat < 128) ∧
    snakeCase "HTTPServer-aB2cUserID".toList = "http_server_a_b2c_user_id".toList ∧
    pascalCase "http_server_a_b2c_user_id".toList = pascalCase "HTTPServer-aB2cUserID".toList ∧
    typeIdentifier "http_server_a_b2c_user_id" = typeIdentifier "HTTPServer-aB2cUserID" := by
  have hascii : ∀ c ∈ "HTTPServer-aB2cUserID".toList, c.toNat < 128 := by simp
  have hsnake : snakeCase "HTTPServer-aB2cUserID".toList = "http_server_a_b2c_user_id".toList := by
    decide +kernel
  obtain ⟨-, hpascal, htype⟩ := casings_agree hascii
  rw [hsnake] at hpascal htype
  rw [String.ofList_toList] at htype
  exact ⟨hascii, hsnake, hpascal, htype⟩

end SampleTypes.Naming
