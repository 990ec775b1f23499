import SampleTypes.CommandLine.Run
import SampleTypes.Proofs.Document.Faults

set_option autoImplicit false

/-! # Which targets a run can ask for

Rendering refuses a style that is not one of the language's. Every way of choosing options keeps
language and style together: the defaults, the file of options, and the arguments that replace one
or the other. So no run is refused for its target, whatever its tokens say. -/

namespace SampleTypes

open Json (Bytes)

/-! ## Supported targets -/

/-- The style is one of the language's. -/
def Options.IsSupported (o : Options) : Prop :=
  o.style.language = o.language

theorem checkTarget_ok_iff {o : Options} : checkTarget o = .ok () ↔ o.IsSupported := by
  unfold checkTarget Options.IsSupported
  split
  · rename_i h
    exact ⟨fun _ => h, fun _ => rfl⟩
  · rename_i h
    exact ⟨fun hok => absurd hok (by simp), fun hsupported => absurd hsupported h⟩

/-- A supported target is no reason to refuse a document, and neither is a document. -/
theorem renderBytes_ne_unsupportedTarget {o : Options} (h : o.IsSupported) (name : String)
    (source : Bytes) (language : Language) (style : Style) :
    renderBytes name source o ≠ .error (.unsupportedTarget language style) := by
  intro hrefused
  unfold renderBytes rootTypeName at hrefused
  rw [checkTarget_ok_iff.2 h] at hrefused
  split at hrefused
  · rename_i e hname
    split at hname
    · obtain rfl := Except.error.inj hname
      exact absurd hrefused (by simp)
    · exact absurd hname (by simp)
  · unfold parseStrict at hrefused
    split at hrefused
    · rename_i e hsource
      split at hsource
      · exact absurd hsource (by simp)
      · obtain rfl := Except.error.inj hsource
        exact absurd hrefused (by simp)
    · rename_i typeName _ _ document _
      have hanswer := renderTyped_answer typeName document o
      rw [hrefused] at hanswer
      unfold Answer.dueTo at hanswer
      split_ifs at hanswer <;> exact absurd hanswer (by simp [Answer.of?])

/-! ## Choosing a style -/

@[simp]
theorem Style.language_default (language : Language) :
    (Style.default language).language = language := by
  cases language <;> rfl

/-- Whatever the style, what becomes of it is one of the language's. -/
@[simp]
theorem Style.language_fitTo (style : Style) (language : Language) :
    (style.fitTo language).language = language := by
  unfold Style.fitTo
  split
  · assumption
  · exact Style.language_default language

@[simp]
theorem Style.language_ofTokenFor (token : String) (language : Language) :
    (Style.ofTokenFor token language).language = language := by
  unfold Style.ofTokenFor
  split
  · exact Style.language_fitTo _ language
  · exact Style.language_default language

/-! ## Choosing options -/

theorem Options.isSupported_forLanguage (language : Language) :
    (Options.forLanguage language).IsSupported :=
  Style.language_default language

/-- What is written down is made to fit, whichever of its fields are open. -/
theorem OptionsDraft.isSupported_resolve (d : OptionsDraft) : d.resolve.IsSupported :=
  Style.language_fitTo _ d.language

theorem Options.isSupported_ofSource {content : Bytes} {o : Options}
    (h : Options.ofSource content = .ok o) : o.IsSupported := by
  unfold Options.ofSource at h
  split at h
  · rename_i draft _
    obtain rfl : draft.resolve = o := Except.ok.inj h
    exact draft.isSupported_resolve
  · exact absurd h (by simp)

namespace CommandLine

open Files (FileFault Tree)

variable {a : Arguments} {o : Options} {files : FileReader} {host : Host} {t : Tree}
  {piped : Bytes}

/-- Another language takes the style along if it can. -/
theorem Arguments.isSupported_withLanguage (a : Arguments) (h : o.IsSupported) :
    (a.withLanguage o).IsSupported := by
  unfold Arguments.withLanguage
  split
  · exact h
  · exact Style.language_fitTo o.style _

/-- Another style is looked for in the language that there is by then. -/
theorem Arguments.isSupported_withStyle (a : Arguments) (h : o.IsSupported) :
    (a.withStyle o).IsSupported := by
  unfold Arguments.withStyle
  split
  · exact h
  · exact Style.language_ofTokenFor _ o.language

/-- Arguments are taken one after the other, and what they do not mention stays. -/
theorem Arguments.isSupported_override (a : Arguments) (h : o.IsSupported) :
    (a.override o).IsSupported :=
  a.isSupported_withStyle (a.isSupported_withLanguage h)

theorem Arguments.isSupported_of_resolve (h : a.resolve files = .ok o) : o.IsSupported := by
  unfold Arguments.resolve at h
  split at h
  · obtain rfl : a.override .default = o := Except.ok.inj h
    exact a.isSupported_override (Options.isSupported_forLanguage .csharp)
  · split at h
    · exact absurd h (by simp)
    · split at h
      · rename_i chosen hchosen
        obtain rfl : a.override chosen = o := Except.ok.inj h
        exact a.isSupported_override (Options.isSupported_ofSource hchosen)
      · exact absurd h (by simp)

/-! ## Refusals -/

theorem readFile_ne_document (files : FileReader) (path : String) (e : Error) :
    readFile files path ≠ .error (.document e) := by
  unfold readFile
  split <;> simp

theorem Arguments.resolve_ne_document (a : Arguments) (files : FileReader) (e : Error) :
    a.resolve files ≠ .error (.document e) := by
  unfold Arguments.resolve
  split
  · simp
  · split
    · rename_i failure hread
      intro h
      rw [Except.error.inj h] at hread
      exact readFile_ne_document files _ e hread
    · split <;> simp

theorem Arguments.source_ne_document (a : Arguments) (files : FileReader)
    (pipe : Except FileFault Bytes) (e : Error) : a.source files pipe ≠ .error (.document e) := by
  unfold Arguments.source
  split
  · simp
  · split
    · split
      · exact readFile_ne_document files _ e
      · simp
      · simp
    · simp

theorem Host.save_ne_document {target : Files.Path} {text : String} {left : Tree} (e : Error) :
    host.save t target text ≠ (left, some (.document e)) := by
  unfold Host.save
  simp only
  split
  · simp
  · split
    · simp
    · split
      · simp
      · split <;> simp

/-- A run fails on account of the document only if the library does. -/
theorem renderBytes_of_execute {e : Error}
    (h : (host.execute t a piped).1 = .error (.document e)) :
    ∃ o source, a.resolve (host.read t) = .ok o ∧
      renderBytes (a.name.getD "Root") source o = .error e := by
  unfold Host.execute at h
  split at h
  · rename_i failure hproduct
    obtain rfl : failure = .document e := Except.error.inj h
    unfold Arguments.product at hproduct
    split at hproduct
    · rename_i failure hresolve
      rw [Except.error.inj hproduct] at hresolve
      exact absurd hresolve (a.resolve_ne_document _ e)
    · rename_i o ho
      split at hproduct
      · rename_i failure hsource
        rw [Except.error.inj hproduct] at hsource
        exact absurd hsource (a.source_ne_document _ _ e)
      · rename_i source _
        split at hproduct
        · rename_i e' hrender
          obtain rfl : e' = e := Failure.document.inj (Except.error.inj hproduct)
          exact ⟨o, source, ho, hrender⟩
        · exact absurd hproduct (by simp)
  · split at h
    · exact absurd h (by simp)
    · split at h
      · rename_i left failure hsave
        rw [Except.error.inj h] at hsave
        exact absurd hsave (Host.save_ne_document e)
      · exact absurd h (by simp)

/-- What a run says when it is refused for its target, it says for no other reason. -/
theorem Failure.unsupportedTarget_of_outcome {e : Failure} {language : Language} {style : Style}
    (h : e.outcome = (Failure.document (.unsupportedTarget language style)).outcome) :
    ∃ language style, e = .document (.unsupportedTarget language style) := by
  have hcode : e.exitCode = 70 := congrArg Outcome.exitCode h
  have herrors := congrArg (fun outcome => outcome.errors.toList) h
  simp only [Failure.outcome, String.toList_append, List.append_cancel_left_eq,
    List.append_cancel_right_eq] at herrors
  replace herrors : e.message.toList =
      ("target not implemented: " ++ language.name ++ " " ++ style.name).toList := herrors
  cases e with
  | document e =>
    -- three faults have the status; their first letters tell them apart
    cases e with
    | unsupportedTarget language style => exact ⟨language, style, rfl⟩
    | missingAlias type of =>
      change ("no " ++ of.name ++ " alias for canonical type " ++ type.name).toList = _ at herrors
      exact absurd herrors (by simp)
    | invalidArgument reason =>
      change ("invalid argument: " ++ reason).toList = _ at herrors
      exact absurd herrors (by simp)
    | _ => exact absurd hcode (by simp [Failure.exitCode, Error.exitCode])
  | _ => exact absurd hcode (by simp [Failure.exitCode])

theorem execute_ne_unsupportedTarget (host : Host) (t : Tree) (a : Arguments) (piped : Bytes)
    (language : Language) (style : Style) :
    (host.execute t a piped).1 ≠ .error (.document (.unsupportedTarget language style)) := by
  intro h
  obtain ⟨o, source, ho, hrefused⟩ := renderBytes_of_execute h
  exact renderBytes_ne_unsupportedTarget (Arguments.isSupported_of_resolve ho) _ source language
    style hrefused

theorem runOn_ne_unsupportedTarget (host : Host) (t : Tree) (arguments : List String)
    (piped : Bytes) (language : Language) (style : Style) :
    (runOn host t arguments piped).1
      ≠ (Failure.document (.unsupportedTarget language style)).outcome := by
  intro h
  unfold runOn at h
  split at h
  · rename_i refusal _
    have hcode : (refusal.outcome host.manual arguments).exitCode = 70 := congrArg Outcome.exitCode h
    cases refusal <;> exact absurd hcode (by simp [Refusal.outcome])
  · rename_i a _
    split at h
    · rename_i e left hexecute
      obtain ⟨language, style, rfl⟩ := Failure.unsupportedTarget_of_outcome h
      exact execute_ne_unsupportedTarget host t a piped language style (by rw [hexecute])
    · rename_i p left _
      have hcode : p.outcome.exitCode = 70 := congrArg Outcome.exitCode h
      exact absurd hcode (by simp [Product.outcome])

/-- Options can be written down and replaced in any way, and the target they come to is one that
    there is. -/
theorem targets_supported :
    (∀ content o, Options.ofSource content = .ok o → o.IsSupported) ∧
    (∀ (a : Arguments) files o, a.resolve files = .ok o → o.IsSupported ∧ checkTarget o = .ok ()) ∧
    (∀ host t arguments piped language style, (runOn host t arguments piped).1
      ≠ (Failure.document (.unsupportedTarget language style)).outcome) ∧
    (∀ token language, (Style.ofTokenFor token language).language = language) ∧
    ∀ language, (Options.forLanguage language).IsSupported := by
  refine ⟨?_, ?_, runOn_ne_unsupportedTarget, Style.language_ofTokenFor,
    Options.isSupported_forLanguage⟩
  · intro content o h
    exact Options.isSupported_ofSource h
  · intro a files o h
    have hsupported := Arguments.isSupported_of_resolve h
    exact ⟨hsupported, checkTarget_ok_iff.2 hsupported⟩

/-- Options written down without field names, with a style that the language does not have. -/
def foreignStyleOptions : Bytes :=
  utf8Bytes "[\"Py\", \"struct\"]"

/-- Arguments that go back to the other language and name a style of neither. -/
def foreignStyleArguments : Arguments :=
  { Arguments.blank with options := some "o.json", language := some "C#", style := some "rec ords" }

theorem targets_supported_of_foreign_styles :
    Options.ofSource foreignStyleOptions = .ok (.forLanguage .python) ∧
    (Options.forLanguage .python).IsSupported ∧
    foreignStyleArguments.resolve (fun _ => .ok foreignStyleOptions)
      = .ok (.forLanguage .csharp) ∧
    checkTarget (.forLanguage .csharp) = .ok () := by
  have hwritten : Options.ofSource foreignStyleOptions = .ok (.forLanguage .python) := by cbv
  have hmeant : foreignStyleArguments.resolve (fun _ => .ok foreignStyleOptions)
      = .ok (.forLanguage .csharp) := by cbv
  exact ⟨hwritten, targets_supported.1 _ _ hwritten, hmeant,
    (targets_supported.2.1 _ _ _ hmeant).2⟩

end CommandLine

end SampleTypes
