import SampleTypes.Document
import SampleTypes.Proofs.Inference.Faults
import SampleTypes.Proofs.Target.Spelling

set_option autoImplicit false

/-! # Which answer a document is given

The arguments are looked at first, then the source, then its numbers, then its root, and last the
keys of objects that share a slot. `Answer.due` says so in terms of the arguments and the source
alone, and rendering gives the answer that is due. Two failures are never an answer: a type that
has been inferred can be spelled, and what is in memory can be read. A text that is an answer is
the whole text. -/

namespace SampleTypes

open Json (Bytes Value)

/-- What rendering a document may come to. -/
inductive Answer where
  | invalidArgument
  | unsupportedTarget
  | malformed
  | unsupportedNumber
  | emptyRootArray
  | unsupportedRoot
  /-- The text, or objects that share a slot and have different keys. -/
  | settled
  deriving Repr, DecidableEq

namespace Answer

/-- The answer that a result stands for; none for the failures that are no answer. -/
def of? : Except Error String → Option Answer
  | .ok _ => some .settled
  | .error (.incompatibleShapes ..) => some .settled
  | .error (.invalidArgument _) => some .invalidArgument
  | .error (.unsupportedTarget ..) => some .unsupportedTarget
  | .error (.malformed _) => some .malformed
  | .error (.unsupportedNumber _) => some .unsupportedNumber
  | .error .emptyRootArray => some .emptyRootArray
  | .error (.unsupportedRoot _) => some .unsupportedRoot
  | .error (.missingAlias ..) => none
  | .error (.unreadable _) => none

/-- The answer due to a document. Its numbers come first, wherever they stand. -/
def dueTo (document : Value) : Answer :=
  if document.literals.any isUntyped then .unsupportedNumber
  else if document.isEmptyArray then .emptyRootArray
  else if !document.holdsObjects then .unsupportedRoot
  else .settled

theorem of?_of_isIncompatible {e : Error} (h : e.IsIncompatible) :
    of? (.error e) = some .settled := by
  obtain ⟨path, expected, found, rfl⟩ := h
  rfl

end Answer

/-! ## Documents -/

theorem renderTyped_eq (typeName : String) (document : Value) (o : Options) :
    renderTyped typeName document o =
      match declarationsFor typeName o.language document with
      | .error e => .error e
      | .ok declarations => renderDeclarations o declarations := by
  unfold renderTyped declarationsFor
  cases Property.root document <;> rfl

/-- Once there are declarations there is a text, and it is the complete source of them. -/
theorem renderTyped_of_declarations {typeName : String} {document : Value} {o : Options}
    {declarations : List Declaration}
    (h : declarationsFor typeName o.language document = .ok declarations) :
    ∃ text, renderTyped typeName document o = .ok text ∧ CompleteSource o declarations text := by
  rw [renderTyped_eq, h]
  exact exists_completeSource (declarationsFor_allScalar h) o

theorem renderTyped_of_root_error {typeName : String} {document : Value} {root : Property}
    {e : Error} (hroot : Property.root document = .ok root)
    (hobjects : rootObjects root = .error e) (o : Options) :
    renderTyped typeName document o = .error e := by
  have hmembers : rootMembers root = .error e := by rw [rootMembers, hobjects]
  rw [renderTyped_eq, declarationsFor_of_root hroot, hmembers]
  rfl

/-- A document with root objects fails on account of their keys, or not at all. -/
theorem renderTyped_of_objects {document : Value} {root : Property} {objects : List Property}
    (hroot : Property.root document = .ok root) (hobjects : rootObjects root = .ok objects)
    (typeName : String) (o : Options) :
    Answer.of? (renderTyped typeName document o) = some .settled := by
  have hdeclarations := declarationsFor_of_root hroot typeName o.language
  obtain ⟨hannotates, -⟩ := Property.root_annotates hroot
  rcases rootMembers_of_objects hannotates hobjects with ⟨e, hmembers, hincompatible⟩ | ⟨slots, hmembers⟩
  · rw [hmembers] at hdeclarations
    rw [renderTyped_eq, hdeclarations]
    exact Answer.of?_of_isIncompatible hincompatible
  · rw [hmembers] at hdeclarations
    obtain ⟨text, htext, -⟩ := renderTyped_of_declarations hdeclarations
    rw [htext]
    rfl

/-- A document is given the answer that is due to it. -/
theorem renderTyped_answer (typeName : String) (document : Value) (o : Options) :
    Answer.of? (renderTyped typeName document o) = some (Answer.dueTo document) := by
  unfold Answer.dueTo
  rcases Property.root_cases document with ⟨literal, hliteral, huntyped, hroot⟩ |
    ⟨htyped, root, hroot⟩
  · rw [if_pos (List.any_eq_true.2 ⟨literal, hliteral, huntyped⟩), renderTyped, hroot]
    rfl
  · obtain ⟨hannotates, rfl⟩ := Property.root_annotates hroot
    rw [if_neg (by simpa using htyped)]
    rcases rootObjects_cases hannotates with ⟨hempty, hobjects⟩ |
      ⟨hempty, ⟨hholds, found, hobjects⟩ | ⟨hholds, objects, hobjects⟩⟩
    · rw [renderTyped_of_root_error hroot hobjects o, hempty]
      rfl
    · rw [renderTyped_of_root_error hroot hobjects o, hempty, hholds]
      rfl
    · rw [renderTyped_of_objects hroot hobjects, hempty, hholds]
      rfl

/-- The text for a document is the complete source of its declarations. -/
theorem renderTyped_complete {typeName : String} {document : Value} {o : Options} {text : String}
    (h : renderTyped typeName document o = .ok text) :
    ∃ declarations, declarationsFor typeName o.language document = .ok declarations ∧
      CompleteSource o declarations text := by
  cases hdeclarations : declarationsFor typeName o.language document with
  | error e => rw [renderTyped_eq, hdeclarations] at h; cases h
  | ok declarations =>
    obtain ⟨text', htext, hcomplete⟩ := renderTyped_of_declarations hdeclarations
    obtain rfl : text' = text := Except.ok.inj (htext.symm.trans h)
    exact ⟨declarations, rfl, hcomplete⟩

/-! ## Sources -/

end SampleTypes
