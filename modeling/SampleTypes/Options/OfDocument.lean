import SampleTypes.Json.Record
import SampleTypes.Json.Relaxed
import SampleTypes.Json.Word
import SampleTypes.Options.Draft

set_option autoImplicit false

/-! # Options from a document

Options are written down as a relaxed document that holds a record. Choices are named by tokens,
so any text will do for them; a value of another type is a fault. -/

namespace SampleTypes

open Json (Bytes RecordField Read)

/-- A choice named by a token. -/
def readToken {α : Type} (ofToken : String → α) (s : Bytes) : Read α s :=
  match Json.readString s with
  | .ok p => .ok (p.withValue (ofToken p.value))
  | .error e => .error e

/-- The fields of an indentation. -/
def indentationFields : List (RecordField IndentationDraft) :=
  [ .ofReader "ch" (readToken IndentChar.ofToken) fun d c => { d with char := c },
    .ofReader "width" (Json.readNullable (Json.readWord "usize")) fun d w => { d with width := w } ]

/-- A record for an indentation. -/
def readIndentation (s : Bytes) : Read Indentation s :=
  match Json.readRecord "RawIndentation" indentationFields .blank s with
  | .ok p => .ok (p.withValue p.value.resolve)
  | .error e => .error e

/-- The fields of the options. -/
def optionsFields : List (RecordField OptionsDraft) :=
  [ .ofReader "language" (readToken Language.ofToken) fun d l => { d with language := l },
    .ofReader "style" (Json.readNullable (readToken Style.ofToken)) fun d s =>
      { d with style := s },
    .ofReader "access" (readToken Access.ofToken) fun d a => { d with access := a },
    .ofReader "inheritable" Json.readBoolean fun d b => { d with inheritable := b },
    .ofReader "serializer" (readToken Serializer.ofToken) fun d a => { d with serializer := a },
    .ofReader "mutability" (readToken Mutability.ofToken) fun d m => { d with mutability := m },
    .ofReader "indentation" (Json.readNullable readIndentation) fun d i =>
      { d with indentation := i },
    .ofReader "type_hints" (Json.readNullable Json.readBoolean) fun d h =>
      { d with typeHints := h } ]

/-- The record that a strict source holds. -/
def readOptionsDraft (source : Bytes) : Except Json.Diagnostic OptionsDraft :=
  match Json.readRecord "RawOptions" optionsFields .blank source with
  | .error e => .error (e.locate source)
  | .ok p =>
    match Json.expectEnd p.rest with
    | .error e => .error (e.locate source)
    | .ok () => .ok p.value

/-- The options that a relaxed source holds. -/
def Options.ofSource (source : Bytes) : Except Json.Diagnostic Options :=
  match readOptionsDraft (Json.relax source) with
  | .ok draft => .ok draft.resolve
  | .error d => .error d

end SampleTypes
