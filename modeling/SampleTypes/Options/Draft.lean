import SampleTypes.Options.Token

set_option autoImplicit false

/-! # Options as they are written down

Written options leave open what they do not mention. Some of it has the same default everywhere;
the style, the indentation and the hints stay open until all is read, since the default style
depends on the language and the default width on the character. -/

namespace SampleTypes

/-- An indentation whose width may be open. -/
structure IndentationDraft where
  char : IndentChar
  width : Option Nat
  deriving Repr, DecidableEq

/-- An indentation that nothing was said about. -/
def IndentationDraft.blank : IndentationDraft :=
  ⟨.space, none⟩

/-- The indentation meant: an open width is the one usual for the character. -/
def IndentationDraft.resolve (d : IndentationDraft) : Indentation :=
  ⟨d.char, d.width.getD d.char.defaultWidth⟩

/-- Options some of which may be open. -/
structure OptionsDraft where
  language : Language
  style : Option Style
  access : Access
  inheritable : Bool
  serializer : Serializer
  mutability : Mutability
  indentation : Option Indentation
  typeHints : Option Bool
  deriving Repr, DecidableEq

/-- Options that nothing was said about. -/
def OptionsDraft.blank : OptionsDraft where
  language := .csharp
  style := none
  access := .everyone
  inheritable := false
  serializer := .systemTextJson
  mutability := .initOnly
  indentation := none
  typeHints := none

/-- The options meant. A style that the language does not have gives way to the language's
    default, as an open one does. -/
def OptionsDraft.resolve (d : OptionsDraft) : Options where
  language := d.language
  style := (d.style.getD (Style.default d.language)).fitTo d.language
  access := d.access
  inheritable := d.inheritable
  serializer := d.serializer
  mutability := d.mutability
  indentation := d.indentation.getD (IndentationDraft.resolve .blank)
  typeHints := d.typeHints.getD true

end SampleTypes
