import SampleTypes.Inference.ValueType
import SampleTypes.Scalar.Moment
import SampleTypes.Scalar.TimeSpan
import SampleTypes.Scalar.Uuid

set_option autoImplicit false

/-! # Types of texts

A text that is written like a UUID, a moment or a span of time has that type; any other is just
text. -/

namespace SampleTypes

/-- Whether a text denotes a moment with its offset from universal time. -/
def isOffsetDateTime (s : List Char) : Bool :=
  (OffsetMoment.ofTimestamp? s).isSome || (OffsetMoment.ofMailDate? s).isSome

/-- Whether a text denotes a moment or a date without an offset. -/
def isDateTime (s : List Char) : Bool :=
  (LocalMoment.ofText? s).isSome || (Date.ofText? s).isSome

/-- The type of a text. -/
def textType (s : List Char) : ValueType :=
  if Uuid.accepts s then .uuid
  else if isOffsetDateTime s then .offsetDateTime
  else if isDateTime s then .dateTime
  else if TimeSpan.accepts s then .timeSpan
  else .text

end SampleTypes
