import SampleTypes.Declaration.OfDocument
import SampleTypes.Json.Reader
import SampleTypes.Json.Relaxed
import SampleTypes.Target.Render

set_option autoImplicit false

/-! # From a document to a source

A sample document, the name of its root type and the options make a generated source. The
arguments are checked before the document is looked at, and a failure at any point leaves no
text. -/

namespace SampleTypes

open Json (Bytes Value)

/-! ## Arguments -/

/-- Whether a name consists of white space alone. -/
def isBlankName (name : String) : Bool :=
  name.toList.all Unicode.isBlank

/-- The name of the root type, if the arguments make sense. -/
def rootTypeName (name : String) (o : Options) : Except Error String :=
  if isBlankName name then .error (.invalidArgument "object name must not be empty")
  else
    match checkTarget o with
    | .ok () => .ok (Naming.typeIdentifier name)
    | .error e => .error e

/-! ## Entry points -/

/-- The source for a document whose root type is called `typeName`. -/
def renderTyped (typeName : String) (document : Value) (o : Options) : Except Error String :=
  match Property.root document with
  | .error e => .error e
  | .ok root =>
    match root.declarations typeName o.language with
    | .error e => .error e
    | .ok declarations => renderDeclarations o declarations

/-- The source for a parsed document. -/
def renderDocument (name : String) (document : Value) (o : Options) : Except Error String :=
  match rootTypeName name o with
  | .error e => .error e
  | .ok typeName => renderTyped typeName document o

/-- The document of a strict source. -/
def parseStrict (source : Bytes) : Except Error Value :=
  match Json.readDocument source with
  | .ok document => .ok document
  | .error d => .error (.malformed d)

/-- The source for the octets of a relaxed document. -/
def renderBytes (name : String) (source : Bytes) (o : Options) : Except Error String :=
  match rootTypeName name o with
  | .error e => .error e
  | .ok typeName =>
    match parseStrict (Json.relax source) with
    | .error e => .error e
    | .ok document => renderTyped typeName document o

/-- The octets of a text. -/
def utf8Bytes (text : String) : Bytes :=
  text.toByteArray.data.toList

/-- The source for the text of a relaxed document. -/
def renderText (name text : String) (o : Options) : Except Error String :=
  renderBytes name (utf8Bytes text) o

/-! ## Streams -/

/-- A document that arrives in pieces. -/
inductive Stream where
  | done
  /-- Reading on fails. -/
  | fail (cause : String)
  | more (chunk : Bytes) (rest : Stream)

namespace Stream

/-- All octets of a stream. -/
def readAll : Stream → Except Error Bytes
  | .done => .ok []
  | .fail cause => .error (.unreadable cause)
  | .more chunk rest =>
    match rest.readAll with
    | .ok bytes => .ok (chunk ++ bytes)
    | .error e => .error e

/-- Cut octets into pieces of at most `limit`. `fault` is how many octets may be handed out before
    reading fails, and why it does. -/
def cut (limit : Nat) (fault : Option (Nat × String)) (source : Bytes) : Stream :=
  go source.length 0 source
where
  /-- Cut what is left behind the first `out` octets, in at most `fuel` pieces. -/
  go : (fuel out : Nat) → Bytes → Stream
    | fuel, out, left =>
      match fault with
      | some (after, cause) => if after ≤ out then .fail cause else piece fuel out left
      | none => piece fuel out left
  /-- The next piece. -/
  piece : (fuel out : Nat) → Bytes → Stream
    | 0, _, _ => .done
    | fuel + 1, out, left =>
      if left.isEmpty then .done
      else .more (left.take limit) (go fuel (out + (left.take limit).length) (left.drop limit))

end Stream

/-- The source for a document that arrives in pieces. All of it is read before anything else is
    looked at. -/
def renderStream (name : String) (stream : Stream) (o : Options) : Except Error String :=
  match stream.readAll with
  | .ok source => renderBytes name source o
  | .error e => .error e

end SampleTypes
