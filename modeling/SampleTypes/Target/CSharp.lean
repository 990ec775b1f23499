import SampleTypes.Naming.Fresh
import SampleTypes.Naming.Identifier
import SampleTypes.Target.Spelling
import SampleTypes.Unicode.Blank

set_option autoImplicit false

/-! # C# declarations

Records with positional parameters, and classes and structs with one property per member. An
attribute ties each member to its key, unless the serializer is left out. -/

namespace SampleTypes.CSharp

/-! ## String literals -/

/-- A hexadecimal digit. -/
def hexDigit (n : Nat) : Char :=
  Char.ofNat (if n < 10 then '0'.toNat + n else 'a'.toNat + (n - 10))

/-- Four hexadecimal digits of a number below 2^16. -/
def hexUnit (n : Nat) : List Char :=
  [hexDigit (n / 4096 % 16), hexDigit (n / 256 % 16), hexDigit (n / 16 % 16), hexDigit (n % 16)]

/-- A character inside a string literal. -/
def escape (c : Char) : List Char :=
  if c = '"' then ['\\', '"']
  else if c = '\\' then ['\\', '\\']
  else if c = '\n' then ['\\', 'n']
  else if c = '\r' then ['\\', 'r']
  else if c = '\t' then ['\\', 't']
  else if c = '\x00' then ['\\', '0']
  else if Unicode.isControl c then '\\' :: 'u' :: hexUnit c.toNat
  else [c]

/-- The string literal of a text. -/
def stringLiteral (text : String) : String :=
  String.ofList ('"' :: text.toList.flatMap escape ++ ['"'])

/-! ## Members -/

/-- A member with its identifier and its spelled type. -/
structure Field where
  name : String
  type : String
  key : String
  deriving Repr, DecidableEq

/-- The identifiers of the members of a declaration. -/
def memberNames (d : Declaration) : List String :=
  Naming.grantAll "" [] (d.members.map fun m => Naming.csharpMember m.key d.name)

/-- The fields of a declaration. -/
def fields (d : Declaration) : Except Error (List Field) :=
  match spellAll .csharp d.members with
  | .error e => .error e
  | .ok types =>
    .ok (((memberNames d).zip types).zipWith (fun nt m => ⟨nt.1, nt.2, m.key⟩) d.members)

/-- The attribute that ties a member to its key. Its name is written in full, so that it needs no
    import. -/
def keyAttribute? (serializer : Serializer) (key : String) : Option String :=
  match serializer with
  | .none => none
  | .systemTextJson =>
    some ("System.Text.Json.Serialization.JsonPropertyName(" ++ stringLiteral key ++ ")")
  | .newtonsoft => some ("Newtonsoft.Json.JsonProperty(" ++ stringLiteral key ++ ")")

/-! ## Declarations -/

/-- The three forms of a declaration. -/
inductive Form where
  | record
  | classType
  | structType
  deriving Repr, DecidableEq

/-- The keyword of a form. -/
def Form.keyword : Form → String
  | .record => "record"
  | .classType => "class"
  | .structType => "struct"

/-- What stands in front of the members. No type derives from a struct, which is not marked. -/
def header (form : Form) (name : String) (o : Options) : String :=
  o.access.keyword
    ++ (if !o.inheritable && form != .structType then " sealed" else "")
    ++ " " ++ form.keyword ++ " " ++ name

/-- A parameter of a record. -/
def parameter (o : Options) (f : Field) : String :=
  let lead :=
    match keyAttribute? o.serializer f.key with
    | some a => "[property: " ++ a ++ "] "
    | none => ""
  o.indentation.unit ++ lead ++ f.type ++ " " ++ f.name

/-- How a property may be written. -/
def accessors : Mutability → String
  | .initOnly => "\x7b get; init; \x7d"
  | .settable => "\x7b get; set; \x7d"

/-- A property of a class or struct, below its attribute. -/
def property (o : Options) (f : Field) : String :=
  let unit := o.indentation.unit
  let line :=
    unit ++ o.access.keyword ++ " " ++ f.type ++ " " ++ f.name ++ " " ++ accessors o.mutability
  match keyAttribute? o.serializer f.key with
  | some a => unit ++ "[" ++ a ++ "]\n" ++ line
  | none => line

/-- What stands between two properties: a blank line, where they have attributes. -/
def propertySeparator : Serializer → String
  | .none => "\n"
  | _ => "\n\n"

/-- A declaration with its members. -/
def block (form : Form) (o : Options) (name : String) (fields : List Field) : String :=
  match form with
  | .record =>
    header form name o ++ "(\n" ++ ",\n".intercalate (fields.map (parameter o)) ++ "\n);"
  | .classType | .structType =>
    header form name o ++ "\n\x7b\n"
      ++ (propertySeparator o.serializer).intercalate (fields.map (property o)) ++ "\n\x7d"

/-- The source of a declaration. -/
def render (form : Form) (o : Options) (d : Declaration) : Except Error String :=
  match fields d with
  | .ok fs => .ok (block form o d.name fs)
  | .error e => .error e

end SampleTypes.CSharp
