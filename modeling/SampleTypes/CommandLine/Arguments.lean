import SampleTypes.Options.Token

set_option autoImplicit false

/-! # Arguments

What a command line asks for. A parameter has a long name behind two hyphens, and some have a
letter behind one. The value of a parameter is the next argument, or stands in the same one: behind
an equals sign, or right behind the letter. A lone hyphen is a value, and behind two lone hyphens
everything is one. No parameter may be given twice. -/

namespace SampleTypes.CommandLine

/-! ## Parameters -/

/-- A parameter with a value. -/
inductive Setting where
  | input
  | name
  | language
  | style
  | access
  | serializer
  | indent
  | options
  | out
  deriving Repr, DecidableEq

/-- A parameter without a value. -/
inductive Switch where
  | inheritable
  | settable
  | tabs
  | noTypeHints
  | version
  | help
  deriving Repr, DecidableEq

/-- A parameter. -/
inductive Parameter where
  | setting (s : Setting)
  | switch (s : Switch)
  deriving Repr, DecidableEq

/-- The parameter of a long name. -/
def Parameter.ofName? : String → Option Parameter
  | "input" => some (.setting .input)
  | "name" => some (.setting .name)
  | "language" => some (.setting .language)
  | "style" => some (.setting .style)
  | "access" => some (.setting .access)
  | "serializer" => some (.setting .serializer)
  | "indent" => some (.setting .indent)
  | "options" => some (.setting .options)
  | "out" => some (.setting .out)
  | "inheritable" => some (.switch .inheritable)
  | "settable" => some (.switch .settable)
  | "tabs" => some (.switch .tabs)
  | "no-type-hints" => some (.switch .noTypeHints)
  | "version" => some (.switch .version)
  | "help" => some (.switch .help)
  | _ => none

/-- The parameter of a letter. -/
def Parameter.ofLetter? : Char → Option Parameter
  | 'i' => some (.setting .input)
  | 'n' => some (.setting .name)
  | 'l' => some (.setting .language)
  | 's' => some (.setting .style)
  | 'o' => some (.setting .out)
  | 'V' => some (.switch .version)
  | 'h' => some (.switch .help)
  | _ => none

/-! ## What was given -/

/-- The arguments of a run. -/
structure Arguments where
  /-- The document itself. -/
  inline : Option String
  /-- The file that holds the document. -/
  input : Option String
  /-- The name of the root type. -/
  name : Option String
  language : Option String
  style : Option String
  access : Option String
  serializer : Option String
  inheritable : Bool
  settable : Bool
  tabs : Bool
  indent : Option Nat
  noTypeHints : Bool
  /-- The file that holds the options. -/
  options : Option String
  /-- The file that the source goes to. -/
  out : Option String
  deriving Repr, DecidableEq

/-- No arguments. -/
def Arguments.blank : Arguments where
  inline := none
  input := none
  name := none
  language := none
  style := none
  access := none
  serializer := none
  inheritable := false
  settable := false
  tabs := false
  indent := none
  noTypeHints := false
  options := none
  out := none

/-- Why a command line asks for no run. -/
inductive Refusal where
  /-- The version is asked for. -/
  | version
  /-- An explanation is asked for. -/
  | help
  /-- The arguments make no sense. -/
  | misuse
  deriving Repr, DecidableEq

/-! ## Values -/

/-- The value of a run of digits, continuing `n`. -/
def decimalValue? (n : Nat) : List Char → Option Nat
  | [] => some n
  | c :: rest => if c.isDigit then decimalValue? (n * 10 + (c.toNat - '0'.toNat)) rest else none

/-- A width: digits, and perhaps a plus in front, of a number below 2^64. -/
def widthValue? (text : String) : Option Nat :=
  let digits := match text.toList with
    | '+' :: rest => rest
    | s => s
  if digits.isEmpty then none else (decimalValue? 0 digits).filter (· < 0x10000000000000000)

/-- Store a value where there is none yet. -/
def storeOnce {α : Type} (current new : Option α) : Except Refusal (Option α) :=
  if current.isSome ∨ new.isNone then .error .misuse else .ok new

/-- The name of a file, which has at least one character. -/
def fileName? (value : String) : Option String :=
  if value.isEmpty then none else some value

namespace Arguments

/-- Give a setting its value. -/
def set (a : Arguments) (s : Setting) (value : String) : Except Refusal Arguments :=
  match s with
  | .input => (storeOnce a.input (fileName? value)).map fun v => { a with input := v }
  | .name => (storeOnce a.name (some value)).map fun v => { a with name := v }
  | .language => (storeOnce a.language (some value)).map fun v => { a with language := v }
  | .style => (storeOnce a.style (some value)).map fun v => { a with style := v }
  | .access => (storeOnce a.access (some value)).map fun v => { a with access := v }
  | .serializer => (storeOnce a.serializer (some value)).map fun v => { a with serializer := v }
  | .indent => (storeOnce a.indent (widthValue? value)).map fun v => { a with indent := v }
  | .options => (storeOnce a.options (fileName? value)).map fun v => { a with options := v }
  | .out => (storeOnce a.out (fileName? value)).map fun v => { a with out := v }

/-- Turn a switch on. -/
def turnOn (a : Arguments) (s : Switch) : Except Refusal Arguments :=
  match s with
  | .inheritable => if a.inheritable then .error .misuse else .ok { a with inheritable := true }
  | .settable => if a.settable then .error .misuse else .ok { a with settable := true }
  | .tabs => if a.tabs then .error .misuse else .ok { a with tabs := true }
  | .noTypeHints => if a.noTypeHints then .error .misuse else .ok { a with noTypeHints := true }
  | .version => .error .version
  | .help => .error .help

/-- Store a value that belongs to no parameter. -/
def setInline (a : Arguments) (value : String) : Except Refusal Arguments :=
  (storeOnce a.inline (some value)).map fun v => { a with inline := v }

end Arguments

/-! ## Reading the arguments -/

/-- What an argument looks like. -/
inductive ArgumentForm where
  /-- Two lone hyphens. -/
  | terminator
  /-- A long name, and the value behind an equals sign. -/
  | long (name : String) (value : Option String)
  /-- Letters, perhaps with a value behind them. -/
  | letters (text : List Char)
  | value
  deriving Repr, DecidableEq

/-- Split at the first equals sign. -/
def splitAtEquals : List Char → List Char × Option (List Char)
  | [] => ([], none)
  | c :: rest =>
    if c = '=' then ([], some rest)
    else
      let (before, after) := splitAtEquals rest
      (c :: before, after)

/-- What an argument looks like. -/
def ArgumentForm.ofArgument (argument : String) : ArgumentForm :=
  match argument.toList with
  | ['-', '-'] => .terminator
  | '-' :: '-' :: rest =>
    let (name, behind) := splitAtEquals rest
    .long (String.ofList name) (behind.map String.ofList)
  | ['-'] => .value
  | '-' :: rest => .letters rest
  | _ => .value

/-- A value right behind a letter, without the equals sign that may stand between them. -/
def attachedValue : List Char → String
  | '=' :: rest => String.ofList rest
  | s => String.ofList s

/-- Take letters one by one. The first one with a value takes what is behind it, and if that is
    nothing, waits for the next argument. -/
def readLetters (a : Arguments) : List Char → Except Refusal (Arguments × Option Setting)
  | [] => .ok (a, none)
  | c :: rest =>
    match Parameter.ofLetter? c with
    | none => .error .misuse
    | some (.switch s) =>
      match a.turnOn s with
      | .ok a' => readLetters a' rest
      | .error e => .error e
    | some (.setting s) =>
      if rest.isEmpty then .ok (a, some s)
      else
        match a.set s (attachedValue rest) with
        | .ok a' => .ok (a', none)
        | .error e => .error e

/-- Take a long name and the value behind it. -/
def readLong (a : Arguments) (name : String) (value : Option String) :
    Except Refusal (Arguments × Option Setting) :=
  match Parameter.ofName? name, value with
  | none, _ => .error .misuse
  | some (.switch _), some _ => .error .misuse
  | some (.switch s), none =>
    match a.turnOn s with
    | .ok a' => .ok (a', none)
    | .error e => .error e
  | some (.setting s), some v =>
    match a.set s v with
    | .ok a' => .ok (a', none)
    | .error e => .error e
  | some (.setting s), none => .ok (a, some s)

/-- Take arguments that are all values. -/
def readValues (a : Arguments) : List String → Except Refusal Arguments
  | [] => .ok a
  | argument :: rest =>
    match a.setInline argument with
    | .ok a' => readValues a' rest
    | .error e => .error e

/-- Take arguments one by one. `waiting` is the setting whose value must come next. -/
def readArguments (a : Arguments) (waiting : Option Setting) :
    List String → Except Refusal Arguments
  | [] => if waiting.isSome then .error .misuse else .ok a
  | argument :: rest =>
    match waiting, ArgumentForm.ofArgument argument with
    | some s, .value =>
      match a.set s argument with
      | .ok a' => readArguments a' none rest
      | .error e => .error e
    | some _, _ => .error .misuse
    | none, .terminator => readValues a rest
    | none, .value =>
      match a.setInline argument with
      | .ok a' => readArguments a' none rest
      | .error e => .error e
    | none, .long name value =>
      match readLong a name value with
      | .ok (a', next) => readArguments a' next rest
      | .error e => .error e
    | none, .letters text =>
      match readLetters a text with
      | .ok (a', next) => readArguments a' next rest
      | .error e => .error e

/-- The arguments of a command line. -/
def Arguments.ofList (arguments : List String) : Except Refusal Arguments :=
  readArguments .blank none arguments

/-! ## The options meant -/

/-- Options with the language replaced, if one is given. The style stays if the language has
    it. -/
def Arguments.withLanguage (a : Arguments) (o : Options) : Options :=
  match a.language with
  | none => o
  | some token =>
    let language := Language.ofToken token
    { o with language := language, style := o.style.fitTo language }

/-- Options with the style replaced, if one is given. -/
def Arguments.withStyle (a : Arguments) (o : Options) : Options :=
  match a.style with
  | none => o
  | some token => { o with style := Style.ofTokenFor token o.language }

/-- The indentation given: of tabs, or else of spaces if a width is given. -/
def Arguments.indentation? (a : Arguments) : Option Indentation :=
  if a.tabs then some ⟨.tab, a.indent.getD IndentChar.tab.defaultWidth⟩
  else a.indent.map fun width => ⟨.space, width⟩

/-- What the arguments make of options. -/
def Arguments.override (a : Arguments) (o : Options) : Options :=
  let o := a.withStyle (a.withLanguage o)
  { o with
    access := (a.access.map Access.ofToken).getD o.access
    serializer := (a.serializer.map Serializer.ofToken).getD o.serializer
    inheritable := o.inheritable || a.inheritable
    mutability := if a.settable then .settable else o.mutability
    indentation := a.indentation?.getD o.indentation
    typeHints := o.typeHints && !a.noTypeHints }

end SampleTypes.CommandLine
