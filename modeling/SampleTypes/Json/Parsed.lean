import SampleTypes.Json.Fault

set_option autoImplicit false

/-! # Steps of reading

A step takes what is left of the source and returns a value together with what is left after
it. That the step consumed something is part of its result, so a reader that loops over steps
ends because the source does. -/

namespace SampleTypes.Json

/-- A value read from the front of `s`, and the strictly shorter rest. -/
structure Parsed (α : Type) (s : Bytes) where
  value : α
  rest : Bytes
  shorter : rest.length < s.length

/-- The outcome of one step on `s`. -/
abbrev Read (α : Type) (s : Bytes) := Except Fault (Parsed α s)

namespace Parsed

variable {α β : Type} {s t : Bytes}

theorem rest_length_le (p : Parsed α s) : p.rest.length ≤ s.length :=
  Nat.le_of_lt p.shorter

/-- A step over one octet. -/
def single (b : UInt8) (rest : Bytes) (value : α) : Parsed α (b :: rest) :=
  ⟨value, rest, Nat.lt_succ_self _⟩

/-- The same step with another value. -/
def withValue (p : Parsed α s) (value : β) : Parsed β s :=
  ⟨value, p.rest, p.shorter⟩

/-- A step on the end of a source is a step on the source. -/
def widen (p : Parsed α t) (h : t.length ≤ s.length) : Parsed α s :=
  ⟨p.value, p.rest, Nat.lt_of_lt_of_le p.shorter h⟩

/-- The same step behind one more octet. -/
def push (b : UInt8) (p : Parsed α s) : Parsed α (b :: s) :=
  p.widen (Nat.le_succ _)

/-- Two steps in a row, with the value of the second one. -/
def followedBy (p : Parsed α s) (q : Parsed β p.rest) : Parsed β s :=
  q.widen p.rest_length_le

end Parsed

/-! ## Parts of a token -/

/-- A part of a token, which may be empty, and what is left after it. -/
structure Part (s : Bytes) where
  text : Bytes
  rest : Bytes
  length_le : rest.length ≤ s.length

namespace Part

variable {s : Bytes}

/-- The empty part. -/
def empty (s : Bytes) : Part s :=
  ⟨[], s, Nat.le_refl _⟩

/-- The part with one more octet in front. -/
def push (b : UInt8) (p : Part s) : Part (b :: s) :=
  ⟨b :: p.text, p.rest, Nat.le_succ_of_le p.length_le⟩

/-- Two parts in a row. -/
def append (p : Part s) (q : Part p.rest) : Part s :=
  ⟨p.text ++ q.text, q.rest, Nat.le_trans q.length_le p.length_le⟩

/-- The token that an octet and the part behind it make up. -/
def token (b : UInt8) (p : Part s) : Parsed Bytes (b :: s) :=
  ⟨b :: p.text, p.rest, Nat.lt_succ_of_le p.length_le⟩

end Part

/-! ## Keywords -/

/-- Consume the octets of `word`. A source that ends inside the word and one that goes on
    differently are told apart. -/
def expectWord : (word : List Char) → (s : Bytes) → Except Fault (Part s)
  | [], s => .ok (.empty s)
  | _ :: _, [] => .error (.here .endInValue [])
  | c :: word, b :: rest =>
    if b = Octet.ofChar c then
      match expectWord word rest with
      | .ok p => .ok (p.push b)
      | .error e => .error e
    else .error (.here .expectedKeyword rest)

/-- A keyword that stands for `value`, and whose first letter `b` has been seen. -/
def readKeyword {α : Type} (word : List Char) (value : α) (b : UInt8) (rest : Bytes) :
    Read α (b :: rest) :=
  match expectWord word rest with
  | .ok p => .ok ((p.token b).withValue value)
  | .error e => .error e

end SampleTypes.Json
