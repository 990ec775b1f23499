import SampleTypes.Json.Parsed

set_option autoImplicit false

/-! # Tokens

Blanks may stand in front of every token, and the first octet behind them decides how reading
goes on. -/

namespace SampleTypes.Json

/-- The octet that begins the first token of `s`, and what follows it. -/
structure Token (s : Bytes) where
  octet : UInt8
  rest : Bytes
  shorter : rest.length < s.length

/-- The first token of `s`; none if only blanks are left. -/
def nextToken? (s : Bytes) : Option (Token s) :=
  match h : skipBlanks s with
  | [] => none
  | b :: rest => some ⟨b, rest, length_lt_of_skipBlanks h⟩

namespace Token

variable {α : Type} {s : Bytes}

/-- What is left of the source from the token on. -/
def source (t : Token s) : Bytes :=
  t.octet :: t.rest

theorem rest_length_le (t : Token s) : t.rest.length ≤ s.length :=
  Nat.le_of_lt t.shorter

theorem source_length_le (t : Token s) : t.source.length ≤ s.length :=
  t.shorter

/-- The step over the token's first octet. -/
def take (t : Token s) (value : α) : Parsed α s :=
  ⟨value, t.rest, t.shorter⟩

/-- What is read from the token on is read from the source. -/
def within (t : Token s) (p : Parsed α t.source) : Parsed α s :=
  p.widen t.source_length_le

/-- What is read behind the token's first octet is read from the source. -/
def behind (t : Token s) (p : Parsed α t.rest) : Parsed α s :=
  p.widen t.rest_length_le

end Token

theorem nextToken?_eq_none_iff {s : Bytes} : nextToken? s = none ↔ skipBlanks s = [] := by
  unfold nextToken?; split <;> simp_all

end SampleTypes.Json
