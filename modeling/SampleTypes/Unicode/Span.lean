set_option autoImplicit false

/-! # Tables of code points

A Unicode property holds of some hundred runs of code points. A run advances by a constant
step: 1 for a plain block, 2 where capital and small letters alternate. A table lists its runs
in ascending order and no two of them overlap, so a look-up stops at the first run that ends at
or after the code point it is asked about. -/

namespace SampleTypes.Unicode

/-- The code points `first`, `first + step`, and so on up to `last`. -/
structure Span where
  first : Nat
  last : Nat
  step : Nat
  deriving Repr, DecidableEq

/-- Whether `n` is one of the code points of the span. -/
def Span.covers (s : Span) (n : Nat) : Bool :=
  s.first ≤ n && n ≤ s.last && (n - s.first) % s.step == 0

/-- Ascending spans, none of which overlaps the next. -/
abbrev SpanTable := List Span

/-- Look `n` up in the only span that can hold it. -/
def SpanTable.contains : SpanTable → Nat → Bool
  | [], _ => false
  | s :: rest, n => if n ≤ s.last then s.covers n else SpanTable.contains rest n

/-- The code points of a span, each mapped to the code point at the same distance
    from `image`. -/
structure CaseRun extends Span where
  image : Nat
  deriving Repr, DecidableEq

/-- Ascending runs of a case mapping, none of which overlaps the next. -/
abbrev CaseTable := List CaseRun

/-- The image of `n`, where the mapping moves it. -/
def CaseTable.image? : CaseTable → Nat → Option Nat
  | [], _ => none
  | r :: rest, n =>
    if n ≤ r.last then
      if r.covers n then some (r.image + (n - r.first)) else none
    else CaseTable.image? rest n

/-- The character with its code point moved as the table says. -/
def CaseTable.apply (table : CaseTable) (c : Char) : Char :=
  match table.image? c.toNat with
  | some n => Char.ofNat n
  | none => c

end SampleTypes.Unicode
