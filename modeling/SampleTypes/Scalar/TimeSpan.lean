import SampleTypes.Scalar.Scan
import SampleTypes.Unicode.DecimalDigit

set_option autoImplicit false

/-! # Texts that denote a span of time

`[-][d.]hh:mm[:ss[.fffffff]]`: hours below 24 in one or two digits, minutes and seconds below 60
in two, days in any number of digits and a fraction of at most seven. Days and fraction are not
evaluated, and their digits may come from any script. -/

namespace SampleTypes.TimeSpan

open SampleTypes.Scan SampleTypes.Unicode

/-- The fraction behind the seconds: a point and one to seven digits, to the end. -/
def isFraction : List Char → Bool
  | '.' :: digits => 1 ≤ digits.length && digits.length ≤ 7 && digits.all isDecimalDigit
  | s => s.isEmpty

/-- Two digits of a number below 60, and what follows them. -/
def sixtieth? (s : List Char) : Option (List Char) := do
  let (n, rest) ← number? 2 2 s
  if n < 60 then some rest else none

/-- The seconds with their fraction, if there are any, to the end. -/
def isSeconds : List Char → Bool
  | ':' :: rest =>
    match sixtieth? rest with
    | some left => isFraction left
    | none => false
  | s => s.isEmpty

/-- Hours, minutes and optional seconds, to the end. -/
def isClock (s : List Char) : Bool :=
  match number? 1 2 s with
  | some (hours, ':' :: rest) =>
    match sixtieth? rest with
    | some left => hours < 24 && isSeconds left
    | none => false
  | _ => false

/-- What follows leading days and their point, if the text starts with days. -/
def dropDays (s : List Char) : List Char :=
  match s.takeWhile isDecimalDigit, s.dropWhile isDecimalDigit with
  | _ :: _, '.' :: rest => rest
  | _, _ => s

/-- What follows a leading minus, if there is one. -/
def dropMinus : List Char → List Char
  | '-' :: rest => rest
  | s => s

/-- Whether a text denotes a span of time. -/
def accepts (s : List Char) : Bool :=
  isClock (dropDays (dropMinus s))

end SampleTypes.TimeSpan
