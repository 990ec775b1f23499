import SampleTypes.Scalar.Calendar
import SampleTypes.Scalar.Scan

set_option autoImplicit false

/-! # Texts that denote a moment

Four notations. Two carry an offset from universal time: the internet timestamp
`2024-01-02T03:04:05.6+01:00` and the mail date `Tue, 02 Jan 2024 03:04:05 +0100`. Two do not: a
date with a time of day, and a date alone, which stands for its midnight. -/

namespace SampleTypes

open SampleTypes.Unicode SampleTypes.Scan

/-! ## Internet timestamps -/

/-- Two digits, of which the first is less than six. -/
def Scan.offsetMinutes? (s : List Char) : Option (Nat × List Char) := do
  let (minutes, rest) ← number? 2 2 s
  if minutes < 60 then some (minutes, rest) else none

/-- An offset written as a sign, two digits for hours, a separator and two digits for minutes, in
    seconds. -/
def Scan.signedOffset? (minusSigns : List Char)
    (separator? : List Char → Option (List Char)) (s : List Char) : Option (Int × List Char) := do
  let (negative, unsigned) ← match s with
    | [] => none
    | c :: rest =>
      if c = '+' then some (false, rest)
      else if c ∈ minusSigns then some (true, rest)
      else none
  let (hours, rest) ← number? 2 2 unsigned
  let (minutes, rest) ← offsetMinutes? (← separator? rest)
  let seconds : Int := hours * 3600 + minutes * 60
  some (if negative then -seconds else seconds, rest)

/-- An offset with a colon, or `Z` for none. The minus may be the typographic one. -/
def Scan.timestampOffset? : List Char → Option (Int × List Char)
  | 'Z' :: rest => some (0, rest)
  | 'z' :: rest => some (0, rest)
  | s => signedOffset? ['-', '\u2212'] (char? ':') s

/-- The moment of an internet timestamp. -/
def OffsetMoment.ofTimestamp? (s : List Char) : Option OffsetMoment := do
  let (year, s) ← number? 4 4 s
  let (month, s) ← number? 2 2 (← char? '-' s)
  let (day, s) ← number? 2 2 (← char? '-' s)
  let s ← match s with
    | [] => none
    | c :: rest => if c = 'T' ∨ c = 't' ∨ c = ' ' then some rest else none
  let (hour, s) ← number? 2 2 s
  let (minute, s) ← number? 2 2 (← char? ':' s)
  let (second, s) ← number? 2 2 (← char? ':' s)
  let (offset, s) ← timestampOffset? (← fraction? s)
  let moment : OffsetMoment := ⟨⟨⟨year, month, day⟩, ⟨hour, minute, second⟩⟩, offset⟩
  if s.isEmpty && moment.isValid then some moment else none

/-! ## Mail dates -/

/-- The days of the week, Monday first. -/
def Scan.weekdayNames : List (List Char) :=
  ["mon", "tue", "wed", "thu", "fri", "sat", "sun"].map String.toList

/-- The months of the year. -/
def Scan.monthNames : List (List Char) :=
  ["jan", "feb", "mar", "apr", "may", "jun", "jul", "aug", "sep", "oct", "nov", "dec"].map
    String.toList

/-- An optional day of the week, which a comma must follow. -/
def Scan.weekday? (s : List Char) : Option (Option Nat × List Char) :=
  match shortName? weekdayNames s with
  | none => some (none, s)
  | some (day, rest) => (char? ',' rest).map fun rest => (some day, rest)

/-- A year: two digits lie between 1950 and 2049, three count from 1900. -/
def Scan.mailYear? (s : List Char) : Option (Nat × List Char) := do
  let (year, rest) ← longNumber? 2 s
  let length := s.length - rest.length
  if length = 2 ∧ year < 50 then some (year + 2000, rest)
  else if length ≤ 3 then some (year + 1900, rest)
  else some (year, rest)

/-- The hours ahead of universal time of a zone known by name. Of the letters that name a zone
    only J is none; what the others stand for was never agreed on, so they count as zero. -/
def Scan.zoneHours? (name : List Char) : Option Int :=
  let name := String.ofList (name.map lowerAscii)
  if name = "gmt" ∨ name = "ut" ∨ name = "z" then some 0
  else if name = "edt" then some (-4)
  else if name = "est" ∨ name = "cdt" then some (-5)
  else if name = "cst" ∨ name = "mdt" then some (-6)
  else if name = "mst" ∨ name = "pdt" then some (-7)
  else if name = "pst" then some (-8)
  else if name.length = 1 ∧ name ≠ "j" then some 0
  else none

/-- Whether a character is an ASCII letter. -/
def Scan.isAsciiLetter (c : Char) : Bool :=
  ('a' ≤ c && c ≤ 'z') || ('A' ≤ c && c ≤ 'Z')

/-- A zone: a name, or an offset without a colon. -/
def Scan.mailZone? (s : List Char) : Option (Int × List Char) :=
  let name := s.takeWhile isAsciiLetter
  if name.isEmpty then signedOffset? ['-'] some s
  else (zoneHours? name).map fun hours => (hours * 3600, s.dropWhile isAsciiLetter)

/-- What follows a comment in parentheses whose opening has been consumed. Comments nest, and a
    backslash takes the meaning from the next character. `depth` comments are open around the
    innermost one. -/
def Scan.closeComment? : (depth : Nat) → List Char → Option (List Char)
  | _, [] => none
  | _, ['\\'] => none
  | depth, '\\' :: _ :: rest => closeComment? depth rest
  | depth, '(' :: rest => closeComment? (depth + 1) rest
  | 0, ')' :: rest => some rest
  | depth + 1, ')' :: rest => closeComment? depth rest
  | depth, _ :: rest => closeComment? depth rest

/-- Whether a text consists of comments, each with blanks before it. -/
def Scan.isComments (fuel : Nat) (s : List Char) : Bool :=
  match fuel with
  | 0 => s.isEmpty
  | fuel + 1 =>
    match trimStart s with
    | '(' :: rest =>
      match closeComment? 0 rest with
      | some left => isComments fuel left
      | none => false
    | _ => s.isEmpty

/-- The optional seconds of a mail date. -/
def Scan.mailSecond? (s : List Char) : Option (Nat × List Char) :=
  match char? ':' (trimStart s) with
  | some rest => number? 2 2 rest
  | none => some (0, s)

/-- The moment of a mail date. A day of the week must be the right one. -/
def OffsetMoment.ofMailDate? (s : List Char) : Option OffsetMoment := do
  let (weekday, s) ← weekday? (trimStart s)
  let (day, s) ← number? 1 2 (trimStart s)
  let (month, s) ← shortName? monthNames (← blanks? s)
  let (year, s) ← mailYear? (← blanks? s)
  let (hour, s) ← number? 2 2 (← blanks? s)
  let (minute, s) ← number? 2 2 (trimStart (← char? ':' (trimStart s)))
  let (second, s) ← mailSecond? s
  let (offset, s) ← mailZone? (← blanks? s)
  let date : Date := ⟨year, month + 1, day⟩
  let moment : OffsetMoment := ⟨⟨date, ⟨hour, minute, second⟩⟩, offset⟩
  if isComments s.length s && moment.isValid && weekday.all (· == date.weekday) then some moment
  else none

/-! ## Moments without an offset -/

/-- A number of one digit to `most`, and the blanks before it. -/
def Scan.field? (most : Nat) (s : List Char) : Option (Nat × List Char) :=
  number? 1 most (trimStart s)

/-- A year of up to four digits, or of any number behind a sign. -/
def Scan.yearField? (s : List Char) : Option (Int × List Char) :=
  match trimStart s with
  | '-' :: rest => (longNumber? 1 rest).map fun (n, left) => (-(n : Int), left)
  | '+' :: rest => (longNumber? 1 rest).map fun (n, left) => ((n : Int), left)
  | s => (number? 1 4 s).map fun (n, left) => ((n : Int), left)

/-- Year, month and day, joined by hyphens. -/
def Scan.date? (s : List Char) : Option (Date × List Char) := do
  let (year, s) ← yearField? s
  let (month, s) ← field? 2 (← char? '-' s)
  let (day, s) ← field? 2 (← char? '-' s)
  some (⟨year, month, day⟩, s)

/-- Hour and minute, joined by a colon. -/
def Scan.clock? (s : List Char) : Option (Nat × Nat × List Char) := do
  let (hour, s) ← field? 2 s
  let (minute, s) ← field? 2 (← char? ':' s)
  some (hour, minute, s)

/-- Seconds behind a colon, with an optional fraction. -/
def Scan.seconds? (s : List Char) : Option (Nat × List Char) := do
  let (second, s) ← field? 2 (← char? ':' s)
  some (second, ← fraction? s)

/-- The date of a text that holds nothing else. -/
def Date.ofText? (s : List Char) : Option Date := do
  let (date, s) ← Scan.date? s
  if s.isEmpty && date.isValid then some date else none

/-- The moment of a date and a time of day. Between them stands a `T`, or blanks or nothing; behind
    a `T` the seconds may be left out. -/
def LocalMoment.ofText? (s : List Char) : Option LocalMoment := do
  let (date, s) ← Scan.date? s
  let (marked, s) := match s with
    | 'T' :: rest => (true, rest)
    | s => (false, trimStart s)
  let (hour, minute, s) ← clock? s
  let (second, s) ← if marked && s.isEmpty then some (0, s) else seconds? s
  let moment : LocalMoment := ⟨date, ⟨hour, minute, second⟩⟩
  if s.isEmpty && moment.isValid then some moment else none

end SampleTypes
