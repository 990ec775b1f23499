set_option autoImplicit false

/-! # Dates and times of day

The proleptic Gregorian calendar with a year zero, and times of day that admit the leap second
of any minute. -/

namespace SampleTypes

/-- A year, a month and a day. -/
structure Date where
  year : Int
  month : Nat
  day : Nat
  deriving Repr, DecidableEq

namespace Date

/-- Whether February has 29 days. -/
def isLeapYear (year : Int) : Bool :=
  year % 4 == 0 && (year % 100 != 0 || year % 400 == 0)

/-- The number of days of a month; none for a month that does not exist. -/
def daysInMonth (year : Int) (month : Nat) : Nat :=
  if month = 2 then (if isLeapYear year then 29 else 28)
  else if month ∈ [4, 6, 9, 11] then 30
  else if month ∈ [1, 3, 5, 7, 8, 10, 12] then 31
  else 0

/-- The first year of the calendar. -/
def minYear : Int := -262143

/-- The last year of the calendar. -/
def maxYear : Int := 262142

/-- The last day of the calendar. -/
def last : Date := ⟨maxYear, 12, 31⟩

/-- Whether the calendar has the date. -/
def isValid (d : Date) : Bool :=
  minYear ≤ d.year && d.year ≤ maxYear && 1 ≤ d.day && d.day ≤ daysInMonth d.year d.month

/-- The days of the year before the first of a month. -/
def daysBeforeMonth (year : Int) (month : Nat) : Nat :=
  (List.range month).foldl (fun days m => days + daysInMonth year m) 0

/-- The days from the first of January of year one to the date. -/
def dayNumber (d : Date) : Int :=
  let y := d.year - 1
  365 * y + y / 4 - y / 100 + y / 400 + daysBeforeMonth d.year d.month + (d.day - 1 : Nat)

/-- The day of the week, from Monday as 0 to Sunday as 6. -/
def weekday (d : Date) : Nat :=
  (d.dayNumber % 7).toNat

end Date

/-- A time of day to the second. -/
structure TimeOfDay where
  hour : Nat
  minute : Nat
  second : Nat
  deriving Repr, DecidableEq

namespace TimeOfDay

/-- Whether a clock shows the time; it shows a second 60 when a leap second is inserted. -/
def isValid (t : TimeOfDay) : Bool :=
  t.hour < 24 && t.minute < 60 && t.second ≤ 60

/-- The seconds since midnight; a leap second is part of the second before it. -/
def seconds (t : TimeOfDay) : Nat :=
  t.hour * 3600 + t.minute * 60 + min t.second 59

end TimeOfDay

/-- A date and a time of day. -/
structure LocalMoment where
  date : Date
  time : TimeOfDay
  deriving Repr, DecidableEq

/-- Whether both parts exist. -/
def LocalMoment.isValid (m : LocalMoment) : Bool :=
  m.date.isValid && m.time.isValid

/-- A date and a time of day, so many seconds ahead of universal time. -/
structure OffsetMoment where
  atPlace : LocalMoment
  offset : Int
  deriving Repr, DecidableEq

/-- Whether the moment exists: its offset is less than a day, and in universal time it does not
    lie beyond the last day of the calendar. -/
def OffsetMoment.isValid (m : OffsetMoment) : Bool :=
  m.atPlace.isValid && -86400 < m.offset && m.offset < 86400
    && (m.atPlace.date != Date.last || m.atPlace.time.seconds - m.offset < 86400)

end SampleTypes
