import GuardedGateway.Text.Number

/-!
# Days and moments

A day of the Gregorian calendar, which is carried back before its introduction, and a moment of such
a day to the second.  Log files are kept by the day, so the written form of a day becomes part of a
file name: year, month and day between hyphens, with a sign only on years that do not have four
digits.

A `Date` is a day that exists.  There is no year beyond which the calendar ends, but there are years
beyond which no clock can be set, and their days are not among the dates.
-/

namespace GuardedGateway.Calendar

/-- The first year that a clock can show. -/
def firstYear : Int := -262143

/-- The last year that a clock can show. -/
def lastYear : Int := 262142

/-- Whether a year has a day more. -/
def isLeap (year : Int) : Bool :=
  year % 4 == 0 && (year % 100 != 0 || year % 400 == 0)

/-- The number of days in a month. -/
def daysIn (year : Int) (month : Nat) : Nat :=
  if month = 2 then (if isLeap year then 29 else 28)
  else if month = 4 ∨ month = 6 ∨ month = 9 ∨ month = 11 then 30
  else 31

/-- Whether there is such a day. -/
def Exists (year : Int) (month day : Nat) : Prop :=
  (firstYear ≤ year ∧ year ≤ lastYear) ∧ (1 ≤ month ∧ month ≤ 12) ∧
    (1 ≤ day ∧ day ≤ daysIn year month)

instance (year : Int) (month day : Nat) : Decidable (Exists year month day) :=
  inferInstanceAs (Decidable (_ ∧ _))

/-- A day. -/
structure Date where
  year : Int
  month : Nat
  day : Nat
  there : Exists year month day
  deriving DecidableEq, Repr

namespace Date

/-- The day with this year, month and number, if there is one. -/
def ofParts? (year : Int) (month day : Nat) : Option Date :=
  if h : Exists year month day then some ⟨year, month, day, h⟩ else none

/-- A year with at least four digits, signed unless there are four of them. -/
def yearText (year : Int) : List Char :=
  if 0 ≤ year ∧ year ≤ 9999 then Text.padded 4 year.toNat
  else (if year < 0 then '-' else '+') :: Text.padded 4 year.natAbs

/-- The written form of a day. -/
def text (date : Date) : String :=
  String.ofList (yearText date.year ++ '-' :: Text.padded 2 date.month ++
    '-' :: Text.padded 2 date.day)

end Date

/-- A second of a day. -/
structure Moment where
  date : Date
  hour : Nat
  minute : Nat
  second : Nat
  deriving DecidableEq, Repr

namespace Moment

/-- The time of day, two digits each for hours, minutes and seconds. -/
def clockText (moment : Moment) : String :=
  String.ofList (Text.padded 2 moment.hour ++ Text.padded 2 moment.minute ++
    Text.padded 2 moment.second)

end Moment

end GuardedGateway.Calendar
