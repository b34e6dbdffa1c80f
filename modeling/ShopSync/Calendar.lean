/-!
The proleptic Gregorian calendar.

Days are numbered from the first of January 1970.  `dayNumber` numbers a date and `dateOf` finds
the date of a number; years may be zero or negative.
-/

namespace ShopSync.Calendar

/-- A date: a year, a month from 1 and a day of the month from 1. -/
structure Date where
  year : Int
  month : Nat
  day : Nat
deriving DecidableEq, Repr

/-- Whether the year has a 29th of February. -/
def isLeap (year : Int) : Bool :=
  year % 4 == 0 && (year % 100 != 0 || year % 400 == 0)

/-- Days in a month. -/
def daysInMonth (leap : Bool) : Nat → Nat
  | 1 => 31
  | 2 => if leap then 29 else 28
  | 3 => 31
  | 4 => 30
  | 5 => 31
  | 6 => 30
  | 7 => 31
  | 8 => 31
  | 9 => 30
  | 10 => 31
  | 11 => 30
  | 12 => 31
  | _ => 0

/-- Days of the year before a month. -/
def daysBeforeMonth (leap : Bool) : Nat → Nat
  | 0 => 0
  | month + 1 => daysBeforeMonth leap month + daysInMonth leap month

/-- Days from the first of January of the year zero to that of a year. -/
def daysBeforeYear (year : Int) : Int :=
  365 * year + (year - 1) / 4 - (year - 1) / 100 + (year - 1) / 400 + 1

/-- The number of the first of January 1970, counted from the year zero. -/
def epochDay : Int := 719528

/-- Whether the date exists. -/
def Date.isValid (date : Date) : Bool :=
  decide (1 ≤ date.day) && decide (date.day ≤ daysInMonth (isLeap date.year) date.month)

/-- The number of a date. -/
def dayNumber (date : Date) : Int :=
  daysBeforeYear date.year + daysBeforeMonth (isLeap date.year) date.month + date.day - 1
    - epochDay

/-- The year in which a day lies, counted from the year zero.  The average length of a year gives
it up to one. -/
def yearOf (day : Int) : Int :=
  let guess := day * 400 / 146097
  if day < daysBeforeYear guess then guess - 1
  else if daysBeforeYear (guess + 1) ≤ day then guess + 1
  else guess

/-- The month in which a day of the year lies, counted from zero. -/
def monthOf (leap : Bool) (day : Nat) : Nat :=
  (((List.range 12).filter fun m => decide (daysBeforeMonth leap (m + 1) ≤ day)).length)

/-- The date of a day number. -/
def dateOf (number : Int) : Date :=
  let day := number + epochDay
  let year := yearOf day
  let dayOfYear := (day - daysBeforeYear year).toNat
  let month := monthOf (isLeap year) dayOfYear
  { year, month, day := dayOfYear - daysBeforeMonth (isLeap year) month + 1 }

end ShopSync.Calendar
