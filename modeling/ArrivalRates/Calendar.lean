import ArrivalRates.Binary64.Decimal

/-!
# The calendar

Days of the proleptic Gregorian calendar, counted from 1970-01-01, and wall times, counted in
microseconds from the midnight that begins that day. A count needs no zone; which instant a wall
time is depends on one (`TimeZone`). Dates and wall times are supported in the years 1 to 9999.
-/

namespace ArrivalRates

def isLeapYear (year : Int) : Bool := year % 4 = 0 && (year % 100 ≠ 0 || year % 400 = 0)

/-- Days from 0001-01-01 to the first day of the year. -/
def daysBeforeYear (year : Int) : Int :=
  let past := year - 1
  365 * past + past / 4 - past / 100 + past / 400

def daysBeforeMonth (leap : Bool) (month : Nat) : Nat :=
  let common := [0, 31, 59, 90, 120, 151, 181, 212, 243, 273, 304, 334].getD (month - 1) 365
  if leap && 2 < month then common + 1 else common

def daysInMonth (leap : Bool) (month : Nat) : Nat :=
  if month = 2 then if leap then 29 else 28
  else if month = 4 ∨ month = 6 ∨ month = 9 ∨ month = 11 then 30 else 31

/-- A calendar day, counted from 1970-01-01. -/
structure Day where
  index : Int
  deriving DecidableEq, Repr, Inhabited

namespace Day

/-- Days from 0001-01-01 to 1970-01-01. -/
def epochOrdinal : Int := 719162

/-- Days from 0001-01-01. -/
def ordinal (day : Day) : Int := day.index + epochOrdinal

/-- The year that contains the day: the average year gives it up to one. -/
def year (day : Day) : Int :=
  let guess := day.ordinal * 400 / 146097 + 1
  if day.ordinal < daysBeforeYear guess then guess - 1
  else if daysBeforeYear (guess + 1) ≤ day.ordinal then guess + 1
  else guess

def dayOfYear (day : Day) : Nat := (day.ordinal - daysBeforeYear day.year).toNat

/-- The number of months that have begun in the year. -/
def month (day : Day) : Nat :=
  ((List.range 12).filter fun m =>
    decide (daysBeforeMonth (isLeapYear day.year) (m + 1) ≤ day.dayOfYear)).length

def dayOfMonth (day : Day) : Nat :=
  day.dayOfYear - daysBeforeMonth (isLeapYear day.year) day.month + 1

def ofCivil (year : Int) (month day : Nat) : Day :=
  ⟨daysBeforeYear year + daysBeforeMonth (isLeapYear year) month + day - 1 - epochOrdinal⟩

/-- Days since Sunday. -/
def weekday (day : Day) : Nat := ((day.index + 4) % 7).toNat

def daysSince (day earlier : Day) : Int := day.index - earlier.index

def sameMonth (a b : Day) : Bool := a.month = b.month && a.year = b.year

def isSupported (day : Day) : Bool := decide (1 ≤ day.year ∧ day.year ≤ 9999)

end Day

/-- A day that exists, from the numbers of a date. -/
def civilDay? (year month day : Nat) : Option Day :=
  if 1 ≤ year ∧ year ≤ 9999 ∧ 1 ≤ month ∧ month ≤ 12 ∧ 1 ≤ day
      ∧ day ≤ daysInMonth (isLeapYear year) month then
    some (Day.ofCivil year month day)
  else none

structure WallTime where
  micros : Int
  deriving DecidableEq, Repr, Inhabited

namespace WallTime

def microsPerSecond : Int := 1000000

def microsPerDay : Int := 86400 * microsPerSecond

def day (time : WallTime) : Day := ⟨time.micros / microsPerDay⟩

def secondOfDay (time : WallTime) : Nat := (time.micros % microsPerDay / microsPerSecond).toNat

def microsecond (time : WallTime) : Nat := (time.micros % microsPerSecond).toNat

def hour (time : WallTime) : Nat := time.secondOfDay / 3600

def minute (time : WallTime) : Nat := time.secondOfDay / 60 % 60

def second (time : WallTime) : Nat := time.secondOfDay % 60

def midnight (day : Day) : WallTime := ⟨day.index * microsPerDay⟩

def isSupported (time : WallTime) : Bool := time.day.isSupported

/-- Month, day, year and time of day. A year below 1000 has no leading zeros: so the platform writes
it, while others fill years up to four digits. -/
def stamp (time : WallTime) : String :=
  padded 2 time.day.month ++ "/" ++ padded 2 time.day.dayOfMonth ++ "/"
    ++ integerText time.day.year ++ " " ++ padded 2 time.hour ++ ":" ++ padded 2 time.minute
    ++ ":" ++ padded 2 time.second

end WallTime

end ArrivalRates
