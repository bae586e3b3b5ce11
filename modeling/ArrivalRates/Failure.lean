import ArrivalRates.Binary64.Decimal
import ArrivalRates.Text.Quoted

/-!
# Causes of failure

Every operation of the library that can fail names its cause with one of these values; the wording
shown to a caller is decided once, by `message`.
-/

namespace ArrivalRates

inductive Failure where
  | noSizes
  | indivisibleSize (slots size : Int)
  | invalidFrequency (text : String)
  | nonPositiveFrequency (days : Int)
  | quotientTooLarge
  | integerTooLarge
  | divisionByZero
  /-- The remainder of a division by zero was asked for first. -/
  | remainderByZero
  | floorByZero
  /-- A range of cells that does not move on. -/
  | zeroStep
  /-- Seconds that do not fit a signed 64-bit count. -/
  | secondsOutOfRange
  /-- Seconds whose year does not fit the 32-bit calendar count from 1900. -/
  | calendarOverflow
  | yearOutOfRange (year : Int)
  /-- A wall time outside the years 1 to 9999. -/
  | dateOutOfRange
  | tooManyDays (days : Int)
  /-- Days that do not even fit a 32-bit count. -/
  | daysOutOfRange
  /-- An integer is wanted and the number is infinite or undefined. -/
  | infiniteInteger
  | undefinedInteger
  | unreadableTime (text : String)
  | monthOutOfRange
  | dayOutOfRange
  | hourOutOfRange
  | minuteOutOfRange
  | secondOutOfRange
  | offsetTooLarge (days seconds microseconds : Int)
  | wrongKind
  /-- Something is not there, or cannot be set. -/
  | missingAttribute
  | missingKey
  | tooManyDigits
  | unknownZone (name : String)
  | absoluteZone (name : String)
  /-- The name of a zone has a step that leads nowhere. -/
  | windingZone (name : String)
  /-- The name of a zone leads out of the directory of the zones. -/
  | outerZone (name : String)
  | nullInZone
  /-- The name of a zone leads to a file of another kind. -/
  | malformedZone
  /-- The name of a zone leads through a file as if it were a directory. -/
  | fileInZone
  | zoneUnreadable
  | windowNotOpen
  | cellOutOfRange
  | scheduleNotStarted
  deriving DecidableEq, Repr

namespace Failure

/-- The year as the 32-bit calendar count shows it. -/
def shownYear (year : Int) : Int := Int.bmod year 4294967296

/-- The parts of a length of time that are not zero, by their names. -/
def durationText (days seconds microseconds : Int) : String :=
  let part := fun (name : String) (n : Int) => if n = 0 then [] else [name ++ "=" ++ integerText n]
  let parts := part "days" days ++ part "seconds" seconds ++ part "microseconds" microseconds
  "datetime.timedelta(" ++ ", ".intercalate parts ++ ")"

def message : Failure → String
  | noSizes => "sub_interval_sizes has a size of 0"
  | indivisibleSize slots size =>
    "slots_to_keep(" ++ integerText slots
      ++ ") is not divisible by sub_interval_sizes value: " ++ integerText size
  | invalidFrequency text => "Invalid report frequency: " ++ Text.quoted text
  | nonPositiveFrequency days => "Report frequency in days must be positive: " ++ integerText days
  | quotientTooLarge => "integer division result too large for a float"
  | integerTooLarge => "int too large to convert to float"
  | divisionByZero => "integer division or modulo by zero"
  | remainderByZero => "integer modulo by zero"
  | floorByZero => "float floor division by zero"
  | zeroStep => "range() arg 3 must not be zero"
  | secondsOutOfRange => "timestamp out of range for platform time_t"
  | calendarOverflow => "value too large for the calendar"
  | yearOutOfRange year => "year " ++ integerText (shownYear year) ++ " is out of range"
  | dateOutOfRange => "date value out of range"
  | tooManyDays days => "days=" ++ integerText days ++ "; must have magnitude <= 999999999"
  | daysOutOfRange => "Python int too large to convert to C int"
  | infiniteInteger => "cannot convert float infinity to integer"
  | undefinedInteger => "cannot convert float NaN to integer"
  | unreadableTime text => "Invalid isoformat string: " ++ Text.quoted text
  | monthOutOfRange => "month must be in 1..12"
  | dayOutOfRange => "day is out of range for month"
  | hourOutOfRange => "hour must be in 0..23"
  | minuteOutOfRange => "minute must be in 0..59"
  | secondOutOfRange => "second must be in 0..59"
  | offsetTooLarge days seconds microseconds =>
    "offset must be a timedelta strictly between -timedelta(hours=24) and timedelta(hours=24), not "
      ++ durationText days seconds microseconds ++ "."
  | wrongKind => "a value of another kind is needed"
  | missingAttribute => "there is no such field"
  | missingKey => "there is no such key"
  | tooManyDigits =>
    "Exceeds the limit (4300 digits) for integer string conversion; "
      ++ "use sys.set_int_max_str_digits() to increase the limit"
  | unknownZone name => Text.quoted ("No time zone found with key " ++ name)
  | absoluteZone name => "ZoneInfo keys may not be absolute paths, got: " ++ name
  | windingZone name => "ZoneInfo keys must be normalized relative paths, got: " ++ name
  | outerZone name => "ZoneInfo keys must refer to subdirectories of TZPATH, got: " ++ name
  | nullInZone => "embedded null byte"
  | malformedZone => "Invalid TZif file: magic not found"
  | fileInZone => "a file is no directory"
  | zoneUnreadable => "the zone cannot be opened"
  | windowNotOpen => "the window is not open"
  | cellOutOfRange => "list index out of range"
  | scheduleNotStarted => "the schedule has no start day"

end Failure

end ArrivalRates
