import ArrivalRates.Failure
import ArrivalRates.TimeZone.Table

/-!
# From epoch milliseconds to wall times

An arrival is an integer count of milliseconds since 1970. Its wall time goes through the binary64
quotient by 1000: the whole seconds, and the fraction times a million rounded to microseconds. The
functions fail in a fixed order: the quotient, the range of seconds, the calendar, the local date.
-/

namespace ArrivalRates

/-- Splits binary64 seconds into whole seconds and microseconds in `[0, 1000000)`. -/
def splitSeconds (seconds : Binary64) : Int × Int :=
  let (whole, part) := seconds.splitPoint
  let scaled := (Binary64.ofRat part).mul (Binary64.ofInt 1000000)
  let micros := nearestInt (scaled.toRat?.getD 0)
  if 1000000 ≤ micros then (whole + 1, micros - 1000000)
  else if micros < 0 then (whole - 1, micros + 1000000)
  else (whole, micros)

def quotient (a b : Int) : Except Failure Binary64 :=
  if b = 0 then .error .divisionByZero
  else
    match Binary64.quotient a b with
    | .infinity _ => .error .quotientTooLarge
    | x => .ok x

/-- Seconds are counted in 64 bits with a sign; the first one past them is beyond the calendar
too. -/
def secondsBound : Int := 9223372036854775808

/-- Years are counted from 1900 in 32 bits with a sign. -/
def yearsBound : Int := 2147483648

/-- Microseconds since 1970 in UTC, for a count of milliseconds in the years 1 to 9999. -/
def utcMicros (millis : Int) : Except Failure Int := do
  let seconds ← quotient millis 1000
  let (whole, micros) := splitSeconds seconds
  if whole < -secondsBound ∨ secondsBound < whole then throw .secondsOutOfRange
  let year := (Day.mk (whole / 86400)).year
  if year - 1900 < -yearsBound ∨ yearsBound ≤ year - 1900 then throw .calendarOverflow
  if year < 1 ∨ 9999 < year then throw (.yearOutOfRange year)
  return whole * WallTime.microsPerSecond + micros

structure LocalTime where
  wall : WallTime
  offset : Int
  deriving DecidableEq, Repr

namespace TimeZone

/-- The clock of the zone at an instant given in microseconds since 1970. -/
def localTime (zone : TimeZone) (micros : Int) : Except Failure LocalTime :=
  let offset := zone.offsetAt (micros / WallTime.microsPerSecond)
  let wall : WallTime := ⟨micros + offset * WallTime.microsPerSecond⟩
  if wall.isSupported then .ok ⟨wall, offset⟩ else .error .dateOutOfRange

def atMillis (zone : TimeZone) (millis : Int) : Except Failure LocalTime := do
  let micros ← utcMicros millis
  zone.localTime micros

def dayAt (zone : TimeZone) (millis : Int) : Except Failure Day :=
  (zone.atMillis millis).map fun time => time.wall.day

end TimeZone

/-- The last millisecond before the midnight that begins the day. -/
def endOfPreviousDay (day : Day) : Except Failure WallTime :=
  let time : WallTime := ⟨(WallTime.midnight day).micros - 1000⟩
  if time.isSupported then .ok time else .error .dateOutOfRange

end ArrivalRates
