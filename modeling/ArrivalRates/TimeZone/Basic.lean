import ArrivalRates.Calendar

/-!
# Time zones

A zone gives the offset of its clock from UTC at every second: the initial one, then one from each
listed change on, and from some second on a yearly rule. `offsetAt` is that function; a wall time
is the instant shifted by it.
-/

namespace ArrivalRates

/-- A moment that recurs each year: the given weekday of a month, the fifth meaning the last. -/
structure YearlyChange where
  month : Nat
  week : Nat
  weekday : Nat
  /-- Seconds after midnight. -/
  time : Int := 7200
  deriving DecidableEq, Repr

namespace YearlyChange

def day (change : YearlyChange) (year : Int) : Day :=
  let first := Day.ofCivil year change.month 1
  let toWeekday := (change.weekday + 7 - first.weekday) % 7
  let inWeek := toWeekday + 7 * (change.week - 1)
  let inMonth :=
    if daysInMonth (isLeapYear year) change.month ≤ inWeek then inWeek - 7 else inWeek
  ⟨first.index + inMonth⟩

def second (change : YearlyChange) (year : Int) : Int :=
  (change.day year).index * 86400 + change.time

end YearlyChange

inductive ZoneRule where
  | fixed (offset : Int)
  | summer (standard daylight : Int) (starts ends : YearlyChange)
  deriving DecidableEq, Repr

namespace ZoneRule

/-- Summer time begins on the standard clock and ends on the daylight clock. -/
def offsetAt (rule : ZoneRule) (second : Int) : Int :=
  match rule with
  | fixed offset => offset
  | summer standard daylight starts ends =>
    let year := (Day.mk (second / 86400)).year
    let starts := starts.second year - standard
    let ends := ends.second year - daylight
    let inSummer :=
      if starts < ends then decide (starts ≤ second ∧ second < ends)
      else decide (second < ends ∨ starts ≤ second)
    if inSummer then daylight else standard

end ZoneRule

structure TimeZone where
  name : String
  initial : Int
  /-- From each of these seconds on the offset beside it holds; in order of time. -/
  changes : List (Int × Int)
  rule : ZoneRule
  /-- The second from which the rule decides, if it ever leaves the listed changes alone. -/
  ruleFrom : Option Int
  deriving Repr

namespace TimeZone

/-- The offset from UTC in seconds. -/
def offsetAt (zone : TimeZone) (second : Int) : Int :=
  let byRule :=
    match zone.ruleFrom with
    | none => true
    | some start => decide (start ≤ second)
  if byRule then zone.rule.offsetAt second
  else
    zone.changes.foldl (fun offset (start, next) => if start ≤ second then next else offset)
      zone.initial

end TimeZone

end ArrivalRates
