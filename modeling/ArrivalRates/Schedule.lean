import ArrivalRates.Clock
import ArrivalRates.Frequency

/-!
# The report schedule

When a window closes, the schedule decides from the local day of the arrival that closed it whether
a report is due and whether the statistics start anew after it. With a frequency in days, a report
with a reset is due after that many days since the last report, and in the first such period a
report without reset is due every day; by months, a reset is due in every new calendar month, and a
daily report in the month of the start.
-/

namespace ArrivalRates

structure Decision where
  emit : Bool
  reset : Bool
  day : Day
  deriving DecidableEq, Repr

structure Schedule where
  frequency : Frequency
  zone : TimeZone
  lastReport : Option Day := none
  processingStart : Option Day := none
  deriving Repr

namespace Schedule

def startOn (schedule : Schedule) (day : Day) : Schedule :=
  { schedule with lastReport := some day, processingStart := some day }

def start (schedule : Schedule) (millis : Int) : Except Failure Schedule :=
  (schedule.zone.dayAt millis).map schedule.startOn

private def started (day : Option Day) : Except Failure Day :=
  match day with
  | some day => .ok day
  | none => .error .scheduleNotStarted

def decisionOn (schedule : Schedule) (day : Day) : Except Failure Decision := do
  let lastReport ← started schedule.lastReport
  let sinceReport := day.daysSince lastReport
  if sinceReport < 1 then return ⟨false, false, day⟩
  match schedule.frequency with
  | .monthly =>
    if !lastReport.sameMonth day then return ⟨true, true, day⟩
    let start ← started schedule.processingStart
    return ⟨start.sameMonth day, false, day⟩
  | .days count =>
    if count ≤ sinceReport then return ⟨true, true, day⟩
    let start ← started schedule.processingStart
    return ⟨decide (day.daysSince start ≤ count), false, day⟩

def decisionAt (schedule : Schedule) (millis : Int) : Except Failure Decision := do
  let day ← schedule.zone.dayAt millis
  schedule.decisionOn day

def markReported (schedule : Schedule) (day : Day) : Schedule :=
  { schedule with lastReport := some day }

end Schedule

end ArrivalRates
