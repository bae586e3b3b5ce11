import ArrivalRates.Config
import ArrivalRates.Outcome
import ArrivalRates.Report
import ArrivalRates.Schedule

/-!
# Trackers

A tracker counts the arrivals of one source, or of one group of sources: it holds the current
window, the statistics of each sub-interval size and the report schedule. An arrival past the end
of the window closes it: its sub-intervals go into the statistics, the window moves to the arrival,
and a report may become due. Windows that were skipped on the way count for nothing.
-/

namespace ArrivalRates

structure Tracker where
  source : String
  config : Config
  window : Window
  schedule : Schedule
  /-- One for each configured size, in the same order. -/
  statistics : List Statistics
  reportsEmitted : Nat := 0
  gapNotices : Nat := 0
  deriving Repr

def layoutEntries (slots : Int) (sizes : List Int) : List Entry :=
  match checkLayout slots sizes with
  | .ok () => []
  | .error failure => [.warning failure.message]

namespace Tracker

def freshStatistics (config : Config) : List Statistics :=
  config.sizes.map fun size => { size }

/-- The tracker of a configuration whose layout is in order. -/
def fresh (source : String) (config : Config) : Tracker where
  source := source
  config := config
  window := { slots := config.slots, maxMessages := config.maxMessages }
  schedule := { frequency := config.frequency, zone := config.zone }
  statistics := freshStatistics config

def creationNote (source : String) (config : Config) : String :=
  "Tracking message rate for " ++ source ++ " for " ++ integerText config.slots
    ++ " ten minutes slots reportFreq=" ++ config.frequency.render
    ++ " maxMsgToKeep=" ++ integerText config.maxMessages
    ++ " 10MinIntervals=" ++ String.intercalate "," (config.sizes.map integerText)

/-- A new tracker, if the layout is in order, and the log records of making it. -/
def create (source : String) (config : Config) : Except Failure Tracker × List Entry :=
  match checkLayout config.slots config.sizes with
  | .error failure => (.error failure, layoutEntries config.slots config.sizes)
  | .ok () => (.ok (fresh source config), [.info (creationNote source config)])

def resetStatistics (tracker : Tracker) : Tracker :=
  { tracker with statistics := freshStatistics tracker.config }

/-- Writes one line per size; the report counts when all of them are written. -/
def writeReport (tracker : Tracker) (stamp : String) : Outcome Tracker Unit :=
  let (lines, result) := reportLines tracker.source stamp tracker.statistics
  let emitted := if result.isOk then tracker.reportsEmitted + 1 else tracker.reportsEmitted
  ⟨{ tracker with reportsEmitted := emitted }, result, lines.map Entry.line⟩

def lastEventStamp (tracker : Tracker) : Except Failure String :=
  match tracker.window.lastEvent with
  | none => .ok noDataStamp
  | some millis => (tracker.config.zone.atMillis millis).map fun time => time.wall.stamp

/-- A report out of schedule, under a stamp of its own or that of the last arrival. -/
def report (tracker : Tracker) (stamp : Option String) : Outcome Tracker Unit :=
  match stamp with
  | some stamp => tracker.writeReport stamp
  | none =>
    match tracker.lastEventStamp with
    | .error failure => .failed tracker failure
    | .ok stamp => tracker.writeReport stamp

def gapNotice (tracker : Tracker) (gap : Gap) : Except Failure String := do
  let zone := tracker.config.zone
  let time ← zone.atMillis gap.previous
  let start ← zone.atMillis gap.start
  let stop ← zone.atMillis gap.stop
  return gapLine tracker.source time.wall gap.skipped start.wall stop.wall

/-- The logger of the source starts again: a notice is written if whole buckets stayed empty. -/
def markLoggerStarting (tracker : Tracker) (next : Int) : Outcome Tracker Unit :=
  match tracker.window.gapBefore next with
  | .error failure => .failed tracker failure
  | .ok none => .done tracker ()
  | .ok (some gap) =>
    let tracker := { tracker with gapNotices := tracker.gapNotices + 1 }
    match tracker.gapNotice gap with
    | .error failure => .failed tracker failure
    | .ok line => ⟨tracker, .ok (), [.line line]⟩

def rollover (tracker : Tracker) : Outcome Tracker Unit :=
  match tracker.window.rollup tracker.config.sizes with
  | .error failure => .failed tracker failure
  | .ok rollups =>
    .done { tracker with
      statistics := List.zipWith Statistics.absorbRollup tracker.statistics rollups
      window := tracker.window.clear } ()

def emitScheduled (tracker : Tracker) (decision : Decision) : Outcome Tracker Unit :=
  match endOfPreviousDay decision.day with
  | .error failure => .failed tracker failure
  | .ok time =>
    (tracker.writeReport time.stamp).andThen fun tracker () =>
      let tracker := { tracker with schedule := tracker.schedule.markReported decision.day }
      if decision.reset then
        ⟨tracker.resetStatistics, .ok (),
          [.info ("Resetting rate statistics for " ++ tracker.source)]⟩
      else .done tracker ()

def reportIfDue (tracker : Tracker) (arrival : Int) : Outcome Tracker Unit :=
  match tracker.schedule.decisionAt arrival with
  | .error failure => .failed tracker failure
  | .ok decision =>
    if decision.emit then tracker.emitScheduled decision else .done tracker ()

/-- The first arrival opens the window and starts the schedule on the day the window begins. -/
def openWindow (tracker : Tracker) (arrival : Int) : Outcome Tracker Unit :=
  match tracker.window.openAt arrival with
  | .error failure => .failed tracker failure
  | .ok window =>
    let tracker := { tracker with window }
    let start := (window.span.map Span.start).getD arrival
    match tracker.schedule.start start with
    | .error failure => .failed tracker failure
    | .ok schedule => .done { tracker with schedule } ()

def moveWindow (tracker : Tracker) (span : Span) (arrival : Int) : Tracker :=
  { tracker with
    window :=
      { tracker.window with
        span := some (span.advanceTo tracker.window.length arrival), currentIndex := 0 } }

/-- Brings the window to an arrival; one before the end of the window leaves it where it is. -/
def advance (tracker : Tracker) (arrival : Int) : Outcome Tracker Unit :=
  match tracker.window.span with
  | none => tracker.openWindow arrival
  | some span =>
    if arrival < span.stop then .done tracker ()
    else
      tracker.rollover.andThen fun tracker () =>
        (tracker.moveWindow span arrival).reportIfDue arrival

/-- Counts an arrival; the answer says whether it was recorded. -/
def addMessage (tracker : Tracker) (messageId : String) (arrival : Int) (secondary : Bool) :
    Outcome Tracker Bool :=
  let tracker := { tracker with window := { tracker.window with lastEvent := some arrival } }
  (tracker.advance arrival).andThen fun tracker () =>
    let (window, result) := tracker.window.record messageId arrival secondary
    ⟨{ tracker with window }, result, []⟩

structure Description where
  source : String
  span : Option Span
  currentIndex : Int
  trackedMessages : Nat
  statistics : List Statistics.Description

def describe (tracker : Tracker) : Except Failure Description := do
  let statistics ← tracker.statistics.mapM Statistics.describe
  return ⟨tracker.source, tracker.window.span, tracker.window.currentIndex,
    tracker.window.counters.length, statistics⟩

end Tracker

end ArrivalRates
