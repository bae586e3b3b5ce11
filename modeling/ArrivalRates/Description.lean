import ArrivalRates.Json.Basic
import ArrivalRates.Tracker

/-!
# Descriptions as JSON

The objects in which a caller sees statistics, windows and trackers. How a binary64 number is shown
is left to the caller.
-/

namespace ArrivalRates

namespace Json

def ofOption (f : α → Json) : Option α → Json
  | some a => f a
  | none => null

end Json

namespace Statistics.Description

def toJson (number : Binary64 → Json) (description : Description) : Json :=
  let stats := description.stats
  .obj [ ("interval_size", .int stats.size),
    ("msg1_mean", number description.primaryMean),
    ("msg2_mean", number description.secondaryMean),
    ("msg1_unique_count", .int stats.primaryUniqueSum),
    ("msg2_unique_count", .int stats.secondaryUniqueSum),
    ("intervals", .int stats.intervals),
    ("msg1_stddev", number description.primaryDeviation),
    ("msg1_min", .int stats.primaryMin),
    ("msg1_max", .int stats.primaryMax),
    ("zero_intervals", .int stats.zeroIntervals),
    ("msg1_total", .int stats.primaryTotal),
    ("msg2_total", .int stats.secondaryTotal) ]

end Statistics.Description

/-- The fields that describe where a window stands. -/
def windowFields (span : Option Span) (currentIndex : Int) (trackedMessages : Nat) :
    List (String × Json) :=
  [ ("window_start_ms", .ofOption (fun span => .int span.start) span),
    ("window_end_ms", .ofOption (fun span => .int span.stop) span),
    ("current_index", .int currentIndex),
    ("tracked_messages", .int trackedMessages) ]

namespace Window

def describe (window : Window) : Json :=
  .obj (windowFields window.span window.currentIndex window.counters.length)

end Window

namespace Tracker.Description

def toJson (number : Binary64 → Json) (description : Description) : Json :=
  .obj <| [("source", .str description.source)]
    ++ windowFields description.span description.currentIndex description.trackedMessages
    ++ [("aggregators", .arr (description.statistics.map fun stats => stats.toJson number))]

end Tracker.Description

end ArrivalRates
