import ArrivalRates.Statistics

/-!
# Report lines

The two kinds of lines that reach the sink: statistics under a source and a time stamp, and the
notice of a period without arrivals.
-/

namespace ArrivalRates

def noDataStamp : String := "EndOfFile_No_Date"

def reportLine (source stamp statistics : String) : String :=
  source ++ ", " ++ stamp ++ ", " ++ statistics

def gapLine (source : String) (time : WallTime) (skipped : Int) (start stop : WallTime) : String :=
  source ++ ", " ++ time.stamp
    ++ ", Logger Unavailable For (10 min intervals)=" ++ integerText skipped
    ++ ", emptyIntervalStart=" ++ start.stamp
    ++ ", emptyIntervalEnd=" ++ stop.stamp

/-- The lines of a report up to the first statistics that cannot be shown. -/
def reportLines (source stamp : String) :
    List Statistics → List String × Except Failure Unit
  | [] => ([], .ok ())
  | stats :: rest =>
    match stats.render with
    | .error failure => ([], .error failure)
    | .ok text =>
      let (lines, result) := reportLines source stamp rest
      (reportLine source stamp text :: lines, result)

end ArrivalRates
