import ArrivalRates.LoadGenerator.Delivery

/-!
# The closing summary

The text that the load generator prints about the status of the service at the end of a run.
-/

namespace ArrivalRates.LoadGenerator

def shownField (status : Json) (name : String) : String :=
  match status.field? name with
  | some value => value.shown
  | none => "N/A"

def fieldOf (value : Json) (name : String) : Except Interruption Json :=
  match value with
  | .obj _ =>
    match value.field? name with
    | some found => .ok found
    | none => .error (.missingField name)
  | _ => .error (.failure .wrongKind)

def itemsOf (value : Json) : Except Interruption (List Json) :=
  (Settings.itemsOf value).mapError .failure

/-- The text of a field, filled up with blanks on the left. -/
def rightAligned (width : Nat) (value : Json) : Except Interruption String :=
  let text :=
    match value with
    | .str s => some s
    | value => (Number.ofJson? value).map Number.render
  match text with
  | some text => .ok (String.ofList (List.replicate (width - text.length) ' ') ++ text)
  | none => .error (.failure .wrongKind)

def twoPlaces (value : Json) : Except Interruption String :=
  match value with
  | .str _ =>
    .error (.unreadableFormat "Unknown format code 'f' for object of type 'str'")
  | value =>
    match Number.ofJson? value with
    | some n => (n.toFixed 2).mapError .failure
    | none => .error (.failure .wrongKind)

def statisticsLine (statistics : Json) : Except Interruption String := do
  let size ← (fieldOf statistics "interval_size").bind (rightAligned 2)
  let intervals ← (fieldOf statistics "intervals").bind (rightAligned 4)
  let mean ← (fieldOf statistics "msg1_mean").bind twoPlaces
  let deviation ← (fieldOf statistics "msg1_stddev").bind twoPlaces
  let zero ← fieldOf statistics "zero_intervals"
  return "    size=" ++ size ++ " intervals=" ++ intervals ++ " mean=" ++ mean ++ " stddev="
    ++ deviation ++ " zero=" ++ zero.shown

/-- Prints texts in order until one of them cannot be made. -/
def printEach (make : Json → Except Interruption String) :
    List Json → Session → Except Interruption Unit × Session
  | [], session => (.ok (), session)
  | value :: rest, session =>
    match make value with
    | .error interruption => (.error interruption, session)
    | .ok text => printEach make rest (session.print text)

def trackerHeading (tracker : Json) : Except Interruption String := do
  let source ← fieldOf tracker "source"
  let tracked ← fieldOf tracker "tracked_messages"
  return "\n  [" ++ source.shown ++ "] tracked messages: " ++ tracked.shown

def printTracker (tracker : Json) (session : Session) : Except Interruption Unit × Session :=
  match trackerHeading tracker with
  | .error interruption => (.error interruption, session)
  | .ok heading =>
    let session := session.print heading
    match (fieldOf tracker "aggregators").bind itemsOf with
    | .error interruption => (.error interruption, session)
    | .ok statistics => printEach statisticsLine statistics session

def printTrackers : List Json → Session → Except Interruption Unit × Session
  | [], session => (.ok (), session)
  | tracker :: rest, session =>
    match printTracker tracker session with
    | (.error interruption, session) => (.error interruption, session)
    | (.ok (), session) => printTrackers rest session

def printTotals (status : Json) (session : Session) : Session :=
  session
    |>.print "\n--- STATISTIK AKHIR ---"
    |>.print ("  Total Received:  " ++ shownField status "received")
    |>.print ("  Recorded:        " ++ shownField status "recorded")
    |>.print ("  Dropped:         " ++ shownField status "dropped")
    |>.print ("  Gap Notices:     " ++ shownField status "gap_notices")
    |>.print ("  Reports Emitted: " ++ shownField status "reports_emitted")

def printSummary (status : Json) (session : Session) : Except Interruption Unit × Session :=
  let session := printTotals status session
  match itemsOf ((status.field? "trackers").getD (.arr [])) with
  | .error interruption => (.error interruption, session)
  | .ok trackers => printTrackers trackers session

end ArrivalRates.LoadGenerator
