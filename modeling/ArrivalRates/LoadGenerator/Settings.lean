import ArrivalRates.LoadGenerator.Stream

/-!
# Settings of the load generator

What a run can be told from outside. A setting may be a value of any kind; one of the wrong kind
fails only where it is used.
-/

namespace ArrivalRates.LoadGenerator

structure Settings where
  serviceUrl : Json := .str "http://msgrate:8080"
  publishUrl : Json := .str "http://msgrate:8080/publish"
  statsUrl : Json := .str "http://msgrate:8080/stats"
  reportUrl : Json := .str "http://msgrate:8080/report"
  simulation : Simulation := {}
  batchSize : Json := .int 100
  /-- Seconds between two looks at the progress. -/
  pollInterval : Json := .int 2

namespace Settings

def numberOf (value : Json) : Except Failure Number :=
  match Number.ofJson? value with
  | some n => .ok n
  | none => .error .wrongKind

/-- What there is to go through: the items of a list, the keys of an object, the characters of a
text. -/
def itemsOf : Json → Except Failure (List Json)
  | .arr items => .ok items
  | .obj fields => .ok (fields.map fun (key, _) => .str key)
  | .str text => .ok (text.toList.map fun c => .str (String.singleton c))
  | _ => .error .wrongKind

/-- What there is to choose from by position. An object has no positions. -/
def choicesOf : Json → Except Failure (List Json)
  | .obj (_ :: _) => .error .missingKey
  | value => itemsOf value

def simulationOf (record : Json) : Simulation :=
  let plain : Simulation := {}
  let number := fun name default => ((record.field? name).map numberOf).getD default
  { sources := ((record.field? "SOURCES").map itemsOf).getD plain.sources
    messageIds := ((record.field? "MESSAGE_IDS").map choicesOf).getD plain.messageIds
    simulatedHours := number "SIMULATED_HOURS" plain.simulatedHours
    eventsPerBucket := number "EVENTS_PER_BUCKET" plain.eventsPerBucket
    secondaryShare := number "SECONDARY_PERCENT" plain.secondaryShare
    outageShare := number "OUTAGE_PERCENT" plain.outageShare }

def ofJson (record : Json) : Settings :=
  let plain : Settings := {}
  let value := fun name default => (record.field? name).getD default
  { serviceUrl := value "SERVICE_URL" plain.serviceUrl
    publishUrl := value "PUBLISH_URL" plain.publishUrl
    statsUrl := value "STATS_URL" plain.statsUrl
    reportUrl := value "REPORT_URL" plain.reportUrl
    simulation := simulationOf record
    batchSize := value "BATCH_SIZE" plain.batchSize
    pollInterval := value "POLL_INTERVAL" plain.pollInterval }

end Settings

end ArrivalRates.LoadGenerator
