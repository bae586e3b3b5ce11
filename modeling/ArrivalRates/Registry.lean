import ArrivalRates.Event
import ArrivalRates.SourceGroups
import ArrivalRates.Tracker

/-!
# The registry of trackers

One tracker per effective key: the source itself, or its group when sources are merged. Trackers
are made when their key is first used and keep the order in which they were made.
-/

namespace ArrivalRates

/-- The name that stands for every source in a request for a report. -/
def everySource : String := "all"

structure Registry where
  config : Config
  groups : SourceGroups
  /-- In the order of creation; the key of a tracker is its source. -/
  trackers : List Tracker
  deriving Repr

namespace Registry

def create (config : Config) : Registry := ⟨config, .ofList config.sourceGroups, []⟩

def effectiveKey (registry : Registry) (source : String) : String :=
  if registry.config.mergeSources then registry.groups.groupFor source else source

def findKey? (registry : Registry) (key : String) : Option Tracker :=
  registry.trackers.find? fun tracker => tracker.source = key

def get? (registry : Registry) (source : String) : Option Tracker :=
  registry.findKey? (registry.effectiveKey source)

def put (registry : Registry) (tracker : Tracker) : Registry :=
  { registry with
    trackers := registry.trackers.map fun old =>
      if old.source = tracker.source then tracker else old }

def creationNote (key source : String) : String :=
  "Created rate tracker for " ++ key ++ " (source=" ++ source ++ ")"

def getOrCreate (registry : Registry) (source : String) : Outcome Registry Tracker :=
  match registry.get? source with
  | some tracker => .done registry tracker
  | none =>
    let key := registry.effectiveKey source
    match Tracker.create key registry.config with
    | (.error failure, entries) => ⟨registry, .error failure, entries⟩
    | (.ok tracker, entries) =>
      ⟨{ registry with trackers := registry.trackers ++ [tracker] }, .ok tracker,
        entries ++ [.info (creationNote key source)]⟩

def onTracker (registry : Registry) (source : String)
    (operation : Tracker → Outcome Tracker α) : Outcome Registry α :=
  (registry.getOrCreate source).andThen fun registry tracker =>
    (operation tracker).mapState registry.put

def addMessage (registry : Registry) (source messageId : String) (arrival : Int)
    (secondary : Bool) : Outcome Registry Bool :=
  registry.onTracker source fun tracker => tracker.addMessage messageId arrival secondary

def markLoggerStarting (registry : Registry) (source : String) (next : Int) :
    Outcome Registry Unit :=
  registry.onTracker source fun tracker => tracker.markLoggerStarting next

def consume (registry : Registry) (event : Event) : Outcome Registry Bool :=
  let marked :=
    if event.loggerStarting then registry.markLoggerStarting event.source event.arrival
    else .done registry ()
  marked.andThen fun registry () =>
    registry.addMessage event.source event.messageId event.arrival event.secondary

/-- Reports of the trackers one after the other; the first failure ends them. -/
def reportEach (registry : Registry) : List Tracker → Outcome Registry Unit
  | [] => .done registry ()
  | tracker :: rest =>
    ((tracker.report none).mapState registry.put).andThen fun registry () =>
      registry.reportEach rest

/-- A report out of schedule for one source or for all; the answer is the number of trackers. -/
def requestReport (registry : Registry) (source : String) : Outcome Registry Nat :=
  if source = everySource then
    (registry.reportEach registry.trackers).andThen fun registry () =>
      .done registry registry.trackers.length
  else
    match registry.get? source with
    | none =>
      ⟨registry, .ok 0,
        [.warning ("No rate tracker for source " ++ source ++ ", report skipped")]⟩
    | some tracker =>
      (registry.reportEach [tracker]).andThen fun registry () => .done registry 1

end Registry

end ArrivalRates
