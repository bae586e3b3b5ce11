import ArrivalRates.Registry
import ArrivalRates.Totals

/-!
# The service

Published events wait in the queue of a worker; a worker takes them in batches and delivers them to
the registry one by one. Which queue an event enters depends on its effective key alone, by an
assignment that is a parameter here. An event whose delivery fails counts as dropped. Publishing and
a batch are each one step; `drain` runs batches until nothing waits.
-/

namespace ArrivalRates

/-- Events in order of arrival, with counts of all that went in, came out and were dealt with. -/
structure EventQueue where
  waiting : List Event := []
  entered : Nat := 0
  taken : Nat := 0
  finished : Nat := 0
  deriving Repr

namespace EventQueue

def enter (queue : EventQueue) (event : Event) : EventQueue :=
  { queue with waiting := queue.waiting ++ [event], entered := queue.entered + 1 }

def take (queue : EventQueue) (count : Nat) : List Event × EventQueue :=
  let batch := queue.waiting.take count
  (batch,
    { queue with waiting := queue.waiting.drop count, taken := queue.taken + batch.length })

def finish (queue : EventQueue) : EventQueue := { queue with finished := queue.finished + 1 }

/-- Events that went in and have not been dealt with. -/
def unfinished (queue : EventQueue) : Int := (queue.entered : Int) - queue.finished

end EventQueue

structure Service where
  registry : Registry
  totals : Totals := {}
  queues : List EventQueue
  /-- The latest lines that went to the sink, oldest first. -/
  recent : List String := []
  deriving Repr

/-- The queue, as a number, for an effective key. -/
abbrev Assignment := String → Nat

namespace Service

def workers : Nat := 2

def batchSize : Nat := 100

def recentLimit : Nat := 1000

/-- A service before its first request; the layout of the windows is checked first. -/
def create (config : Config) : Except Failure Service := do
  checkLayout config.slots config.sizes
  return { registry := Registry.create config, queues := List.replicate workers {} }

def remember (service : Service) (lines : List String) : Service :=
  let recent := service.recent ++ lines
  { service with recent := recent.drop (recent.length - recentLimit) }

def lift (service : Service) (outcome : Outcome Registry α) : Outcome Service α :=
  outcome.mapState fun registry => { service with registry }.remember outcome.lines

def enqueue (assignment : Assignment) (service : Service) (event : Event) : Service :=
  let worker := assignment (service.registry.effectiveKey event.source) % service.queues.length
  { service with queues := service.queues.modify worker fun queue => queue.enter event }

def publish (assignment : Assignment) (service : Service) (events : List Event) : Service :=
  let queued := events.foldl (enqueue assignment) service
  { queued with
    totals := { queued.totals with received := queued.totals.received + events.length } }

/-- Delivers events in order; the result is how many were recorded. -/
def consumeAll (registry : Registry) : List Event → Outcome Registry Nat
  | [] => .done registry 0
  | event :: rest =>
    let first := registry.consume event
    let others := consumeAll first.state rest
    let recorded :=
      match first.result with
      | .ok true => 1
      | _ => 0
    ⟨others.state, others.result.map (recorded + ·), first.entries ++ others.entries⟩

def workBatch (service : Service) (worker size : Nat) : Outcome Service Unit :=
  match service.queues[worker]? with
  | none => .done service ()
  | some queue =>
    let (batch, queue) := queue.take size
    let outcome := consumeAll service.registry batch
    let recorded := outcome.result.toOption.getD 0
    let finished := batch.foldl (fun queue _ => queue.finish) queue
    let totals :=
      { service.totals with
        recorded := service.totals.recorded + recorded
        dropped := service.totals.dropped + (batch.length - recorded) }
    (service.lift outcome).andThen fun service _ =>
      .done { service with queues := service.queues.set worker finished, totals } ()

/-- Batches of one worker until its queue is empty, at most as many as the fuel says. -/
def drainWorker (worker : Nat) (fuel : Nat) (service : Service) : Outcome Service Unit :=
  match fuel with
  | 0 => .done service ()
  | fuel + 1 =>
    match service.queues[worker]? with
    | none => .done service ()
    | some queue =>
      if queue.waiting.isEmpty then .done service ()
      else
        (service.workBatch worker batchSize).andThen fun service () =>
          drainWorker worker fuel service

def waitingCount (service : Service) (worker : Nat) : Nat :=
  ((service.queues[worker]?).map fun queue => queue.waiting.length).getD 0

def drainWorkers (service : Service) : List Nat → Outcome Service Unit
  | [] => .done service ()
  | worker :: rest =>
    (drainWorker worker (service.waitingCount worker) service).andThen fun service () =>
      service.drainWorkers rest

def drain (service : Service) : Outcome Service Unit :=
  service.drainWorkers (List.range service.queues.length)

/-- A report out of schedule, after the queues are empty. -/
def report (service : Service) (source : String) : Outcome Service Nat :=
  service.drain.andThen fun service () =>
    service.lift (service.registry.requestReport source)

def shutdown (service : Service) : Outcome Service Nat := service.report everySource

structure Status where
  totals : Totals
  dropRate : Option Binary64
  gapNotices : Nat
  reportsEmitted : Nat
  trackers : List Tracker.Description

def status (service : Service) : Except Failure Status := do
  let dropRate ← service.totals.dropRate
  let trackers := service.registry.trackers
  let descriptions ← trackers.mapM Tracker.describe
  return ⟨service.totals, dropRate, trackers.foldr (fun tracker n => tracker.gapNotices + n) 0,
    trackers.foldr (fun tracker n => tracker.reportsEmitted + n) 0, descriptions⟩

end Service

end ArrivalRates
