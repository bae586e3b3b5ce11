import ArrivalRates.Proofs.Routing
import ArrivalRates.Service.Basic

/-!
# Runs of the service

Publishing, a batch of a worker and a report are the steps of a service that nothing else
interrupts; a run is any list of them, so every order in which workers and callers get their turns
is a run. `Diary` keeps what a run recorded and wrote. Each step comes down to what a registry is
asked, so the registry stays traced, and a service whose queues are empty ends with nothing but its
reports.
-/

namespace ArrivalRates

/-! ### Batches -/

namespace Registry

variable {config : Config} {history : History} {registry : Registry} {recorded : List Event}
  {lines : List String}

/-- The events of a batch that are recorded when they are delivered in order. -/
def recordedOf (registry : Registry) : List Event → List Event
  | [] => []
  | event :: rest =>
    (if (registry.consume event).accepted then [event] else []) ++
      (registry.consume event).state.recordedOf rest

theorem Traced.consumeAll (traced : registry.Traced config history recorded lines)
    (accepted : config.Accepted) (events : List Event) :
    ∃ later, (Service.consumeAll registry events).state.Traced config later
      (recorded ++ registry.recordedOf events)
      (lines ++ (Service.consumeAll registry events).lines) := by
  induction events generalizing registry history recorded lines with
  | nil => exact ⟨history, by simpa [Service.consumeAll, recordedOf, Outcome.done, Outcome.lines]⟩
  | cons event rest ih =>
    obtain ⟨later, after⟩ := traced.consume accepted event
    have written : (Service.consumeAll registry (event :: rest)).lines =
        (registry.consume event).lines ++
          (Service.consumeAll (registry.consume event).state rest).lines :=
      List.filterMap_append
    rw [written, recordedOf, ← List.append_assoc, ← List.append_assoc]
    exact ih after

theorem result_consumeAll (registry : Registry) (events : List Event) :
    (Service.consumeAll registry events).result = .ok (registry.recordedOf events).length := by
  induction events generalizing registry with
  | nil => rfl
  | cons event rest ih =>
    rw [Service.consumeAll, recordedOf, List.length_append]
    cases answered : (registry.consume event).result with
    | error failure => simp [ih, Except.map, Outcome.accepted, answered]
    | ok answer =>
      cases answer <;> simp [ih, Except.map, Outcome.accepted, answered]

end Registry

/-! ### Steps -/

namespace Service

/-- What a service does without interruption. -/
inductive Step where
  | publish (events : List Event)
  | work (worker size : Nat)
  /-- A report out of schedule for one source or for all. -/
  | report (source : String)
  deriving Repr

def perform (assignment : Assignment) (service : Service) : Step → Outcome Service Unit
  | .publish events => .done (service.publish assignment events) ()
  | .work worker size => service.workBatch worker size
  | .report source =>
    (service.lift (service.registry.requestReport source)).andThen fun service _ =>
      .done service ()

def batch (service : Service) (worker size : Nat) : List Event :=
  ((service.queues[worker]?).map fun queue => queue.waiting.take size).getD []

def recordedBy (service : Service) : Step → List Event
  | .work worker size => service.registry.recordedOf (service.batch worker size)
  | _ => []

theorem publish_spec (assignment : Assignment) (service : Service) (events : List Event) :
    (service.publish assignment events).registry = service.registry ∧
      (service.publish assignment events).totals.recorded = service.totals.recorded := by
  show (events.foldl (enqueue assignment) service).registry = service.registry ∧
    (events.foldl (enqueue assignment) service).totals.recorded = service.totals.recorded
  induction events generalizing service with
  | nil => exact ⟨rfl, rfl⟩
  | cons event rest ih => exact ih (service.enqueue assignment event)

theorem workBatch_spec (service : Service) (worker size : Nat) :
    (service.workBatch worker size).state.registry =
        (consumeAll service.registry (service.batch worker size)).state ∧
      (service.workBatch worker size).lines =
        (consumeAll service.registry (service.batch worker size)).lines ∧
      (service.workBatch worker size).state.totals.recorded = service.totals.recorded +
        (service.registry.recordedOf (service.batch worker size)).length := by
  unfold workBatch batch
  cases service.queues[worker]? with
  | none => exact ⟨rfl, rfl, (Int.add_zero _).symm⟩
  | some queue =>
    have answered := Registry.result_consumeAll service.registry (queue.waiting.take size)
    have lifted : (service.lift (consumeAll service.registry (queue.waiting.take size))).result =
        .ok _ := answered
    simp only [EventQueue.take, Option.map_some, Option.getD_some]
    rw [Outcome.andThen_of_ok lifted]
    refine ⟨rfl, ?_, ?_⟩
    · rw [Outcome.lines, List.filterMap_append]
      exact List.append_nil _
    · rw [answered]
      rfl

/-- No event waits in a queue. -/
def Drained (service : Service) : Prop := ∀ queue ∈ service.queues, queue.waiting = []

instance (service : Service) : Decidable service.Drained :=
  inferInstanceAs (Decidable (∀ queue ∈ service.queues, queue.waiting = []))

theorem drainWorkers_of_drained {service : Service} (drained : service.Drained)
    (workers : List Nat) : service.drainWorkers workers = .done service () := by
  induction workers with
  | nil => rfl
  | cons worker rest ih =>
    have empty : service.waitingCount worker = 0 := by
      unfold waitingCount
      cases there : service.queues[worker]? with
      | none => rfl
      | some queue =>
        rw [Option.map_some, drained queue (List.mem_of_getElem? there)]
        rfl
    rw [drainWorkers, empty, drainWorker, Outcome.done_andThen]
    exact ih

/-- With empty queues, the end of the service is a report of every tracker. -/
theorem shutdown_of_drained {service : Service} (drained : service.Drained) :
    service.shutdown = service.lift (service.registry.requestReport everySource) := by
  rw [shutdown, report, drain, drainWorkers_of_drained drained, Outcome.done_andThen]

theorem create_eq {config : Config} {service : Service} (created : create config = .ok service) :
    checkLayout config.slots config.sizes = .ok () ∧
      service = { registry := .create config, queues := List.replicate workers {} } := by
  unfold create at created
  cases layout : checkLayout config.slots config.sizes with
  | error failure =>
    rw [layout] at created
    cases created
  | ok =>
    rw [layout] at created
    exact ⟨rfl, (Except.ok.inj created).symm⟩

end Service

/-! ### Queues -/

namespace Service

def waitingAt (service : Service) (worker : Nat) : List Event :=
  ((service.queues[worker]?).map EventQueue.waiting).getD []

/-- The worker whose queue an event of a source enters. -/
def workerFor (assignment : Assignment) (service : Service) (source : String) : Nat :=
  assignment (service.registry.effectiveKey source) % service.queues.length

theorem batch_eq (service : Service) (worker size : Nat) :
    service.batch worker size = (service.waitingAt worker).take size := by
  unfold batch waitingAt
  cases service.queues[worker]? <;> simp

theorem waitingAt_of_drained {service : Service} (drained : service.Drained) (worker : Nat) :
    service.waitingAt worker = [] := by
  unfold waitingAt
  cases there : service.queues[worker]? with
  | none => rfl
  | some queue => exact drained queue (List.mem_of_getElem? there)

theorem waitingAt_of_le {service : Service} {worker : Nat}
    (absent : service.queues.length ≤ worker) : service.waitingAt worker = [] := by
  rw [waitingAt, List.getElem?_eq_none absent]
  rfl

theorem totals_publish (assignment : Assignment) (service : Service) (events : List Event) :
    (service.publish assignment events).totals =
      { service.totals with received := service.totals.received + events.length } := by
  have same : (events.foldl (enqueue assignment) service).totals = service.totals := by
    induction events generalizing service with
    | nil => rfl
    | cons event rest ih => exact ih (service.enqueue assignment event)
  simp only [publish, same]

theorem length_enqueue (assignment : Assignment) (service : Service) (event : Event) :
    (service.enqueue assignment event).queues.length = service.queues.length :=
  List.length_modify ..

theorem length_publish (assignment : Assignment) (service : Service) (events : List Event) :
    (service.publish assignment events).queues.length = service.queues.length := by
  show (events.foldl (enqueue assignment) service).queues.length = service.queues.length
  induction events generalizing service with
  | nil => rfl
  | cons event rest ih => rw [List.foldl_cons, ih, length_enqueue]

theorem workerFor_enqueue (assignment : Assignment) (service : Service) (event : Event) :
    workerFor assignment (service.enqueue assignment event) = workerFor assignment service := by
  funext source
  rw [workerFor, length_enqueue]
  rfl

theorem waitingAt_enqueue (assignment : Assignment) (service : Service) (event : Event)
    {worker : Nat} (valid : worker < service.queues.length) :
    (service.enqueue assignment event).waitingAt worker = service.waitingAt worker ++
      if workerFor assignment service event.source = worker then [event] else [] := by
  unfold waitingAt enqueue workerFor
  simp only [List.getElem?_modify, List.getElem?_eq_getElem valid]
  split <;> simp [EventQueue.enter]

/-- Published events go to the ends of the queues, in order. -/
theorem waitingAt_publish (assignment : Assignment) (service : Service) (events : List Event)
    {worker : Nat} (valid : worker < service.queues.length) :
    (service.publish assignment events).waitingAt worker = service.waitingAt worker ++
      events.filter fun event => workerFor assignment service event.source = worker := by
  show (events.foldl (enqueue assignment) service).waitingAt worker = _
  induction events generalizing service with
  | nil => simp
  | cons event rest ih =>
    have kept : worker < (service.enqueue assignment event).queues.length := by
      rwa [length_enqueue]
    rw [List.foldl_cons, ih _ kept, waitingAt_enqueue _ _ _ valid, workerFor_enqueue,
      List.append_assoc, List.filter_cons]
    split <;> simp_all

theorem queues_workBatch (service : Service) (worker size : Nat) :
    (service.workBatch worker size).state.queues = service.queues.modify worker fun queue =>
      (queue.take size).1.foldl (fun queue _ => queue.finish) (queue.take size).2 := by
  rw [List.modify_eq_set_getElem?]
  unfold workBatch
  cases service.queues[worker]? with
  | none => rfl
  | some queue =>
    have answered : (service.lift (consumeAll service.registry (queue.take size).1)).result =
        .ok _ := Registry.result_consumeAll ..
    simp only [Outcome.andThen_of_ok answered]
    rfl

theorem waiting_finish (queue : EventQueue) (events : List Event) :
    (events.foldl (fun queue _ => queue.finish) queue).waiting = queue.waiting := by
  induction events generalizing queue with
  | nil => rfl
  | cons event rest ih => exact ih queue.finish

/-- A batch is taken from the front of its queue. -/
theorem waitingAt_workBatch (service : Service) (worker size other : Nat) :
    (service.workBatch worker size).state.waitingAt other =
      if worker = other then (service.waitingAt other).drop size
      else service.waitingAt other := by
  unfold waitingAt
  rw [queues_workBatch, List.getElem?_modify]
  cases service.queues[other]? with
  | none => split <;> simp
  | some queue => split <;> simp [waiting_finish, EventQueue.take]

theorem totals_workBatch (service : Service) (worker size : Nat) :
    let batch := service.batch worker size
    let recorded : Int := (service.registry.recordedOf batch).length
    (service.workBatch worker size).state.totals =
      { service.totals with
        recorded := service.totals.recorded + recorded
        dropped := service.totals.dropped + (batch.length - recorded) } := by
  unfold workBatch batch
  cases service.queues[worker]? with
  | none => simp [Outcome.done, Registry.recordedOf]
  | some queue =>
    have answered := Registry.result_consumeAll service.registry (queue.take size).1
    have lifted : (service.lift (consumeAll service.registry (queue.take size).1)).result =
        .ok _ := answered
    simp only [Outcome.andThen_of_ok lifted, answered]
    rfl

end Service

/-! ### Runs -/

/-- A service and what its steps have shown so far. -/
structure Diary where
  service : Service
  /-- The events whose delivery answered that they were recorded. -/
  recorded : List Event := []
  lines : List String := []

namespace Diary

def next (assignment : Assignment) (diary : Diary) (step : Service.Step) : Diary where
  service := (diary.service.perform assignment step).state
  recorded := diary.recorded ++ diary.service.recordedBy step
  lines := diary.lines ++ (diary.service.perform assignment step).lines

def ofSteps (assignment : Assignment) (service : Service) (steps : List Service.Step) : Diary :=
  steps.foldl (next assignment) { service }

variable {config : Config} {assignment : Assignment} {diary : Diary} {service : Service}

/-- The registry of a diary is traced, and its service counts what it recorded. -/
def Traced (config : Config) (diary : Diary) : Prop :=
  diary.service.totals.recorded = diary.recorded.length ∧
    ∃ history, diary.service.registry.Traced config history diary.recorded diary.lines

theorem traced_next (traced : diary.Traced config) (accepted : config.Accepted)
    (step : Service.Step) : (diary.next assignment step).Traced config := by
  obtain ⟨count, history, registry⟩ := traced
  unfold Traced next
  cases step with
  | publish events =>
    obtain ⟨same, kept⟩ := Service.publish_spec assignment diary.service events
    simp only [Service.perform, Service.recordedBy, Outcome.done, Outcome.lines, same, kept,
      List.filterMap_nil, List.append_nil]
    exact ⟨count, history, registry⟩
  | work worker size =>
    obtain ⟨state, lines, recorded⟩ := diary.service.workBatch_spec worker size
    simp only [Service.perform, Service.recordedBy, state, lines, recorded, count,
      List.length_append, Nat.cast_add, true_and]
    exact registry.consumeAll accepted _
  | report source =>
    simp only [Service.perform, Service.recordedBy, Outcome.andThen_done, List.append_nil]
    exact ⟨count, registry.requestReport accepted source⟩

theorem traced_ofSteps (wide : 1 ≤ config.slots) (created : Service.create config = .ok service)
    (steps : List Service.Step) : (ofSteps assignment service steps).Traced config := by
  obtain ⟨layout, rfl⟩ := Service.create_eq created
  induction steps using List.reverseRecOn with
  | nil => exact ⟨rfl, _, Registry.traced_create config⟩
  | append_singleton steps step ih =>
    rw [ofSteps, List.foldl_concat]
    exact traced_next ih ⟨wide, layout⟩ step

end Diary

end ArrivalRates
