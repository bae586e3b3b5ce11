import ArrivalRates.Proofs.ServiceRuns
import ArrivalRates.Proofs.SideBySide
import Mathlib.Data.List.Flatten

/-!
# The turns of the workers do not matter

Publish requests and batches take turns in any order, and keys go to the queues in any way. When
nothing waits any more, every tracker has gone through the events of its key in the order in which
they were published, as if each event had been delivered at once. Two facts make it so: a queue
keeps the order of the events of one key, all of which it gets, and a tracker sees nothing of the
events of other keys.
-/

namespace ArrivalRates

/-! ### Deliveries -/

structure Receipt where
  event : Event
  result : Except Failure Bool
  lines : List String
  deriving DecidableEq

def Receipt.recorded (receipt : Receipt) : Bool :=
  match receipt.result with
  | .ok answer => answer
  | .error _ => false

section

variable {σ : Type} (consume : σ → Event → Outcome σ Bool)

def receiptsFor (state : σ) : List Event → List Receipt
  | [] => []
  | event :: rest =>
    let outcome := consume state event
    ⟨event, outcome.result, outcome.lines⟩ :: receiptsFor outcome.state rest

def afterEvents (state : σ) (events : List Event) : σ :=
  events.foldl (fun state event => (consume state event).state) state

theorem map_event_receiptsFor (state : σ) (events : List Event) :
    (receiptsFor consume state events).map Receipt.event = events := by
  induction events generalizing state with
  | nil => rfl
  | cons event rest ih => simp [receiptsFor, ih]

theorem length_receiptsFor (state : σ) (events : List Event) :
    (receiptsFor consume state events).length = events.length := by
  rw [← List.length_map Receipt.event, map_event_receiptsFor]

theorem receiptsFor_append (state : σ) (earlier later : List Event) :
    receiptsFor consume state (earlier ++ later) =
      receiptsFor consume state earlier ++
        receiptsFor consume (afterEvents consume state earlier) later := by
  induction earlier generalizing state with
  | nil => rfl
  | cons event rest ih => simp [receiptsFor, afterEvents, ih]

theorem afterEvents_append (state : σ) (earlier later : List Event) :
    afterEvents consume state (earlier ++ later) =
      afterEvents consume (afterEvents consume state earlier) later :=
  List.foldl_append ..

end

def Config.eventsOf (config : Config) (key : String) (events : List Event) : List Event :=
  events.filter fun event => config.keyOf event.source = key

theorem Config.eventsOf_append (config : Config) (key : String) (earlier later : List Event) :
    config.eventsOf key (earlier ++ later) =
      config.eventsOf key earlier ++ config.eventsOf key later :=
  List.filter_append ..

def Config.receiptsOf (config : Config) (key : String) (receipts : List Receipt) : List Receipt :=
  receipts.filter fun receipt => config.keyOf receipt.event.source = key

namespace Registry

variable {config : Config} {states : String → Tracker} {registry : Registry}

theorem consumeAll_eq (registry : Registry) (events : List Event) :
    let outcome := Service.consumeAll registry events
    let receipts := receiptsFor Registry.consume registry events
    outcome.state = afterEvents Registry.consume registry events ∧
      outcome.result = .ok (receipts.countP Receipt.recorded) ∧
      outcome.lines = receipts.flatMap Receipt.lines := by
  induction events generalizing registry with
  | nil => exact ⟨rfl, rfl, rfl⟩
  | cons event rest ih =>
    obtain ⟨state, result, lines⟩ := ih (registry.consume event).state
    refine ⟨state, ?_, ?_⟩
    · simp only [Service.consumeAll, receiptsFor, List.countP_cons, result, Receipt.recorded]
      rcases (registry.consume event).result with failure | answer
      · simp [Except.map]
      · cases answer <;> simp [Except.map, Nat.add_comm]
    · simp only [receiptsFor, List.flatMap_cons, ← lines]
      exact List.filterMap_append

theorem length_recordedOf (registry : Registry) (events : List Event) :
    (registry.recordedOf events).length =
      (receiptsFor Registry.consume registry events).countP Receipt.recorded :=
  Except.ok.inj ((registry.result_consumeAll events).symm.trans (registry.consumeAll_eq events).2.1)

/-- The tracker of a key answers and writes as if the events of its key were all there are. -/
theorem Holds.receiptsOf_eq (holds : registry.Holds config states) (accepted : config.Accepted)
    (key : String) (events : List Event) :
    config.receiptsOf key (receiptsFor Registry.consume registry events) =
      receiptsFor Tracker.consume (states key) (config.eventsOf key events) := by
  induction events generalizing registry states with
  | nil => rfl
  | cons event rest ih =>
    have acts := holds.consume accepted event
    have later := ih acts.holds
    unfold Config.receiptsOf Config.eventsOf at *
    rw [receiptsFor, List.filter_cons, List.filter_cons, later]
    by_cases here : config.keyOf event.source = key
    · subst here
      simp [receiptsFor, acts.result_eq, acts.lines_eq]
    · simp [here, Function.update_of_ne (Ne.symm here)]

theorem Holds.consumed (holds : registry.Holds config states) (accepted : config.Accepted)
    (events : List Event) :
    let after := afterEvents Registry.consume registry events
    (after.Holds config fun key =>
      afterEvents Tracker.consume (states key) (config.eventsOf key events)) ∧
    ∀ key, key ∈ after.keys ↔ key ∈ registry.keys ∨ config.eventsOf key events ≠ [] := by
  induction events generalizing registry states with
  | nil => exact ⟨holds, by simp [afterEvents, Config.eventsOf]⟩
  | cons event rest ih =>
    have acts := holds.consume accepted event
    obtain ⟨later, keys⟩ := ih acts.holds
    refine ⟨later.congr fun key => ?_, fun key => (keys key).trans ?_⟩
    · unfold Config.eventsOf
      rw [List.filter_cons]
      by_cases here : config.keyOf event.source = key
      · subst here
        simp [afterEvents]
      · simp [here, Function.update_of_ne (Ne.symm here)]
    · unfold Config.eventsOf
      rw [acts.mem_keys, List.filter_cons]
      by_cases here : config.keyOf event.source = key
      · simp [here]
      · simp [here, Ne.symm here]

end Registry

/-! ### Runs -/

namespace Service

def Step.published : Step → List Event
  | publish events => events
  | _ => []

def receiptsBy (service : Service) : Step → List Receipt
  | .work worker size =>
    receiptsFor Registry.consume service.registry (service.batch worker size)
  | _ => []

end Service

/-- A diary with a receipt for each delivery. -/
structure Journal extends Diary where
  receipts : List Receipt := []

namespace Journal

def next (assignment : Assignment) (journal : Journal) (step : Service.Step) : Journal where
  toDiary := journal.toDiary.next assignment step
  receipts := journal.receipts ++ journal.service.receiptsBy step

def ofSteps (assignment : Assignment) (service : Service) (steps : List Service.Step) : Journal :=
  steps.foldl (next assignment) { service }

def delivered (journal : Journal) : List Event := journal.receipts.map Receipt.event

/-- The totals of a service that received some events and made the deliveries of a journal. -/
def tally (journal : Journal) (received : Nat) : Totals where
  received := received
  recorded := journal.receipts.countP Receipt.recorded
  dropped := journal.receipts.length - journal.receipts.countP Receipt.recorded

/-- Some events were published: those of each key that have been delivered and those that wait are
theirs, in the order of publication. -/
structure InOrder (config : Config) (assignment : Assignment) (published : List Event)
    (journal : Journal) : Prop where
  workers_eq : journal.service.queues.length = Service.workers
  routed : ∀ worker, ∀ event ∈ journal.service.waitingAt worker,
    assignment (config.keyOf event.source) % Service.workers = worker
  in_order : ∀ key, config.eventsOf key journal.delivered ++
      config.eventsOf key (journal.service.waitingAt (assignment key % Service.workers)) =
    config.eventsOf key published

/-- What has happened is the delivery of the events in the order in which they were delivered. -/
structure Explained (config : Config) (published : List Event) (journal : Journal) : Prop where
  registry_eq : journal.service.registry =
    afterEvents Registry.consume (.create config) journal.delivered
  receipts_eq : journal.receipts = receiptsFor Registry.consume (.create config)
    journal.delivered
  lines_eq : journal.lines = journal.receipts.flatMap Receipt.lines
  totals_eq : journal.service.totals =
    { received := published.length
      recorded := journal.receipts.countP Receipt.recorded
      dropped := journal.receipts.length - journal.receipts.countP Receipt.recorded }

variable {config : Config} {assignment : Assignment} {published : List Event} {journal : Journal}

theorem delivered_publish (assignment : Assignment) (journal : Journal) (events : List Event) :
    (journal.next assignment (.publish events)).delivered = journal.delivered :=
  congrArg (List.map Receipt.event) (List.append_nil _)

theorem delivered_report (assignment : Assignment) (journal : Journal) (source : String) :
    (journal.next assignment (.report source)).delivered = journal.delivered :=
  congrArg (List.map Receipt.event) (List.append_nil _)

theorem delivered_work (journal : Journal) (worker size : Nat) :
    (journal.next assignment (.work worker size)).delivered =
      journal.delivered ++ journal.service.batch worker size := by
  rw [delivered, next, List.map_append, Service.receiptsBy, map_event_receiptsFor, delivered]

theorem service_report (assignment : Assignment) (journal : Journal) (source : String) :
    (journal.next assignment (.report source)).service =
      (journal.service.lift (journal.service.registry.requestReport source)).state :=
  congrArg Outcome.state (Outcome.andThen_done _ fun _ _ => ())

theorem length_queues_next (assignment : Assignment) (journal : Journal) (step : Service.Step) :
    (journal.next assignment step).service.queues.length = journal.service.queues.length := by
  cases step with
  | publish events => exact journal.service.length_publish assignment events
  | work worker size =>
    show (journal.service.workBatch worker size).state.queues.length = _
    rw [Service.queues_workBatch, List.length_modify]
  | report source =>
    rw [service_report]
    rfl

theorem totals_next_publish {received : Nat}
    (tallied : journal.service.totals = journal.tally received) (events : List Event) :
    let after := journal.next assignment (.publish events)
    after.service.totals = after.tally (received + events.length) := by
  have same : (journal.next assignment (.publish events)).receipts = journal.receipts :=
    List.append_nil _
  show (journal.service.publish assignment events).totals = _
  simp only [Service.totals_publish, tallied, tally, same, Nat.cast_add]

theorem totals_next_work {received : Nat}
    (tallied : journal.service.totals = journal.tally received) (worker size : Nat) :
    let after := journal.next assignment (.work worker size)
    after.service.totals = after.tally received := by
  have grown : (journal.next assignment (.work worker size)).receipts = journal.receipts ++
      receiptsFor Registry.consume journal.service.registry
        (journal.service.batch worker size) := rfl
  show (journal.service.workBatch worker size).state.totals = _
  rw [Service.totals_workBatch, tallied, Registry.length_recordedOf, tally, tally, grown,
    List.countP_append, List.length_append, length_receiptsFor, Totals.mk.injEq]
  push_cast
  exact ⟨rfl, rfl, by omega⟩

theorem Explained.publish (explained : journal.Explained config published) (events : List Event) :
    (journal.next assignment (.publish events)).Explained config (published ++ events) := by
  have same : (journal.next assignment (.publish events)).receipts = journal.receipts :=
    List.append_nil _
  obtain ⟨kept, -⟩ := Service.publish_spec assignment journal.service events
  refine ⟨?_, ?_, ?_, ?_⟩
  · rw [delivered, same, ← delivered, ← explained.registry_eq]
    exact kept
  · rw [delivered, same, ← delivered, ← explained.receipts_eq]
  · rw [same, ← explained.lines_eq]
    exact List.append_nil _
  · rw [List.length_append]
    exact totals_next_publish explained.totals_eq events

theorem Explained.work (explained : journal.Explained config published) (worker size : Nat) :
    (journal.next assignment (.work worker size)).Explained config published := by
  obtain ⟨state, lines, -⟩ := journal.service.workBatch_spec worker size
  obtain ⟨after, -, written⟩ :=
    journal.service.registry.consumeAll_eq (journal.service.batch worker size)
  have grown : (journal.next assignment (.work worker size)).receipts = journal.receipts ++
      receiptsFor Registry.consume journal.service.registry
        (journal.service.batch worker size) := rfl
  refine ⟨?_, ?_, ?_, ?_⟩
  · rw [delivered_work, afterEvents_append, ← explained.registry_eq, ← after]
    exact state
  · rw [delivered_work, receiptsFor_append, ← explained.registry_eq, ← explained.receipts_eq]
    rfl
  · rw [grown, List.flatMap_append, ← written, ← explained.lines_eq, ← lines]
    rfl
  · exact totals_next_work explained.totals_eq worker size

theorem Explained.effectiveKey_eq (explained : journal.Explained config published)
    (accepted : config.Accepted) (source : String) :
    journal.service.registry.effectiveKey source = config.keyOf source := by
  rw [explained.registry_eq]
  exact ((Registry.holds_create config).consumed accepted _).1.effectiveKey_eq source

theorem InOrder.publish (ordered : journal.InOrder config assignment published)
    (keyed : ∀ source, journal.service.registry.effectiveKey source = config.keyOf source)
    (events : List Event) :
    (journal.next assignment (.publish events)).InOrder config assignment
      (published ++ events) := by
  have waiting : ∀ worker < Service.workers,
      (journal.next assignment (.publish events)).service.waitingAt worker =
        journal.service.waitingAt worker ++ events.filter fun event =>
          assignment (config.keyOf event.source) % Service.workers = worker := by
    intro worker valid
    rw [← ordered.workers_eq] at valid
    have queued := journal.service.waitingAt_publish assignment events valid
    simp only [Service.workerFor, keyed, ordered.workers_eq] at queued
    exact queued
  refine ⟨?_, ?_, ?_⟩
  · exact (length_queues_next ..).trans ordered.workers_eq
  · intro worker event member
    by_cases valid : worker < Service.workers
    · rw [waiting worker valid] at member
      rcases List.mem_append.1 member with before | added
      · exact ordered.routed worker event before
      · exact of_decide_eq_true (List.mem_filter.1 added).2
    · rw [Service.waitingAt_of_le] at member
      · cases member
      · exact (length_queues_next ..).trans_le (ordered.workers_eq.trans_le (not_lt.1 valid))
  · intro key
    have all : config.eventsOf key (events.filter fun event =>
        assignment (config.keyOf event.source) % Service.workers =
          assignment key % Service.workers) = config.eventsOf key events := by
      unfold Config.eventsOf
      rw [List.filter_filter]
      refine List.filter_congr fun event _ => ?_
      by_cases here : config.keyOf event.source = key <;> simp [here]
    rw [waiting _ (Nat.mod_lt _ (by decide)), config.eventsOf_append, config.eventsOf_append, all,
      ← List.append_assoc, ← ordered.in_order key, delivered_publish]

theorem InOrder.work (ordered : journal.InOrder config assignment published) (worker size : Nat) :
    (journal.next assignment (.work worker size)).InOrder config assignment published := by
  have waiting : ∀ other, (journal.next assignment (.work worker size)).service.waitingAt other =
      if worker = other then (journal.service.waitingAt other).drop size
      else journal.service.waitingAt other :=
    journal.service.waitingAt_workBatch worker size
  refine ⟨?_, ?_, ?_⟩
  · exact (length_queues_next ..).trans ordered.workers_eq
  · intro other event member
    apply ordered.routed other event
    rw [waiting] at member
    split at member
    · exact List.mem_of_mem_drop member
    · exact member
  · intro key
    rw [delivered_work, config.eventsOf_append, waiting, Service.batch_eq, ← ordered.in_order key,
      List.append_assoc]
    refine congrArg (config.eventsOf key journal.delivered ++ ·) ?_
    -- the events of a key wait in one queue, so the batch of another worker has none of them
    split
    next mine => rw [← mine, ← config.eventsOf_append, List.take_append_drop]
    next other =>
      have none : config.eventsOf key ((journal.service.waitingAt worker).take size) = [] := by
        refine List.filter_eq_nil_iff.2 fun event member here => other ?_
        rw [← ordered.routed worker event (List.mem_of_mem_take member), of_decide_eq_true here]
      rw [none, List.nil_append]

theorem inOrder_begin (config : Config) (assignment : Assignment) :
    InOrder config assignment []
      { service :=
          { registry := .create config, queues := List.replicate Service.workers {} } } := by
  have idle : Service.Drained
      { registry := .create config, queues := List.replicate Service.workers {} } := by
    intro queue member
    rw [List.eq_of_mem_replicate member]
  refine ⟨rfl, ?_, fun key => ?_⟩
  · intro worker event member
    have none := Service.waitingAt_of_drained idle worker
    exact absurd (none ▸ member) List.not_mem_nil
  · exact congrArg (config.eventsOf key) (Service.waitingAt_of_drained idle _)

theorem explained_ofSteps {service : Service} (wide : 1 ≤ config.slots)
    (created : Service.create config = .ok service) (steps : List Service.Step)
    (unreported : ∀ source, Service.Step.report source ∉ steps) :
    let published := steps.flatMap Service.Step.published
    (ofSteps assignment service steps).Explained config published ∧
      (ofSteps assignment service steps).InOrder config assignment published := by
  obtain ⟨layout, rfl⟩ := Service.create_eq created
  induction steps using List.reverseRecOn with
  | nil => exact ⟨⟨rfl, rfl, rfl, rfl⟩, inOrder_begin config assignment⟩
  | append_singleton steps step ih =>
    obtain ⟨explained, ordered⟩ := ih fun source member =>
      unreported source (List.mem_append_left _ member)
    rw [ofSteps, List.foldl_concat, List.flatMap_append, List.flatMap_singleton]
    cases step with
    | publish events =>
      exact ⟨explained.publish events,
        ordered.publish (explained.effectiveKey_eq ⟨wide, layout⟩) events⟩
    | work worker size =>
      have none : (Service.Step.work worker size).published = [] := rfl
      rw [none, List.append_nil]
      exact ⟨explained.work worker size, ordered.work worker size⟩
    | report source => exact absurd (by simp) (unreported source)

end Journal

/-- Lists with the same elements of each key, in any order between the keys. -/
theorem perm_of_filter_eq {α κ : Type} [DecidableEq κ] (key : α → κ) {left right : List α}
    (same : ∀ k, left.filter (fun a => key a = k) = right.filter (fun a => key a = k)) :
    left.Perm right := by
  classical
  rw [List.perm_iff_count]
  intro a
  have own : decide (key a = key a) = true := decide_eq_true rfl
  have counted : ∀ list : List α, (list.filter fun b => key b = key a).count a = list.count a :=
    fun _ => List.count_filter own
  rw [← counted, same, counted]

namespace Journal

variable {config : Config} {service : Service}

/-- The turns of the workers and the assignment of keys to queues do not matter. -/
theorem drained_eq_sequential (wide : 1 ≤ config.slots)
    (created : Service.create config = .ok service) (assignment : Assignment)
    (steps : List Service.Step) (unreported : ∀ source, Service.Step.report source ∉ steps)
    (drained : (ofSteps assignment service steps).service.Drained) :
    let run := ofSteps assignment service steps
    let published := steps.flatMap Service.Step.published
    let sequential := Service.consumeAll (.create config) published
    let receipts := receiptsFor Registry.consume (.create config) published
    (∀ key, run.service.registry.findKey? key = sequential.state.findKey? key) ∧
      run.service.registry.trackers.Perm sequential.state.trackers ∧
      (∀ key, config.receiptsOf key run.receipts = config.receiptsOf key receipts) ∧
      run.lines = run.receipts.flatMap Receipt.lines ∧
      sequential.lines = receipts.flatMap Receipt.lines ∧
      ∃ recorded : Nat, sequential.result = .ok recorded ∧
        run.service.totals = ⟨published.length, recorded, published.length - recorded⟩ := by
  intro run published sequential receipts
  have accepted : config.Accepted := ⟨wide, (Service.create_eq created).1⟩
  obtain ⟨explained, ordered⟩ : run.Explained config published ∧
    run.InOrder config assignment published := explained_ofSteps wide created steps unreported
  obtain ⟨state, result, lines⟩ := Registry.consumeAll_eq (.create config) published
  have new := Registry.holds_create config
  have same : ∀ key, config.eventsOf key run.delivered = config.eventsOf key published := by
    intro key
    have whole := ordered.in_order key
    rw [Service.waitingAt_of_drained drained] at whole
    rw [← whole]
    exact (List.append_nil _).symm
  obtain ⟨holds, keys⟩ := new.consumed accepted run.delivered
  obtain ⟨holds', keys'⟩ := new.consumed accepted published
  simp only [same] at holds keys
  rw [← explained.registry_eq] at holds keys
  rw [← state] at holds' keys'
  have receipts_eq : ∀ key,
      config.receiptsOf key run.receipts = config.receiptsOf key receipts := by
    intro key
    rw [explained.receipts_eq, new.receiptsOf_eq accepted, new.receiptsOf_eq accepted, same]
  -- the totals are sums over all keys, for which the order between keys does not count
  have perm : run.receipts.Perm receipts := perm_of_filter_eq _ receipts_eq
  refine ⟨?_, ?_, receipts_eq, explained.lines_eq, lines, _, result, ?_⟩
  · intro key
    rw [holds.findKey?_eq accepted, holds'.findKey?_eq accepted]
    exact if_congr ((keys key).trans (keys' key).symm) rfl rfl
  · rw [holds.trackers_eq, holds'.trackers_eq]
    apply List.Perm.map
    rw [List.perm_ext_iff_of_nodup holds.nodup holds'.nodup]
    exact fun key => (keys key).trans (keys' key).symm
  · rw [explained.totals_eq, perm.countP_eq, perm.length_eq, length_receiptsFor]

/-- The second worker gets its turns first, and one delivery fails. -/
theorem drained_eq_sequential_swapped :
    let service : Service :=
      { registry := .create .standard, queues := List.replicate Service.workers {} }
    let assignment : Assignment := fun key => if key = "gate" then 0 else 1
    let first : List Event :=
      [⟨"gate", "a", 253402293600000, false, false⟩, ⟨"pier", "b", 0, false, true⟩]
    let second : List Event :=
      [⟨"gate", "c", 253402300800000, false, false⟩, ⟨"pier", "d", 600000, true, true⟩]
    let steps : List Service.Step :=
      [.publish first, .work 1 1, .publish second, .work 1 Service.batchSize, .work 0 1, .work 0 1]
    let run := ofSteps assignment service steps
    1 ≤ Config.standard.slots ∧ Service.create .standard = .ok service ∧
      (∀ source, Service.Step.report source ∉ steps) ∧ run.service.Drained ∧
      run.delivered.map Event.messageId = ["b", "d", "a", "c"] ∧
      (∀ key, run.service.registry.findKey? key =
        (Service.consumeAll (.create .standard) (first ++ second)).state.findKey? key) ∧
      run.service.totals = ⟨4, 3, 1⟩ := by
  intro service assignment first second steps run
  have wide : 1 ≤ Config.standard.slots := by decide
  have created : Service.create .standard = .ok service := rfl
  have unreported : ∀ source, Service.Step.report source ∉ steps := by simp [steps]
  have drained : run.service.Drained := by decide +kernel
  obtain ⟨trackers, -, -, -, -, recorded, result, totals⟩ :=
    drained_eq_sequential wide created assignment steps unreported drained
  refine ⟨wide, created, unreported, drained, by decide +kernel, trackers, ?_⟩
  have three : (Service.consumeAll (.create .standard)
      (steps.flatMap Service.Step.published)).result = .ok 3 := by decide +kernel
  obtain rfl := Except.ok.inj (three.symm.trans result)
  exact totals

end Journal

end ArrivalRates
