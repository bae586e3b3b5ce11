import ArrivalRates.Proofs.Confluence
import ArrivalRates.Proofs.Rounding

/-!
# Every published event is accounted for

An event enters one queue, is taken from it once, and is then counted as recorded or as dropped,
whether its delivery failed or not. So what was received is at every moment what was recorded, what
was dropped and what still waits. A step of the service does one of these things to some events and
nothing to the others; nothing is asked of the registry, so deliveries may fail in any pattern.
-/

namespace ArrivalRates

/-! ### Queues -/

namespace EventQueue

/-- All events that were taken have been dealt with, and the others wait. -/
structure Settled (queue : EventQueue) : Prop where
  entered_eq : queue.entered = queue.taken + queue.waiting.length
  finished_eq : queue.finished = queue.taken

theorem foldl_finish (queue : EventQueue) (events : List Event) :
    events.foldl (fun queue _ => queue.finish) queue =
      { queue with finished := queue.finished + events.length } := by
  induction events generalizing queue with
  | nil => rfl
  | cons event rest ih =>
    rw [List.foldl_cons, ih, finish, List.length_cons, Nat.add_assoc, Nat.add_comm 1]

namespace Settled

variable {queue : EventQueue} (settled : queue.Settled)

include settled

theorem unfinished_eq : queue.unfinished = queue.waiting.length := by
  have entered := settled.entered_eq
  have finished := settled.finished_eq
  unfold unfinished
  omega

theorem enter (event : Event) : (queue.enter event).Settled where
  entered_eq := by
    simp only [EventQueue.enter, settled.entered_eq, List.length_append, List.length_singleton]
    omega
  finished_eq := settled.finished_eq

theorem batch (size : Nat) :
    ((queue.take size).1.foldl (fun queue _ => queue.finish) (queue.take size).2).Settled := by
  rw [foldl_finish]
  refine ⟨?_, ?_⟩
  · simp only [EventQueue.take, settled.entered_eq, List.length_take, List.length_drop]
    omega
  · simp only [EventQueue.take, settled.finished_eq]

/-- In the middle of a batch, no more events were dealt with than taken. -/
theorem finished_le_taken (size : Nat) {handled : List Event}
    (part : handled <+: (queue.take size).1) :
    let during := handled.foldl (fun queue _ => queue.finish) (queue.take size).2
    during.finished ≤ during.taken := by
  have fewer := part.length_le
  have finished := settled.finished_eq
  rw [foldl_finish]
  simp only [EventQueue.take] at *
  omega

end Settled

end EventQueue

/-! ### Events that wait -/

section Modify

variable {α β : Type} {xs : List α} {i : Nat}

theorem forall_mem_modify {p : α → Prop} {f : α → α} (all : ∀ x ∈ xs, p x)
    (kept : ∀ x, p x → p (f x)) (i : Nat) : ∀ x ∈ xs.modify i f, p x := by
  intro x member
  obtain ⟨j, inside, rfl⟩ := List.getElem_of_mem member
  rw [List.length_modify] at inside
  rw [List.getElem_modify]
  split
  · exact kept _ (all _ (List.getElem_mem inside))
  · exact all _ (List.getElem_mem inside)

theorem flatMap_modify (f : α → List β) (g : α → α) (inside : i < xs.length) :
    ∃ before after, xs.flatMap f = before ++ (f xs[i] ++ after) ∧
      (xs.modify i g).flatMap f = before ++ (f (g xs[i]) ++ after) := by
  refine ⟨(xs.take i).flatMap f, (xs.drop (i + 1)).flatMap f, ?_, ?_⟩
  · rw [← List.flatMap_cons, ← List.flatMap_append, ← List.drop_eq_getElem_cons inside,
      List.take_append_drop]
  · rw [← List.flatMap_cons, ← List.flatMap_append, List.modify_eq_take_cons_drop inside]

end Modify

namespace Service

def waiting (service : Service) : List Event := service.queues.flatMap EventQueue.waiting

theorem waiting_of_drained {service : Service} (drained : service.Drained) :
    service.waiting = [] :=
  List.flatMap_eq_nil_iff.2 drained

theorem waiting_enqueue (assignment : Assignment) {service : Service}
    (workers : 0 < service.queues.length) (event : Event) :
    (service.enqueue assignment event).waiting.Perm (service.waiting ++ [event]) := by
  obtain ⟨before, after, old, new⟩ := flatMap_modify EventQueue.waiting (·.enter event)
    (Nat.mod_lt (assignment (service.registry.effectiveKey event.source)) workers)
  rw [waiting, waiting, enqueue, old, new, EventQueue.enter, List.append_assoc, List.append_assoc]
  refine List.Perm.append_left before ?_
  rw [List.append_assoc]
  exact List.Perm.append_left _ List.perm_append_comm

theorem waiting_publish (assignment : Assignment) {service : Service}
    (workers : 0 < service.queues.length) (events : List Event) :
    (service.publish assignment events).waiting.Perm (service.waiting ++ events) := by
  show (events.foldl (enqueue assignment) service).waiting.Perm _
  induction events generalizing service with
  | nil => exact .of_eq (List.append_nil _).symm
  | cons event rest ih =>
    have kept : 0 < (service.enqueue assignment event).queues.length := by rwa [length_enqueue]
    have first := (waiting_enqueue assignment workers event).append_right rest
    rw [List.append_assoc, List.singleton_append] at first
    exact (ih kept).trans first

/-- A batch is what stops waiting. -/
theorem waiting_workBatch (service : Service) (worker size : Nat) :
    service.waiting.Perm
      (service.batch worker size ++ (service.workBatch worker size).state.waiting) := by
  unfold waiting
  rw [queues_workBatch, batch]
  by_cases valid : worker < service.queues.length
  · obtain ⟨before, after, old, new⟩ := flatMap_modify EventQueue.waiting
      (fun queue => (queue.take size).1.foldl (fun queue _ => queue.finish) (queue.take size).2)
      valid
    rw [old, new, waiting_finish, List.getElem?_eq_getElem valid, Option.map_some,
      Option.getD_some, EventQueue.take]
    have split := List.take_append_drop size service.queues[worker].waiting
    conv_lhs => rw [← split, List.append_assoc]
    exact List.perm_append_comm_assoc ..
  · rw [List.modify_eq_self (not_lt.1 valid), List.getElem?_eq_none (not_lt.1 valid)]
    exact .refl _

/-! ### Emptying the queues -/

def afterSteps (assignment : Assignment) (service : Service) (steps : List Step) : Service :=
  steps.foldl (fun service step => (service.perform assignment step).state) service

theorem afterSteps_append (assignment : Assignment) (service : Service)
    (earlier later : List Step) :
    service.afterSteps assignment (earlier ++ later) =
      (service.afterSteps assignment earlier).afterSteps assignment later :=
  List.foldl_append

theorem result_workBatch (service : Service) (worker size : Nat) :
    (service.workBatch worker size).result = .ok () := by
  unfold workBatch
  cases service.queues[worker]? with
  | none => rfl
  | some queue =>
    have answered : (service.lift (consumeAll service.registry (queue.take size).1)).result =
        .ok _ := Registry.result_consumeAll ..
    simp only [Outcome.andThen_of_ok answered]
    rfl

/-- The outcome of some batches, one after the other. -/
def IsTurns (assignment : Assignment) (service : Service) (outcome : Outcome Service Unit) : Prop :=
  outcome.result = .ok () ∧ ∃ turns : List Step, turns.flatMap Step.published = [] ∧
    outcome.state = service.afterSteps assignment turns

section Turns

variable {assignment : Assignment}

theorem isTurns_done (service : Service) : service.IsTurns assignment (.done service ()) :=
  ⟨rfl, [], rfl, rfl⟩

theorem isTurns_workBatch (service : Service) (worker size : Nat) :
    service.IsTurns assignment (service.workBatch worker size) :=
  ⟨service.result_workBatch worker size, [.work worker size], rfl, rfl⟩

theorem IsTurns.andThen {service : Service} {first : Outcome Service Unit}
    {second : Service → Unit → Outcome Service Unit} (before : service.IsTurns assignment first)
    (after : ∀ service, IsTurns assignment service (second service ())) :
    service.IsTurns assignment (first.andThen second) := by
  obtain ⟨answered, earlier, unpublished, state⟩ := before
  obtain ⟨answered', later, unpublished', state'⟩ := after first.state
  rw [Outcome.andThen_of_ok answered]
  refine ⟨answered', earlier ++ later, ?_, ?_⟩
  · rw [List.flatMap_append, unpublished, unpublished', List.append_nil]
  · rw [state', state, afterSteps_append]

theorem isTurns_drainWorker (worker fuel : Nat) (service : Service) :
    service.IsTurns assignment (drainWorker worker fuel service) := by
  induction fuel generalizing service with
  | zero => exact isTurns_done service
  | succ fuel ih =>
    rw [drainWorker]
    cases service.queues[worker]? with
    | none => exact isTurns_done service
    | some queue =>
      dsimp only
      split
      · exact isTurns_done service
      · exact (isTurns_workBatch service worker batchSize).andThen ih

theorem isTurns_drainWorkers (workers : List Nat) (service : Service) :
    service.IsTurns assignment (service.drainWorkers workers) := by
  induction workers generalizing service with
  | nil => exact isTurns_done service
  | cons worker rest ih => exact (isTurns_drainWorker worker _ service).andThen ih

end Turns

/-- Enough batches of one worker empty its queue and no other. -/
theorem waitingAt_drainWorker {worker fuel : Nat} {service : Service}
    (enough : (service.waitingAt worker).length ≤ fuel) (other : Nat) :
    (drainWorker worker fuel service).state.waitingAt other =
      if worker = other then [] else service.waitingAt other := by
  have idle : ∀ service : Service, service.waitingAt worker = [] →
      service.waitingAt other = if worker = other then [] else service.waitingAt other := by
    intro service empty
    split
    next same => rw [← same, empty]
    next => rfl
  induction fuel generalizing service with
  | zero => exact idle _ (List.eq_nil_of_length_eq_zero (Nat.le_zero.1 enough))
  | succ fuel ih =>
    rw [drainWorker]
    cases there : service.queues[worker]? with
    | none => exact idle _ (waitingAt_of_le (List.getElem?_eq_none_iff.1 there))
    | some queue =>
      have own : service.waitingAt worker = queue.waiting := by rw [waitingAt, there]; rfl
      dsimp only
      split
      next empty => exact idle _ (own.trans (List.isEmpty_iff.1 empty))
      next busy =>
        have some_wait : 0 < (service.waitingAt worker).length := by
          rw [own, List.length_pos_iff]
          exact fun none => busy (List.isEmpty_iff.2 none)
        have fewer :
            ((service.workBatch worker batchSize).state.waitingAt worker).length ≤ fuel := by
          rw [waitingAt_workBatch, if_pos rfl, List.length_drop]
          have positive : 0 < batchSize := by decide
          omega
        rw [Outcome.andThen_of_ok (service.result_workBatch worker batchSize)]
        refine (ih fewer).trans ?_
        rw [waitingAt_workBatch]
        split <;> rfl

theorem waitingAt_drainWorkers (workers : List Nat) (service : Service) (other : Nat) :
    (service.drainWorkers workers).state.waitingAt other =
      if other ∈ workers then [] else service.waitingAt other := by
  induction workers generalizing service with
  | nil => rfl
  | cons worker rest ih =>
    have enough : (service.waitingAt worker).length ≤ service.waitingCount worker := by
      rw [waitingAt, waitingCount]
      cases service.queues[worker]? <;> rfl
    have turns : service.IsTurns (fun _ => 0)
        (drainWorker worker (service.waitingCount worker) service) := isTurns_drainWorker ..
    have answered := turns.1
    rw [drainWorkers, Outcome.andThen_of_ok answered]
    refine (ih _).trans ?_
    rw [waitingAt_drainWorker enough]
    by_cases here : worker = other
    · simp [here]
    · simp [here, Ne.symm here]

/-- Emptying the queues takes some batches, and then nothing waits. -/
theorem drain_spec (assignment : Assignment) (service : Service) :
    service.IsTurns assignment service.drain ∧ service.drain.state.Drained := by
  refine ⟨isTurns_drainWorkers _ service, ?_⟩
  have empty : ∀ worker, service.drain.state.waitingAt worker = [] := by
    intro worker
    rw [drain, waitingAt_drainWorkers]
    split
    · rfl
    next absent => exact waitingAt_of_le (not_lt.1 (mt List.mem_range.2 absent))
  intro queue member
  obtain ⟨worker, inside, rfl⟩ := List.getElem_of_mem member
  have none := empty worker
  rwa [waitingAt, List.getElem?_eq_getElem inside] at none

end Service

/-! ### Runs -/

namespace Totals

/-- The share of a part is shown between zero and one; there is no share of nothing. -/
theorem dropRate_spec {totals : Totals} (nonneg : 0 ≤ totals.dropped)
    (le : totals.dropped ≤ totals.received) :
    ∃ rate, totals.dropRate = .ok rate ∧ (rate = none ↔ totals.received = 0) ∧
      ∀ shown ∈ rate, ∃ share, shown.toRat? = some share ∧ 0 ≤ share ∧ share ≤ 1 := by
  unfold dropRate
  by_cases positive : 0 < totals.received
  · obtain ⟨share, value, low, high⟩ :=
      Binary64.quotient_le (n := 1) nonneg positive (by simpa using le) (by decide)
    have exact : quotient totals.dropped totals.received =
        .ok (Binary64.quotient totals.dropped totals.received) :=
      quotient_eq_ok positive.ne' value
    have rounded := Binary64.roundPlaces_le value low high (by decide) ratePlaces
    rw [Nat.cast_one] at rounded
    rw [if_pos positive, exact]
    refine ⟨_, rfl, ?_, ?_⟩
    · simp [positive.ne']
    · rintro _ ⟨⟩
      exact rounded
  · rw [if_neg positive]
    exact ⟨none, rfl, by simp; omega, by simp⟩

end Totals

namespace Journal

variable {assignment : Assignment} {published : List Event} {journal : Journal}

/-- Some events were published, and each was delivered once or waits. -/
structure Accounts (published : List Event) (journal : Journal) : Prop where
  workers : 0 < journal.service.queues.length
  settled : ∀ queue ∈ journal.service.queues, queue.Settled
  once : (journal.delivered ++ journal.service.waiting).Perm published
  totals_eq : journal.service.totals = journal.tally published.length

theorem service_foldl_next (journal : Journal) (steps : List Service.Step) :
    (steps.foldl (next assignment) journal).service =
      journal.service.afterSteps assignment steps := by
  induction steps generalizing journal with
  | nil => rfl
  | cons step rest ih => exact ih (journal.next assignment step)

theorem service_ofSteps (service : Service) (steps : List Service.Step) :
    (ofSteps assignment service steps).service = service.afterSteps assignment steps :=
  service_foldl_next { service } steps

theorem settled_publish {service : Service} (settled : ∀ queue ∈ service.queues, queue.Settled)
    (events : List Event) :
    ∀ queue ∈ (service.publish assignment events).queues, queue.Settled := by
  show ∀ queue ∈ (events.foldl (Service.enqueue assignment) service).queues, queue.Settled
  induction events generalizing service with
  | nil => exact settled
  | cons event rest ih =>
    exact ih (forall_mem_modify settled (fun _ settled => settled.enter event) _)

theorem Accounts.publish (accounts : journal.Accounts published) (events : List Event) :
    (journal.next assignment (.publish events)).Accounts (published ++ events) where
  workers := accounts.workers.trans_eq (length_queues_next assignment journal _).symm
  settled := settled_publish accounts.settled events
  once := by
    have waiting := journal.service.waiting_publish assignment accounts.workers events
    rw [delivered_publish]
    refine (waiting.append_left _).trans ?_
    rw [← List.append_assoc]
    exact accounts.once.append_right events
  totals_eq := by
    rw [List.length_append]
    exact totals_next_publish accounts.totals_eq events

theorem Accounts.work (accounts : journal.Accounts published) (worker size : Nat) :
    (journal.next assignment (.work worker size)).Accounts published := by
  refine ⟨accounts.workers.trans_eq (length_queues_next ..).symm, ?_, ?_, ?_⟩
  · show ∀ queue ∈ (journal.service.workBatch worker size).state.queues, queue.Settled
    rw [journal.service.queues_workBatch]
    exact forall_mem_modify accounts.settled (fun _ settled => settled.batch size) worker
  · rw [delivered_work, List.append_assoc]
    exact ((journal.service.waiting_workBatch worker size).symm.append_left _).trans accounts.once
  · exact totals_next_work accounts.totals_eq worker size

theorem Accounts.report (accounts : journal.Accounts published) (source : String) :
    (journal.next assignment (.report source)).Accounts published := by
  have same : (journal.next assignment (.report source)).receipts = journal.receipts :=
    List.append_nil _
  have service := service_report assignment journal source
  refine ⟨?_, ?_, ?_, ?_⟩
  · rw [service]
    exact accounts.workers
  · rw [service]
    exact accounts.settled
  · rw [delivered_report, service]
    exact accounts.once
  · rw [tally, same, service]
    exact accounts.totals_eq

theorem Accounts.next (accounts : journal.Accounts published) (step : Service.Step) :
    (journal.next assignment step).Accounts (published ++ step.published) := by
  cases step with
  | publish events => exact accounts.publish events
  | work worker size => exact (List.append_nil published).symm ▸ accounts.work worker size
  | report source => exact (List.append_nil published).symm ▸ accounts.report source

theorem Accounts.foldl_next (accounts : journal.Accounts published) (steps : List Service.Step) :
    (steps.foldl (Journal.next assignment) journal).Accounts
      (published ++ steps.flatMap Service.Step.published) := by
  induction steps generalizing journal published with
  | nil => exact (List.append_nil published).symm ▸ accounts
  | cons step rest ih =>
    rw [List.flatMap_cons, ← List.append_assoc]
    exact ih (accounts.next step)

theorem accounts_begin (registry : Registry) :
    Accounts []
      { service := { registry, queues := List.replicate Service.workers {} } } := by
  refine ⟨Nat.two_pos, ?_, .refl _, rfl⟩
  intro queue member
  rw [List.eq_of_mem_replicate member]
  exact ⟨rfl, rfl⟩

theorem accounts_ofSteps (registry : Registry) (steps : List Service.Step) :
    let service : Service := { registry, queues := List.replicate Service.workers {} }
    (ofSteps assignment service steps).Accounts (steps.flatMap Service.Step.published) :=
  (accounts_begin registry).foldl_next steps

theorem Accounts.length_eq (accounts : journal.Accounts published) :
    journal.receipts.length + journal.service.waiting.length = published.length := by
  rw [← accounts.once.length_eq, List.length_append, delivered, List.length_map]

theorem Accounts.balance (accounts : journal.Accounts published) :
    journal.service.totals.received = journal.service.totals.recorded +
      journal.service.totals.dropped + journal.service.waiting.length := by
  have all := accounts.length_eq
  rw [accounts.totals_eq, tally]
  dsimp only
  omega

/-- Queues that are through with all that entered them have nothing left to deliver. -/
theorem Accounts.drained_of_unfinished (accounts : journal.Accounts published)
    (joined : ∀ queue ∈ journal.service.queues, queue.unfinished = 0) :
    journal.service.Drained := by
  intro queue member
  have count := (accounts.settled queue member).unfinished_eq
  rw [joined queue member] at count
  exact List.eq_nil_of_length_eq_zero (by omega)

theorem Accounts.received_eq (accounts : journal.Accounts published)
    (drained : journal.service.Drained) :
    journal.service.totals.received =
      journal.service.totals.recorded + journal.service.totals.dropped := by
  rw [accounts.balance, Service.waiting_of_drained drained, List.length_nil, Nat.cast_zero,
    Int.add_zero]

theorem Accounts.dropRate (accounts : journal.Accounts published) :
    ∃ rate, journal.service.totals.dropRate = .ok rate ∧
      (rate = none ↔ journal.service.totals.received = 0) ∧
      ∀ shown ∈ rate, ∃ share, shown.toRat? = some share ∧ 0 ≤ share ∧ share ≤ 1 := by
  have all := accounts.length_eq
  have some_of : journal.receipts.countP Receipt.recorded ≤ journal.receipts.length :=
    List.countP_le_length
  apply Totals.dropRate_spec <;> rw [accounts.totals_eq, tally] <;> dsimp only <;> omega

/-- Whatever the registry does with the events and whatever turns the workers take, each published
event is delivered once or waits in a queue, and is counted as what became of it. -/
theorem published_accounted (registry : Registry) (assignment : Assignment)
    (steps : List Service.Step) :
    let service : Service := { registry, queues := List.replicate Service.workers {} }
    let run := ofSteps assignment service steps
    let published := steps.flatMap Service.Step.published
    let totals := run.service.totals
    let emptied := run.service.drain
    (run.delivered ++ run.service.waiting).Perm published ∧
      totals.received = published.length ∧
      totals.recorded = run.receipts.countP Receipt.recorded ∧
      totals.received = totals.recorded + totals.dropped + run.service.waiting.length ∧
      (∀ queue ∈ run.service.queues,
        queue.unfinished = queue.waiting.length ∧ queue.finished = queue.taken ∧
          ∀ size, ∀ handled, handled <+: (queue.take size).1 →
            let during := handled.foldl (fun queue _ => queue.finish) (queue.take size).2
            during.finished ≤ during.taken) ∧
      (∃ rate, totals.dropRate = .ok rate ∧ (rate = none ↔ published = []) ∧
        ∀ shown ∈ rate, ∃ share, shown.toRat? = some share ∧ 0 ≤ share ∧ share ≤ 1) ∧
      ((∀ queue ∈ run.service.queues, queue.unfinished = 0) →
        totals.received = totals.recorded + totals.dropped ∧ run.delivered.Perm published) ∧
      emptied.result = .ok () ∧ emptied.state.Drained ∧
      emptied.state.totals.received = published.length ∧
      emptied.state.totals.received =
        emptied.state.totals.recorded + emptied.state.totals.dropped := by
  intro service run published totals emptied
  have accounts : run.Accounts published := accounts_ofSteps registry steps
  have received : totals.received = published.length := by
    show run.service.totals.received = _
    rw [accounts.totals_eq, tally]
  obtain ⟨rate, answered, shown, share⟩ := accounts.dropRate
  obtain ⟨⟨done, turns, unpublished, state⟩, drained⟩ := Service.drain_spec assignment run.service
  -- the run that goes on with the turns of the workers ends where the queues are empty
  have longer : (ofSteps assignment service (steps ++ turns)).service = emptied.state := by
    rw [service_ofSteps, Service.afterSteps_append, ← service_ofSteps service steps]
    exact state.symm
  have after : (ofSteps assignment service (steps ++ turns)).Accounts published := by
    have all : (ofSteps assignment service (steps ++ turns)).Accounts
        ((steps ++ turns).flatMap Service.Step.published) := accounts_ofSteps registry _
    rwa [List.flatMap_append, unpublished, List.append_nil] at all
  refine ⟨accounts.once, received, ?_, accounts.balance, ?_, ⟨rate, answered, ?_, share⟩, ?_, done,
    drained, ?_, ?_⟩
  · show run.service.totals.recorded = _
    rw [accounts.totals_eq, tally]
  · intro queue member
    have settled := accounts.settled queue member
    refine ⟨settled.unfinished_eq, settled.finished_eq, fun size handled part => ?_⟩
    exact settled.finished_le_taken size part
  · rw [shown, received]
    exact_mod_cast List.length_eq_zero_iff
  · intro joined
    have idle := accounts.drained_of_unfinished joined
    have once := accounts.once
    rw [Service.waiting_of_drained idle, List.append_nil] at once
    exact ⟨accounts.received_eq idle, once⟩
  · rw [← longer, after.totals_eq, tally]
  · rw [← longer]
    exact after.received_eq (longer ▸ drained)

/-- One of four deliveries fails, between publish requests. -/
theorem published_accounted_failure :
    let service : Service :=
      { registry := .create .standard, queues := List.replicate Service.workers {} }
    let assignment : Assignment := fun key => if key = "gate" then 0 else 1
    let first : List Event :=
      [⟨"gate", "a", 253402293600000, false, false⟩, ⟨"gate", "b", 253402300800000, false, false⟩,
        ⟨"pier", "c", 0, false, true⟩]
    let second : List Event := [⟨"pier", "d", 600000, true, true⟩]
    let steps : List Service.Step :=
      [.publish first, .work 0 1, .publish second, .work 1 Service.batchSize, .work 0 1]
    let run := ofSteps assignment service steps
    (∀ queue ∈ run.service.queues, queue.unfinished = 0) ∧
      run.receipts.map Receipt.result =
        [.ok true, .ok true, .ok true, .error (.yearOutOfRange 10000)] ∧
      run.service.totals = ⟨4, 3, 1⟩ ∧ run.delivered.Perm (first ++ second) := by
  intro service assignment first second steps run
  have joined : ∀ queue ∈ run.service.queues, queue.unfinished = 0 := by decide +kernel
  have accounted := published_accounted (.create .standard) assignment steps
  extract_lets published totals emptied at accounted
  obtain ⟨-, -, -, -, -, -, through, -⟩ := accounted
  exact ⟨joined, by decide +kernel, by decide +kernel, (through joined).2⟩

end Journal

end ArrivalRates
