import ArrivalRates.Proofs.Accounting
import ArrivalRates.Proofs.Observation
import ArrivalRates.Service.Http

/-!
# A report comes after what was published before it

A request for a report waits for the queues one after the other, until each has been through with
all that entered it at some moment, and then reports. In the meantime events are published, also
into queues that were waited for, batches are taken and other reports are written. A queue keeps its
order, so what waits in a queue that was waited for came later than the request. Other reports only
add to the number of reports of a tracker, which nothing else depends on, so a tracker is what the
events of its key have made of it, up to that number.
-/

namespace ArrivalRates

/-! ### Trackers that have reported in between -/

namespace Tracker

theorem unaware_consume (event : Event) : Unaware fun tracker => tracker.consume event := by
  have marked : Unaware fun tracker =>
      if event.loggerStarting then tracker.markLoggerStarting event.arrival
      else .done tracker () := by
    cases event.loggerStarting with
    | false => exact unaware_done ()
    | true => exact unaware_markLoggerStarting event.arrival
  exact marked.andThen fun _ => unaware_deliver event.toArrival

theorem afterEvents_shifted (tracker : Tracker) (reports gaps : Nat) (events : List Event) :
    afterEvents consume (tracker.shifted reports gaps) events =
      (afterEvents consume tracker events).shifted reports gaps := by
  induction events generalizing tracker with
  | nil => rfl
  | cons event rest ih =>
    have step := congrArg Outcome.state (unaware_consume event reports gaps tracker)
    simp only [afterEvents, List.foldl_cons] at ih step ⊢
    rw [step]
    exact ih (tracker.consume event).state

theorem lines_report_shifted (tracker : Tracker) (reports gaps : Nat) (stamp : Option String) :
    ((tracker.shifted reports gaps).report stamp).lines = (tracker.report stamp).lines := by
  have same : (tracker.shifted reports gaps).report stamp =
      (tracker.report stamp).mapState (shifted reports gaps) :=
    unaware_report stamp reports gaps tracker
  rw [same]
  rfl

end Tracker

/-- What the events of a key have made of its tracker. -/
def Config.trackerAfter (config : Config) (key : String) (events : List Event) : Tracker :=
  afterEvents Tracker.consume (.fresh key config) (config.eventsOf key events)

namespace Registry

variable {config : Config} {states : String → Tracker} {registry : Registry} {events : List Event}

/-- The trackers of a registry are what some events have made of them, up to the numbers of their
reports. -/
def Consumed (config : Config) (events : List Event) (registry : Registry) : Prop :=
  ∃ states, registry.Holds config states ∧
    (∀ key, ∃ reports, states key = (config.trackerAfter key events).shifted reports 0) ∧
    ∀ key, key ∈ registry.keys ↔ config.eventsOf key events ≠ []

theorem consumed_create (config : Config) : (create config).Consumed config [] :=
  ⟨_, holds_create config, fun _ => ⟨0, rfl⟩, fun _ => by simp [keys, create, Config.eventsOf]⟩

theorem Consumed.effectiveKey_eq (consumed : registry.Consumed config events) (source : String) :
    registry.effectiveKey source = config.keyOf source := by
  obtain ⟨states, holds, -⟩ := consumed
  exact holds.effectiveKey_eq source

theorem Consumed.consumeAll (consumed : registry.Consumed config events)
    (accepted : config.Accepted) (batch : List Event) :
    (Service.consumeAll registry batch).state.Consumed config (events ++ batch) := by
  obtain ⟨states, holds, same, keys⟩ := consumed
  obtain ⟨after, known⟩ := holds.consumed accepted batch
  rw [(registry.consumeAll_eq batch).1]
  refine ⟨_, after, fun key => ?_, fun key => ?_⟩
  · obtain ⟨reports, state⟩ := same key
    refine ⟨reports, ?_⟩
    rw [state, Tracker.afterEvents_shifted, Config.trackerAfter, Config.trackerAfter,
      config.eventsOf_append, afterEvents_append]
  · rw [known, keys, config.eventsOf_append, ← not_and_or, ← List.append_eq_nil_iff]

theorem Consumed.requestReport (consumed : registry.Consumed config events)
    (accepted : config.Accepted) (source : String) :
    (registry.requestReport source).state.Consumed config events := by
  obtain ⟨states, holds, same, keys⟩ := consumed
  obtain ⟨state, -⟩ := holds.requestReport_eq accepted source
  have known : registry.asked config source ⊆ registry.keys :=
    fun key member => (List.mem_filter.1 member).1
  have nodup : (registry.asked config source).Nodup := holds.nodup.filter _
  obtain ⟨reached, -, after, kept, -⟩ := holds.reportEach accepted nodup known
  rw [state]
  refine ⟨_, after, fun key => ?_, fun key => by rw [kept, keys]⟩
  obtain ⟨reports, before⟩ := same key
  obtain ⟨more, later⟩ := (states key).state_report none
  by_cases here : key ∈ reached
  · exact ⟨reports + more, by rw [if_pos here, later, before, Tracker.shifted_shifted]⟩
  · exact ⟨reports, by rw [if_neg here, before]⟩

/-- A report out of schedule writes what the trackers it addresses show, up to one that fails. -/
theorem Consumed.lines_requestReport (consumed : registry.Consumed config events)
    (accepted : config.Accepted) (source : String) :
    let outcome := registry.requestReport source
    let lines := (registry.asked config source).flatMap fun key =>
      ((config.trackerAfter key events).report none).lines
    outcome.lines <+: lines ∧ ∀ count, outcome.result = .ok count → outcome.lines = lines := by
  obtain ⟨states, holds, same, -⟩ := consumed
  obtain ⟨-, lines, count, result, -⟩ := holds.requestReport_eq accepted source
  obtain ⟨part, whole⟩ := registry.reportEach_written
    ((registry.asked config source).map states)
  have shown : ((registry.asked config source).map states).flatMap
      (fun tracker => (tracker.report none).lines) =
        (registry.asked config source).flatMap fun key =>
          ((config.trackerAfter key events).report none).lines := by
    rw [List.flatMap_map]
    refine List.flatMap_congr fun key _ => ?_
    obtain ⟨reports, state⟩ := same key
    rw [state, Tracker.lines_report_shifted]
  rw [shown] at part whole
  refine ⟨lines ▸ part, fun answer fine => ?_⟩
  rw [lines]
  obtain ⟨⟨⟩, done, -⟩ := Outcome.mapResult_eq_ok.1 (result.symm.trans fine)
  exact (whole done).1

end Registry

/-! ### Runs with reports in between -/

namespace Journal

variable {config : Config} {assignment : Assignment} {published : List Event} {journal : Journal}
  {service : Service}

theorem InOrder.report (ordered : journal.InOrder config assignment published) (source : String) :
    (journal.next assignment (.report source)).InOrder config assignment published := by
  have service := service_report assignment journal source
  refine ⟨?_, ?_, ?_⟩
  · exact (length_queues_next ..).trans ordered.workers_eq
  · rw [service]
    exact ordered.routed
  · rw [service, delivered_report]
    exact ordered.in_order

/-- Some events were published: they are delivered in the order of their keys, none is lost, and the
trackers are what those that were delivered have made of them. -/
structure Orderly (config : Config) (assignment : Assignment) (published : List Event)
    (journal : Journal) : Prop where
  ordered : journal.InOrder config assignment published
  accounts : journal.Accounts published
  consumed : journal.service.registry.Consumed config journal.delivered

theorem orderly_begin (config : Config) (assignment : Assignment) :
    Orderly config assignment []
      { service :=
          { registry := .create config, queues := List.replicate Service.workers {} } } where
  ordered := inOrder_begin config assignment
  accounts := accounts_begin _
  consumed := Registry.consumed_create config

theorem Orderly.next (orderly : journal.Orderly config assignment published)
    (accepted : config.Accepted) (step : Service.Step) :
    (journal.next assignment step).Orderly config assignment (published ++ step.published) := by
  have accounts : (journal.next assignment step).Accounts (published ++ step.published) :=
    orderly.accounts.next step
  cases step with
  | publish events =>
    refine ⟨orderly.ordered.publish orderly.consumed.effectiveKey_eq events, accounts, ?_⟩
    rw [delivered_publish]
    exact (journal.service.publish_spec assignment events).1 ▸ orderly.consumed
  | work worker size =>
    have none : (Service.Step.work worker size).published = [] := rfl
    rw [none, List.append_nil] at accounts ⊢
    refine ⟨orderly.ordered.work worker size, accounts, ?_⟩
    rw [delivered_work]
    exact (journal.service.workBatch_spec worker size).1 ▸ orderly.consumed.consumeAll accepted _
  | report source =>
    have none : (Service.Step.report source).published = [] := rfl
    rw [none, List.append_nil] at accounts ⊢
    refine ⟨orderly.ordered.report source, accounts, ?_⟩
    rw [delivered_report, service_report]
    exact orderly.consumed.requestReport accepted source

theorem length_queues_foldl (assignment : Assignment) (journal : Journal)
    (steps : List Service.Step) :
    (steps.foldl (next assignment) journal).service.queues.length =
      journal.service.queues.length := by
  induction steps generalizing journal with
  | nil => rfl
  | cons step rest ih => exact (ih _).trans (length_queues_next ..)

theorem delivered_prefix_next (journal : Journal) (step : Service.Step) :
    journal.delivered <+: (journal.next assignment step).delivered := by
  rw [delivered, delivered, next, List.map_append]
  exact List.prefix_append ..

theorem orderly_ofSteps (wide : 1 ≤ config.slots) (created : Service.create config = .ok service)
    (assignment : Assignment) (steps : List Service.Step) :
    (ofSteps assignment service steps).Orderly config assignment
      (steps.flatMap Service.Step.published) := by
  obtain ⟨layout, rfl⟩ := Service.create_eq created
  induction steps using List.reverseRecOn with
  | nil => exact orderly_begin config assignment
  | append_singleton steps step ih =>
    rw [ofSteps, List.foldl_concat, List.flatMap_append, List.flatMap_singleton]
    exact ih.next ⟨wide, layout⟩ step

end Journal

/-! ### Waiting for the queues -/

/-- A request waits for some queues, one after the other: it goes on to the next one after a moment
at which all that had entered a queue was dealt with. Anything else may happen in between, and
before the request itself goes on. -/
inductive Joins (assignment : Assignment) : List Nat → Journal → Journal → Prop where
  | reached (journal : Journal) : Joins assignment [] journal journal
  | meanwhile {workers : List Nat} {journal final : Journal} (step : Service.Step)
      (rest : Joins assignment workers (journal.next assignment step) final) :
      Joins assignment workers journal final
  | joined {worker : Nat} {workers : List Nat} {journal final : Journal}
      (through : (journal.service.queues[worker]?).map EventQueue.unfinished = some 0)
      (rest : Joins assignment workers journal final) :
      Joins assignment (worker :: workers) journal final

namespace Joins

variable {config : Config} {assignment : Assignment} {service : Service} {workers : List Nat}
  {journal final : Journal} {earlier : List Event}

/-- While a request waits, all that was published before it and goes to a queue that was waited for
has been delivered. -/
theorem delivers (joins : Joins assignment workers journal final) (accepted : config.Accepted)
    {later : List Event} (orderly : journal.Orderly config assignment (earlier ++ later))
    (seen : ∀ key, assignment key % Service.workers ∉ workers →
      config.eventsOf key earlier <+: config.eventsOf key journal.delivered) :
    (∃ later, final.Orderly config assignment (earlier ++ later)) ∧
      ∀ key, config.eventsOf key earlier <+: config.eventsOf key final.delivered := by
  -- what was delivered stays so, hence a queue that was waited for need not be looked at again
  induction joins generalizing later with
  | reached journal => exact ⟨⟨later, orderly⟩, fun key => seen key List.not_mem_nil⟩
  | @meanwhile workers journal final step rest ih =>
    have after := orderly.next accepted step
    rw [List.append_assoc] at after
    refine ih after fun key joined => (seen key joined).trans ?_
    exact (journal.delivered_prefix_next step).filter _
  | @joined worker workers journal final through rest ih =>
    obtain ⟨queue, there, through⟩ := Option.map_eq_some_iff.1 through
    refine ih orderly fun key waited => ?_
    by_cases here : assignment key % Service.workers = worker
    · -- nothing waits in the queue of this key, so all of its events were delivered
      have count := (orderly.accounts.settled queue (List.mem_of_getElem? there)).unfinished_eq
      have none : queue.waiting = [] := List.eq_nil_of_length_eq_zero (by omega)
      have empty : journal.service.waitingAt worker = [] := by
        rw [Service.waitingAt, there]
        exact none
      have all := orderly.ordered.in_order key
      rw [here, empty, config.eventsOf_append] at all
      exact ⟨config.eventsOf key later, all.symm.trans (List.append_nil _)⟩
    · exact seen key fun member => (List.mem_cons.1 member).elim here waited

theorem of_drained (drained : journal.service.Drained)
    (settled : ∀ queue ∈ journal.service.queues, queue.Settled)
    (valid : ∀ worker ∈ workers, worker < journal.service.queues.length) :
    Joins assignment workers journal journal := by
  induction workers with
  | nil => exact .reached journal
  | cons worker rest ih =>
    obtain ⟨inside, others⟩ := List.forall_mem_cons.1 valid
    have member := List.getElem_mem inside
    refine .joined ?_ (ih others)
    rw [List.getElem?_eq_getElem inside, Option.map_some, (settled _ member).unfinished_eq,
      drained _ member]
    rfl

theorem meanwhile_foldl (turns : List Service.Step)
    (rest : Joins assignment workers (turns.foldl (Journal.next assignment) journal) final) :
    Joins assignment workers journal final := by
  induction turns generalizing journal with
  | nil => exact rest
  | cons step later ih => exact .meanwhile step (ih rest)

/-- Emptying the queues is one way of waiting for them. -/
theorem drain (accounts : journal.Accounts earlier) (assignment : Assignment) :
    ∃ final, Joins assignment (List.range journal.service.queues.length) journal final ∧
      final.service = journal.service.drain.state := by
  obtain ⟨⟨-, turns, -, state⟩, drained⟩ := Service.drain_spec assignment journal.service
  have service := (Journal.service_foldl_next journal turns).trans state.symm
  refine ⟨_, meanwhile_foldl turns (of_drained (service ▸ drained) ?_ ?_), service⟩
  · exact (accounts.foldl_next turns).settled
  · intro worker member
    rw [Journal.length_queues_foldl]
    exact List.mem_range.1 member

end Joins

/-! ### The answer -/

namespace Service

/-- A report is always answered: with what the trackers it addresses show, or with a refusal if it
is for one source that has no tracker. -/
theorem answerReport_spec {config : Config} {events : List Event} {service : Service}
    (consumed : service.registry.Consumed config events) (accepted : config.Accepted)
    (source : String) :
    let outcome := service.answerReport source
    let lines := (service.registry.asked config source).flatMap fun key =>
      ((config.trackerAfter key events).report none).lines
    outcome.lines <+: lines ∧
      ∃ reply, outcome.result = .ok reply ∧ (reply.code = 200 → outcome.lines = lines) ∧
        (reply.code = 404 ↔
          source ≠ everySource ∧ service.registry.findKey? (config.keyOf source) = none) := by
  have refusal : (source ≠ everySource ∧ (service.registry.get? source).isNone = true) ↔
      source ≠ everySource ∧ service.registry.findKey? (config.keyOf source) = none := by
    rw [Registry.get?, consumed.effectiveKey_eq, Option.isNone_iff_eq_none]
  obtain ⟨part, whole⟩ := consumed.lines_requestReport accepted source
  unfold answerReport
  split
  next refused =>
    refine ⟨List.nil_prefix, _, rfl, fun code => absurd code (by simp [Reply.code]), ?_⟩
    exact ⟨fun _ => refusal.1 refused, fun _ => rfl⟩
  next known =>
    have tracked := mt refusal.2 known
    dsimp only
    split
    next count answered =>
      refine ⟨part, _, rfl, fun _ => whole count answered, ?_⟩
      exact ⟨fun code => absurd code (by simp [Reply.code]), fun refused => absurd refused tracked⟩
    next failure answered =>
      refine ⟨part, _, rfl, fun code => absurd code (by simp [Reply.code]), ?_⟩
      exact ⟨fun code => absurd code (by simp [Reply.code]), fun refused => absurd refused tracked⟩

/-- Without anything in between, a request waits until the queues are empty and is answered then. -/
theorem handleReport_joins {published : List Event} {journal : Journal}
    (accounts : journal.Accounts published) (assignment : Assignment) {request : Request}
    {source : String} (asked : decodeSource request = .ok source) :
    ∃ final, Joins assignment (List.range journal.service.queues.length) journal final ∧
      journal.service.handleReport request =
        ⟨(final.service.answerReport source).state, (final.service.answerReport source).result,
          journal.service.drain.entries ++ (final.service.answerReport source).entries⟩ := by
  obtain ⟨final, joins, service⟩ := Joins.drain accounts assignment
  obtain ⟨⟨done, -⟩, -⟩ := drain_spec assignment journal.service
  refine ⟨final, joins, ?_⟩
  rw [handleReport, asked, service]
  exact Outcome.andThen_of_ok done _

end Service

namespace Journal

variable {config : Config} {service : Service} {final : Journal}

/-- A report that waited for the queues is made from trackers that have gone through every event
published before the request, in the order of publication, whatever was published, delivered and
reported in the meantime. It is refused exactly if the source has no tracker at that time. A request
that is handled by itself waits and is answered like that. -/
theorem report_after_published (wide : 1 ≤ config.slots)
    (created : Service.create config = .ok service) (assignment : Assignment)
    (steps : List Service.Step)
    (joins : Joins assignment (List.range (ofSteps assignment service steps).service.queues.length)
      (ofSteps assignment service steps) final) (source : String) :
    let published := steps.flatMap Service.Step.published
    let registry := final.service.registry
    let outcome := final.service.answerReport source
    let lines := (registry.asked config source).flatMap fun key =>
      ((config.trackerAfter key final.delivered).report none).lines
    (∀ key, config.eventsOf key published <+: config.eventsOf key final.delivered) ∧
      (∀ key, (registry.findKey? key = none ↔ config.eventsOf key final.delivered = []) ∧
        ∀ tracker, registry.findKey? key = some tracker →
          ∃ reports, tracker = (config.trackerAfter key final.delivered).shifted reports 0) ∧
      outcome.lines <+: lines ∧
      (∃ reply, outcome.result = .ok reply ∧ (reply.code = 200 → outcome.lines = lines) ∧
        (reply.code = 404 ↔
          source ≠ everySource ∧ registry.findKey? (config.keyOf source) = none)) ∧
      ∀ request, Service.decodeSource request = .ok source →
        let run := ofSteps assignment service steps
        ∃ final, Joins assignment (List.range run.service.queues.length) run final ∧
          run.service.handleReport request =
            ⟨(final.service.answerReport source).state,
              (final.service.answerReport source).result,
              run.service.drain.entries ++ (final.service.answerReport source).entries⟩ := by
  intro published registry outcome lines
  have accepted : config.Accepted := ⟨wide, (Service.create_eq created).1⟩
  have orderly := orderly_ofSteps wide created assignment steps
  have start : (ofSteps assignment service steps).Orderly config assignment (published ++ []) :=
    (List.append_nil published).symm ▸ orderly
  obtain ⟨⟨later, after⟩, seen⟩ := joins.delivers accepted start fun key absent => by
    rw [orderly.ordered.workers_eq, List.mem_range] at absent
    exact absurd (Nat.mod_lt _ (by decide)) absent
  obtain ⟨shown, answered⟩ := Service.answerReport_spec after.consumed accepted source
  refine ⟨seen, fun key => ?_, shown, answered, fun request asked =>
    Service.handleReport_joins orderly.accounts assignment asked⟩
  obtain ⟨states, holds, same, keys⟩ := after.consumed
  have found : registry.findKey? key = if key ∈ registry.keys then some (states key) else none :=
    holds.findKey?_eq accepted key
  have known : key ∈ registry.keys ↔ config.eventsOf key final.delivered ≠ [] := keys key
  rw [found]
  constructor
  · rw [← not_iff_not, ← ne_eq, ← ne_eq, ← known]
    simp
  · intro tracker there
    split at there
    · exact Option.some.inj there ▸ same key
    · cases there

/-- Between the two queues, an event is published into the one that was waited for, and a report of
another request is written. -/
theorem report_after_published_between :
    let service : Service :=
      { registry := .create .standard, queues := List.replicate Service.workers {} }
    let assignment : Assignment := fun key => if key = "gate" then 0 else 1
    let first : List Event :=
      [⟨"gate", "a", 0, false, false⟩, ⟨"pier", "b", 0, false, true⟩]
    let second : List Event := [⟨"gate", "c", 600000, false, false⟩]
    let run := ofSteps assignment service [.publish first]
    let between : List Service.Step :=
      [.publish second, .report everySource, .work 1 Service.batchSize]
    let final := between.foldl (next assignment) (run.next assignment (.work 0 1))
    1 ≤ Config.standard.slots ∧ Service.create .standard = .ok service ∧
      Joins assignment (List.range run.service.queues.length) run final ∧
      final.delivered.map Event.messageId = ["a", "b"] ∧ final.service.waiting = second ∧
      (∀ key, Config.standard.eventsOf key first <+:
        Config.standard.eventsOf key final.delivered) ∧
      (final.service.answerReport "gate").lines =
        ((Config.standard.trackerAfter "gate" final.delivered).report none).lines ∧
      ∃ reply, (final.service.answerReport "west").result = .ok reply ∧ reply.code = 404 := by
  intro service assignment first second run between final
  have wide : 1 ≤ Config.standard.slots := by decide
  have created : Service.create .standard = .ok service := rfl
  have joins : Joins assignment (List.range run.service.queues.length) run final :=
    .meanwhile (.work 0 1) <| .joined (by decide +kernel) <| .meanwhile_foldl between <|
      .joined (by decide +kernel) <| .reached final
  obtain ⟨seen, -, -, ⟨reply, answered, whole, -⟩, -⟩ :=
    report_after_published wide created assignment [.publish first] joins "gate"
  obtain ⟨-, -, -, ⟨refusal, refused, -, missing⟩, -⟩ :=
    report_after_published wide created assignment [.publish first] joins "west"
  have fine : (final.service.answerReport "gate").result.map Reply.code = .ok 200 := by
    decide +kernel
  have asked : final.service.registry.asked Config.standard "gate" = ["gate"] := by
    decide +kernel
  refine ⟨wide, created, joins, by decide +kernel, by decide +kernel, fun key => ?_, ?_, ?_⟩
  · have published : [Service.Step.publish first].flatMap Service.Step.published = first :=
      List.flatMap_singleton ..
    exact published ▸ seen key
  · rw [answered] at fine
    rw [whole (Except.ok.inj fine), asked, List.flatMap_singleton]
  · exact ⟨refusal, refused, missing.2 ⟨by decide, by decide +kernel⟩⟩

end Journal

end ArrivalRates
