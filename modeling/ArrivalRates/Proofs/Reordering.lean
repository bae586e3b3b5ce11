import ArrivalRates.Proofs.Observation
import ArrivalRates.Proofs.Written

/-!
# Arrivals inside a window come in any order

Arrivals that lie in the current window and whose ids find room there are all recorded, in whatever
order they come. Each order leaves the same counters, listed one way or another, and the same
highest bucket. No call reads the order of the counters: a call on one list and on a permutation of
it comes out the same and leaves lists that are permutations again. What is left of the order is the
last arrival, and the next one takes its place.
-/

namespace ArrivalRates

/-! ### The tally of arrivals in another order -/

namespace Arrivals

variable {arrivals order earlier batch : List Arrival}

/-- All arrivals of one id are of one kind. -/
def Uniform (arrivals : List Arrival) : Prop :=
  ∀ first ∈ arrivals, ∀ second ∈ arrivals,
    first.messageId = second.messageId → first.secondary = second.secondary

theorem ids_perm (perm : order.Perm arrivals) : (ids order).Perm (ids arrivals) := by
  rw [List.perm_ext_iff_of_nodup (nodup_ids _) (nodup_ids _)]
  intro messageId
  simp only [mem_ids, perm.mem_iff]

theorem cell_perm (perm : order.Perm arrivals) (messageId : String) (start : Int) :
    cell order messageId start = cell arrivals messageId start := by
  have inside : (within start (start + bucketMillis) order).Perm
      (within start (start + bucketMillis) arrivals) := perm.filter _
  rw [cell, cell, inside.countP_eq]

theorem isSecondary_of_mem (uniform : Uniform arrivals) {arrival : Arrival}
    (member : arrival ∈ arrivals) :
    isSecondary arrivals arrival.messageId = arrival.secondary := by
  rw [isSecondary]
  cases found : arrivals.find? fun other => other.messageId = arrival.messageId with
  | none => simpa using List.find?_eq_none.1 found arrival member
  | some first =>
    have same : first.messageId = arrival.messageId := by simpa using List.find?_some found
    exact uniform first (List.mem_of_find?_eq_some found) arrival member same

theorem isSecondary_of_not_mem {messageId : String} (absent : messageId ∉ ids arrivals) :
    isSecondary arrivals messageId = false := by
  have none : arrivals.find? (fun arrival => arrival.messageId = messageId) = none := by
    rw [List.find?_eq_none]
    intro other member same
    exact absent (mem_ids.2 ⟨other, member, by simpa using same⟩)
  rw [isSecondary, none]
  rfl

theorem isSecondary_perm (uniform : Uniform arrivals) (perm : order.Perm arrivals)
    (messageId : String) : isSecondary order messageId = isSecondary arrivals messageId := by
  by_cases known : messageId ∈ ids arrivals
  · obtain ⟨arrival, member, rfl⟩ := mem_ids.1 known
    have uniform' : Uniform order := fun first here second there =>
      uniform first (perm.mem_iff.1 here) second (perm.mem_iff.1 there)
    rw [isSecondary_of_mem uniform member, isSecondary_of_mem uniform' (perm.mem_iff.2 member)]
  · have known' : messageId ∉ ids order := fun here => known ((ids_perm perm).mem_iff.1 here)
    rw [isSecondary_of_not_mem known, isSecondary_of_not_mem known']

/-- After the same arrivals, others that agree on the kinds of new ids can come in any order. -/
theorem tally_perm (slots start : Int) (earlier : List Arrival) (uniform : Uniform batch)
    (perm : order.Perm batch) :
    (tally slots start (earlier ++ order)).Perm (tally slots start (earlier ++ batch)) := by
  have whole : (earlier ++ order).Perm (earlier ++ batch) := perm.append_left earlier
  have same : counter slots start (earlier ++ order) = counter slots start (earlier ++ batch) := by
    funext messageId
    simp only [counter, isSecondary_append, isSecondary_perm uniform perm, cell_perm whole]
  rw [tally, tally, same]
  exact (ids_perm whole).map _

theorem map_messageId_tally (slots start : Int) (arrivals : List Arrival) :
    (tally slots start arrivals).map (·.messageId) = ids arrivals := by
  rw [tally, List.map_map]
  exact List.map_id _

/-- If all ids have room, so has that of the arrival that comes next. -/
theorem room_for_head {arrival : Arrival} {room : Int}
    (fits : ((ids (earlier ++ arrival :: batch)).length : Int) ≤ room) :
    arrival.messageId ∈ ids earlier ∨ (ids earlier).length < room := by
  refine or_iff_not_imp_left.2 fun new => ?_
  have subset : ids (earlier ++ [arrival]) ⊆ ids (earlier ++ arrival :: batch) := by
    intro messageId member
    obtain ⟨other, here, same⟩ := mem_ids.1 member
    rw [List.append_cons]
    exact mem_ids.2 ⟨other, List.mem_append_left _ here, same⟩
  have grown := (List.subperm_of_subset (nodup_ids _) subset).length_le
  rw [ids_concat, if_neg new, List.length_append, List.length_singleton] at grown
  omega

end Arrivals

/-! ### Windows whose counters are listed in another order -/

namespace Window

variable {window : Window} {counters : List Counter}

def reorder (counters : List Counter) (window : Window) : Window := { window with counters }

theorem counter?_eq_some_iff (nodup : (window.counters.map (·.messageId)).Nodup)
    {messageId : String} {counter : Counter} :
    window.counter? messageId = some counter ↔
      counter ∈ window.counters ∧ counter.messageId = messageId := by
  constructor
  · intro found
    exact ⟨List.mem_of_find?_eq_some found, by simpa using List.find?_some found⟩
  · rintro ⟨member, rfl⟩
    cases found : window.counter? counter.messageId with
    | none => simpa using List.find?_eq_none.1 found counter member
    | some other =>
      have same : other.messageId = counter.messageId := by simpa using List.find?_some found
      rw [List.inj_on_of_nodup_map nodup (List.mem_of_find?_eq_some found) member same]

def reach (index : Int) (window : Window) : Window :=
  { window with currentIndex := max window.currentIndex index }

def countAt (window : Window) (messageId : String) (index : Int) (secondary : Bool) :
    Window × Except Failure Bool :=
  match window.counterFor messageId secondary with
  | none => (window, .ok false)
  | some counter =>
    match counter.add index with
    | .error failure => (window.putCounter counter, .error failure)
    | .ok counter => (window.putCounter counter, .ok true)

theorem record_eq (window : Window) (messageId : String) (arrival : Int) (secondary : Bool) :
    window.record messageId arrival secondary =
      match window.span with
      | none => (window, .error .windowNotOpen)
      | some span =>
        match floorDiv (arrival - span.start) window.bucket with
        | .error failure => (window, .error failure)
        | .ok index =>
          if arrival < span.start then (window.reach index, .ok false)
          else (window.reach index).countAt messageId index secondary :=
  rfl

/-- The same answer and the same window, but for the order of its counters. -/
def Mirrors (one other : Window × Except Failure Bool) : Prop :=
  ∃ counters : List Counter, counters.Perm one.1.counters ∧
    other = (one.1.reorder counters, one.2)

variable (nodup : (window.counters.map (·.messageId)).Nodup) (perm : counters.Perm window.counters)

include nodup perm

theorem counter?_reorder (messageId : String) :
    (window.reorder counters).counter? messageId = window.counter? messageId := by
  have nodup' : ((window.reorder counters).counters.map (·.messageId)).Nodup :=
    (perm.map _).nodup_iff.2 nodup
  ext counter
  rw [counter?_eq_some_iff nodup, counter?_eq_some_iff nodup', reorder, perm.mem_iff]

theorem counterFor_reorder (messageId : String) (secondary : Bool) :
    (window.reorder counters).counterFor messageId secondary =
      window.counterFor messageId secondary := by
  have length : (window.reorder counters).counters.length = window.counters.length :=
    perm.length_eq
  rw [counterFor, counterFor, counter?_reorder nodup perm, length]
  rfl

theorem putCounter_reorder (counter : Counter) :
    ∃ after : List Counter, after.Perm (window.putCounter counter).counters ∧
      (window.reorder counters).putCounter counter =
        (window.putCounter counter).reorder after := by
  rw [putCounter, putCounter, counter?_reorder nodup perm]
  split
  · exact ⟨_, perm.map _, rfl⟩
  · exact ⟨_, perm.append_right _, rfl⟩

theorem countAt_reorder (messageId : String) (index : Int) (secondary : Bool) :
    Mirrors (window.countAt messageId index secondary)
      ((window.reorder counters).countAt messageId index secondary) := by
  have put : ∀ counter (answer : Except Failure Bool),
      Mirrors (window.putCounter counter, answer)
        ((window.reorder counters).putCounter counter, answer) := by
    intro counter answer
    obtain ⟨after, permuted, same⟩ := putCounter_reorder nodup perm counter
    exact ⟨after, permuted, by rw [same]⟩
  unfold countAt
  rw [counterFor_reorder nodup perm]
  cases window.counterFor messageId secondary with
  | none => exact ⟨counters, perm, rfl⟩
  | some counter =>
    dsimp only
    cases counter.add index with
    | error failure => exact put counter _
    | ok counter => exact put counter _

theorem record_reorder (messageId : String) (arrival : Int) (secondary : Bool) :
    Mirrors (window.record messageId arrival secondary)
      ((window.reorder counters).record messageId arrival secondary) := by
  have same : (window.reorder counters).span = window.span ∧
      (window.reorder counters).bucket = window.bucket := ⟨rfl, rfl⟩
  rw [record_eq, record_eq, same.1, same.2]
  cases window.span with
  | none => exact ⟨counters, perm, rfl⟩
  | some span =>
    dsimp only
    cases floorDiv (arrival - span.start) window.bucket with
    | error failure => exact ⟨counters, perm, rfl⟩
    | ok index =>
      dsimp only
      split
      · exact ⟨counters, perm, rfl⟩
      · have nodup' : ((window.reach index).counters.map (·.messageId)).Nodup := nodup
        exact countAt_reorder nodup' perm messageId index secondary

end Window

/-! ### Trackers whose counters are listed in another order -/

theorem Rollup.ofCounters_perm {counters order : List Counter} (perm : order.Perm counters)
    (size : Int) (n : Nat) : ofCounters size n order = ofCounters size n counters := by
  have unique : ∀ kind, uniqueAt order kind size = uniqueAt counters kind size := by
    intro kind
    funext i
    rw [uniqueAt, uniqueAt, perm.countP_eq]
  have total : ∀ kind, totalAt order kind size = totalAt counters kind size := by
    intro kind
    funext i
    exact ((perm.filter _).map _).sum_eq
  simp only [ofCounters, unique, total]

namespace Tracker

variable {source : String} {config : Config} {recorded : List Arrival} {closed : List Int}
  {tracker other : Tracker} {counters : List Counter}

def reorder (counters : List Counter) (tracker : Tracker) : Tracker :=
  { tracker with window := tracker.window.reorder counters }

/-- The other tracker is the same, but for the order of its counters. -/
def Reordered (tracker other : Tracker) : Prop :=
  ∃ counters : List Counter, counters.Perm tracker.window.counters ∧
    other = tracker.reorder counters

/-- The same result and the same entries, and the same state but for the order of its counters. -/
structure Mirrors (one other : Outcome Tracker α) : Prop where
  result_eq : other.result = one.result
  entries_eq : other.entries = one.entries
  state : one.state.Reordered other.state

theorem Reordered.refl (tracker : Tracker) : tracker.Reordered tracker := ⟨_, .refl _, rfl⟩

theorem Tallies.nodup_counters (tallies : Tallies source config recorded closed tracker) :
    (tracker.window.counters.map (·.messageId)).Nodup := by
  cases placed : tracker.window.span with
  | none =>
    rw [(tallies.inactive placed).2.2]
    exact List.nodup_nil
  | some span =>
    rw [(tallies.current span placed).counters_eq, Arrivals.map_messageId_tally]
    exact Arrivals.nodup_ids _

theorem WellPlaced.reorder (sound : tracker.WellPlaced)
    (perm : counters.Perm tracker.window.counters) : (tracker.reorder counters).WellPlaced :=
  { sound with wide := fun counter member => sound.wide counter (perm.mem_iff.1 member) }

theorem rolledTo_reorder (perm : counters.Perm tracker.window.counters) (moment : Int) :
    (tracker.reorder counters).rolledTo moment = tracker.rolledTo moment := by
  simp only [rolledTo, reorder, Window.reorder, Rollup.ofCounters_perm perm, Window.length]

/-- Bringing a tracker to an arrival either leaves it alone or loses the order of its counters. -/
theorem Tallies.advance_reorder (tallies : Tallies source config recorded closed tracker)
    (accepted : config.Accepted) (perm : counters.Perm tracker.window.counters) (moment : Int) :
    (tracker.reorder counters).advance moment = tracker.advance moment ∨
      tracker.advance moment = .done tracker () ∧
        (tracker.reorder counters).advance moment = .done (tracker.reorder counters) () := by
  cases placed : tracker.window.span with
  | none =>
    have none : counters = tracker.window.counters := by
      have empty := (tallies.inactive placed).2.2
      rw [empty] at perm
      rw [empty, List.perm_nil.1 perm]
    exact .inl (none ▸ rfl)
  | some span =>
    have placed' : (tracker.reorder counters).window.span = some span := placed
    by_cases before : moment < span.stop
    · exact .inr ⟨by simp only [Tracker.advance, placed, if_pos before],
        by simp only [Tracker.advance, placed', if_pos before]⟩
    · have sound := tallies.wellPlaced accepted
      rw [advance_of_le sound placed (not_lt.1 before),
        advance_of_le (sound.reorder perm) placed' (not_lt.1 before), rolledTo_reorder perm]
      exact .inl rfl

theorem Tallies.counted_reorder (tallies : Tallies source config recorded closed tracker)
    (perm : counters.Perm tracker.window.counters) (arrival : Arrival) :
    Mirrors (tracker.counted arrival) ((tracker.reorder counters).counted arrival) := by
  obtain ⟨after, permuted, same⟩ := Window.record_reorder tallies.nodup_counters perm
    arrival.messageId arrival.moment arrival.secondary
  have same : (tracker.reorder counters).window.record _ _ _ = _ := same
  unfold Tracker.counted
  rw [same]
  exact ⟨rfl, rfl, after, permuted, rfl⟩

theorem Tallies.deliver_reorder (tallies : Tallies source config recorded closed tracker)
    (accepted : config.Accepted) (perm : counters.Perm tracker.window.counters)
    (arrival : Arrival) :
    Mirrors (tracker.deliver arrival) ((tracker.reorder counters).deliver arrival) := by
  have noted := tallies.noted arrival.moment
  have moved : (tracker.reorder counters).noted arrival.moment =
      (tracker.noted arrival.moment).reorder counters := rfl
  rw [deliver_eq, deliver_eq, moved]
  rcases noted.advance_reorder accepted perm arrival.moment with same | ⟨stays, stays'⟩
  · rw [same]
    exact ⟨rfl, rfl, .refl _⟩
  · rw [stays, stays', Outcome.done_andThen, Outcome.done_andThen]
    exact noted.counted_reorder perm arrival

theorem markLoggerStarting_reorder (tracker : Tracker) (counters : List Counter) (next : Int) :
    (tracker.reorder counters).markLoggerStarting next =
      (tracker.markLoggerStarting next).mapState (reorder counters) := by
  have same : (tracker.reorder counters).window.gapBefore next = tracker.window.gapBefore next :=
    rfl
  cases found : tracker.window.gapBefore next with
  | error failure => simp only [markLoggerStarting, same, found]; rfl
  | ok answer =>
    cases answer with
    | none => simp only [markLoggerStarting, same, found]; rfl
    | some gap =>
      rw [markLoggerStarting_of_gap found, markLoggerStarting_of_gap (same.trans found)]
      rfl

theorem report_reorder (tracker : Tracker) (counters : List Counter) (stamp : Option String) :
    (tracker.reorder counters).report stamp =
      (tracker.report stamp).mapState (reorder counters) := by
  cases stamp with
  | some stamp => rfl
  | none =>
    have same : (tracker.reorder counters).lastEventStamp = tracker.lastEventStamp := rfl
    simp only [report, same]
    cases tracker.lastEventStamp <;> rfl

theorem Tallies.perform_reorder (tallies : Tallies source config recorded closed tracker)
    (accepted : config.Accepted) (perm : counters.Perm tracker.window.counters) (call : Call) :
    Mirrors (tracker.perform call) ((tracker.reorder counters).perform call) := by
  rcases call.arrive_or_other with ⟨arrival, rfl⟩ | observes
  · exact tallies.deliver_reorder accepted perm arrival
  · -- such a call leaves the counters alone, so they are still a permutation
    obtain ⟨⟨reports, gaps, state⟩, -⟩ := tracker.noticed_perform observes
    have same : (tracker.reorder counters).perform call =
        (tracker.perform call).mapState (reorder counters) := by
      cases call with
      | arrive arrival => cases observes
      | startLogger next =>
        rw [perform_startLogger, perform_startLogger, markLoggerStarting_reorder]
        rfl
      | report stamp =>
        rw [perform_report, perform_report, report_reorder]
        rfl
    rw [same]
    exact ⟨rfl, rfl, counters, state ▸ perm, rfl⟩

theorem Tallies.perform (tallies : Tallies source config recorded closed tracker)
    (accepted : config.Accepted) (call : Call) :
    ∃ recorded closed, Tallies source config recorded closed (tracker.perform call).state := by
  rcases call.arrive_or_other with ⟨arrival, rfl⟩ | observes
  · exact ⟨_, _, (tallies.deliver accepted arrival).2⟩
  · obtain ⟨⟨reports, gaps, state⟩, -⟩ := tracker.noticed_perform observes
    rw [state]
    exact ⟨_, _, tallies.withNotices reports gaps⟩

/-- The other tracker shows the same counters, in whatever order they are listed, and nothing that
a count, a rollover or a schedule reads is different. -/
structure SameCounts (tracker other : Tracker) : Prop where
  counter?_eq : ∀ messageId, other.window.counter? messageId = tracker.window.counter? messageId
  perm : other.window.counters.Perm tracker.window.counters
  span_eq : other.window.span = tracker.window.span
  currentIndex_eq : other.window.currentIndex = tracker.window.currentIndex
  statistics_eq : other.statistics = tracker.statistics
  schedule_eq : other.schedule = tracker.schedule

theorem Tallies.sameCounts (tallies : Tallies source config recorded closed tracker)
    (reordered : tracker.Reordered other) : tracker.SameCounts other := by
  obtain ⟨counters, perm, rfl⟩ := reordered
  exact ⟨Window.counter?_reorder tallies.nodup_counters perm, perm, rfl, rfl, rfl, rfl⟩

end Tracker

/-! ### Runs -/

/-- A call of two runs answered and wrote the same, and left the same counts. -/
structure Performed.SameCounts (one other : Performed) : Prop where
  call_eq : other.call = one.call
  result_eq : other.outcome.result = one.outcome.result
  entries_eq : other.outcome.entries = one.outcome.entries
  state : one.outcome.state.SameCounts other.outcome.state

namespace Tracker

open Arrivals

variable {source : String} {config : Config} {recorded : List Arrival} {closed : List Int}
  {tracker : Tracker} {counters : List Counter} {span : Span} {arrival : Arrival}
  {batch order : List Arrival}

theorem Tallies.transcript_reorder (tallies : Tallies source config recorded closed tracker)
    (accepted : config.Accepted) (perm : counters.Perm tracker.window.counters)
    (calls : List Call) :
    List.Forall₂ Performed.SameCounts (tracker.transcript calls)
      ((tracker.reorder counters).transcript calls) := by
  induction calls generalizing tracker counters recorded closed with
  | nil => exact .nil
  | cons call rest ih =>
    obtain ⟨result, entries, state⟩ := tallies.perform_reorder accepted perm call
    obtain ⟨_, _, after⟩ := tallies.perform accepted call
    refine .cons ⟨rfl, result, entries, after.sameCounts state⟩ ?_
    obtain ⟨counters, perm, same⟩ := state
    rw [same]
    exact ih after perm

/-- The highest bucket after some arrivals in a window that begins at a moment. -/
def highest (start index : Int) (arrivals : List Arrival) : Int :=
  (arrivals.map fun arrival => (arrival.moment - start) / bucketMillis).foldl max index

theorem highest_perm (start index : Int) (perm : order.Perm batch) :
    highest start index order = highest start index batch :=
  (perm.map _).foldl_op_eq

/-- An arrival inside the window whose id has room there is counted where it lies. -/
theorem Tallies.deliver_inside (tallies : Tallies source config recorded closed tracker)
    (placed : tracker.window.span = some span)
    (low : span.start ≤ arrival.moment) (high : arrival.moment < span.stop)
    (room : arrival.messageId ∈
        ids (within span.start (span.start + config.windowMillis) recorded) ∨
      (ids (within span.start (span.start + config.windowMillis) recorded)).length <
        config.maxMessages) :
    tracker.deliver arrival =
      .done ((tracker.noted arrival.moment).withCounters
        (max tracker.window.currentIndex ((arrival.moment - span.start) / bucketMillis))
        (tally config.slots span.start
          (within span.start (span.start + config.windowMillis) recorded ++ [arrival]))) true := by
  have stays : (tracker.noted arrival.moment).advance arrival.moment =
      .done (tracker.noted arrival.moment) () := by
    have placed' : (tracker.noted arrival.moment).window.span = some span := placed
    simp only [Tracker.advance, placed', if_pos high]
  have counting := (tallies.noted arrival.moment).counted_eq arrival placed high
  rw [deliver_eq, stays, Outcome.done_andThen, counting, if_pos ⟨low, room⟩]
  rfl

/-- Arrivals inside the window that all have room there are all recorded. -/
theorem Tallies.deliver_batch (tallies : Tallies source config recorded closed tracker)
    (accepted : config.Accepted) (placed : tracker.window.span = some span)
    (inside : ∀ arrival ∈ batch, span.start ≤ arrival.moment ∧ arrival.moment < span.stop)
    (room : ((ids (within span.start (span.start + config.windowMillis) recorded ++ batch)).length :
      Int) ≤ config.maxMessages) :
    (∀ performed ∈ tracker.transcript (batch.map .arrive),
      performed.outcome.result = .ok true ∧ performed.outcome.entries = []) ∧
    Tallies source config (recorded ++ batch) closed (tracker.after (batch.map .arrive)) ∧
    ∀ moment, (tracker.after (batch.map .arrive)).noted moment =
      (tracker.noted moment).withCounters
        (highest span.start tracker.window.currentIndex batch)
        (tally config.slots span.start
          (within span.start (span.start + config.windowMillis) recorded ++ batch)) := by
  induction batch generalizing tracker recorded with
  | nil =>
    rw [List.append_nil, List.append_nil, ← (tallies.current span placed).counters_eq]
    exact ⟨fun _ member => (List.not_mem_nil member).elim, tallies, fun _ => rfl⟩
  | cons arrival rest ih =>
    obtain ⟨⟨low, high⟩, others⟩ := List.forall_mem_cons.1 inside
    have stop := (tallies.current span placed).stop_eq
    have free := room_for_head room
    have delivered : tracker.perform (.arrive arrival) = _ :=
      tallies.deliver_inside placed low high free
    have counted := (tallies.noted arrival.moment).withCounters accepted placed low high
      (max tracker.window.currentIndex ((arrival.moment - span.start) / bucketMillis)) free
    have counts : within span.start (span.start + config.windowMillis) (recorded ++ [arrival]) =
        within span.start (span.start + config.windowMillis) recorded ++ [arrival] := by
      rw [within_concat, if_pos ⟨low, stop ▸ high⟩]
    rw [List.append_cons] at room
    obtain ⟨answers, tallied, last⟩ := ih counted placed others (counts ▸ room)
    rw [counts] at last
    rw [List.map_cons, transcript, after, List.foldl_cons, List.append_cons recorded arrival rest,
      List.append_cons _ arrival rest, delivered]
    exact ⟨List.forall_mem_cons.2 ⟨⟨rfl, rfl⟩, answers⟩, tallied, last⟩

/-- The ids that are tracked and those of a batch are those of all arrivals in the window. -/
theorem Tallies.length_ids_le (tallies : Tallies source config recorded closed tracker)
    (placed : tracker.window.span = some span) (batch : List Arrival) :
    (ids (within span.start (span.start + config.windowMillis) recorded ++ batch)).length ≤
      (tracker.window.counters.map (·.messageId) ++
        batch.map (·.messageId)).eraseDups.length := by
  rw [(tallies.current span placed).counters_eq, map_messageId_tally]
  refine (List.subperm_of_subset (nodup_ids _) fun messageId member => ?_).length_le
  obtain ⟨arrival, here, rfl⟩ := mem_ids.1 member
  rw [List.mem_eraseDups, List.mem_append]
  rcases List.mem_append.1 here with before | inBatch
  · exact .inl (mem_ids.2 ⟨arrival, before, rfl⟩)
  · exact .inr (List.mem_map_of_mem inBatch)

end Tracker

namespace Ledger

open Arrivals

variable {source : String} {config : Config} {span : Span} {batch order : List Arrival}

/-- Arrivals inside the window whose ids all have room there, each new one of one kind, are all
recorded in whatever order they come. All orders leave the same counts, and every run that goes on
with another arrival goes on the same: each call has the same result, writes the same and leaves the
same counts. -/
theorem batch_in_any_order (source : String) (accepted : config.Accepted) (calls : List Call)
    (placed : (ofCalls source config calls).tracker.window.span = some span)
    (inside : ∀ arrival ∈ batch, span.start ≤ arrival.moment ∧ arrival.moment < span.stop)
    (room : (((ofCalls source config calls).tracker.window.counters.map (·.messageId) ++
      batch.map (·.messageId)).eraseDups.length : Int) ≤ config.maxMessages)
    (uniform : Uniform batch) (perm : order.Perm batch) :
    let before := (ofCalls source config calls).tracker
    let after := before.after (batch.map .arrive)
    let after' := before.after (order.map .arrive)
    (∀ performed ∈ before.transcript (order.map .arrive),
      performed.outcome.result = .ok true ∧ performed.outcome.entries = []) ∧
    after.SameCounts after' ∧
    ∀ arrival rest, List.Forall₂ Performed.SameCounts
      (after.transcript (.arrive arrival :: rest))
      (after'.transcript (.arrive arrival :: rest)) := by
  intro before after after'
  have sound : (ofCalls source config calls).Sound source config := sound_ofCalls accepted calls
  have fits := (Int.ofNat_le.2 (sound.length_ids_le placed batch)).trans room
  have fits' := fits
  rw [← (ids_perm (perm.append_left _)).length_eq] at fits'
  obtain ⟨-, tallies, last⟩ := sound.deliver_batch accepted placed inside fits
  obtain ⟨answers, -, last'⟩ := sound.deliver_batch accepted placed
    (fun arrival member => inside arrival (perm.mem_iff.1 member)) fits'
  have reordered : ∀ moment, (after.noted moment).Reordered (after'.noted moment) := by
    intro moment
    rw [last moment, last' moment, Tracker.highest_perm _ _ perm]
    exact ⟨_, tally_perm config.slots span.start _ uniform perm, rfl⟩
  refine ⟨answers, ?_, fun arrival rest => ?_⟩
  · obtain ⟨counter, permuted, span_eq, index, statistics, schedule⟩ :=
      (tallies.noted 0).sameCounts (reordered 0)
    exact ⟨counter, permuted, span_eq, index, statistics, schedule⟩
  · -- the next arrival is delivered to trackers that agree on the last one
    obtain ⟨counters, permuted, same⟩ := reordered arrival.moment
    have runs := (tallies.noted arrival.moment).transcript_reorder accepted permuted
      (.arrive arrival :: rest)
    rw [← same] at runs
    exact runs

/-- A window that is full afterwards. The two orders list the new ids the other way round, and their
last arrivals differ. -/
theorem batch_in_any_order_reversed :
    let config : Config := { Config.standard with maxMessages := 4 }
    let calls : List Call :=
      [.arrive ⟨"a", 0, false⟩, .startLogger 1200000, .arrive ⟨"b", 1200000, true⟩, .report none]
    let batch : List Arrival :=
      [⟨"c", 600000, false⟩, ⟨"b", 7199999, true⟩, ⟨"d", 0, true⟩, ⟨"b", 1200000, true⟩]
    let before := (ofCalls "gate" config calls).tracker
    let after := before.after (batch.map .arrive)
    let after' := before.after (batch.reverse.map .arrive)
    let rest : List Call := [.report none, .startLogger 9000000, .arrive ⟨"d", 86400000, false⟩]
    config.Accepted ∧ before.window.span = some ⟨0, 7200000⟩ ∧
      (∀ arrival ∈ batch, 0 ≤ arrival.moment ∧ arrival.moment < 7200000) ∧
      ((before.window.counters.map (·.messageId) ++
        batch.map (·.messageId)).eraseDups.length : Int) ≤ config.maxMessages ∧
      Uniform batch ∧
      after.window.counters.map (·.messageId) = ["a", "b", "c", "d"] ∧
      after'.window.counters.map (·.messageId) = ["a", "b", "d", "c"] ∧
      after.window.lastEvent ≠ after'.window.lastEvent ∧ after.SameCounts after' ∧
      List.Forall₂ Performed.SameCounts
        (after.transcript (.arrive ⟨"e", 1, false⟩ :: rest))
        (after'.transcript (.arrive ⟨"e", 1, false⟩ :: rest)) := by
  intro config calls batch before after after' rest
  have accepted : config.Accepted := ⟨by decide, rfl⟩
  have placed : before.window.span = some ⟨0, 7200000⟩ := by decide +kernel
  have inside : ∀ arrival ∈ batch, 0 ≤ arrival.moment ∧ arrival.moment < 7200000 := by decide
  have room : ((before.window.counters.map (·.messageId) ++
      batch.map (·.messageId)).eraseDups.length : Int) ≤ config.maxMessages := by decide +kernel
  have uniform : Uniform batch := by
    unfold Uniform
    decide
  obtain ⟨-, same, runs⟩ := batch_in_any_order "gate" accepted calls placed inside room uniform
    batch.reverse_perm
  exact ⟨accepted, placed, inside, room, uniform, by decide +kernel, by decide +kernel,
    by decide +kernel, same, runs _ rest⟩

end Ledger

end ArrivalRates
