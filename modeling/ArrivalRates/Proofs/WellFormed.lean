import ArrivalRates.Proofs.FailedCalls

/-!
# The shape of a tracker

Whatever calls a tracker has answered, and whichever of them failed, its window lies where windows
lie, its counters have one cell for each bucket of the window and no count past the highest bucket
seen, and its statistics have all absorbed the same windows. Most of this can be read off the
arrivals that were recorded; the highest bucket cannot, since arrivals that were turned away move it
too, and has an invariant of its own.
-/

namespace ArrivalRates

open Arrivals

/-! ### Well-formed trackers -/

/-- One cell for each bucket, and something counted, but not past a bucket. -/
structure Counter.WellFormed (slots highest : Int) (counter : Counter) : Prop where
  slots_eq : counter.slots = slots
  length_eq : (counter.counts.length : Int) = slots
  bounded : ∀ count ∈ counter.counts, 0 ≤ count ∧ count ≤ maxCount
  used : ∃ count ∈ counter.counts, count ≠ 0
  unused : ∀ (i : Nat) (inside : i < counter.counts.length), highest < i → counter.counts[i] = 0

structure Window.WellFormed (config : Config) (window : Window) : Prop where
  aligned : ∀ span, window.span = some span →
    config.windowMillis ∣ span.start ∧ span.stop = span.start + config.windowMillis
  highest : 0 ≤ window.currentIndex ∧ window.currentIndex < config.slots
  room : window.counters.length ≤ config.maxMessages
  nodup : (window.counters.map (·.messageId)).Nodup
  stored : ∀ counter ∈ window.counters, window.counter? counter.messageId = some counter
  counters : ∀ counter ∈ window.counters, counter.WellFormed config.slots window.currentIndex
  inactive : window.span = none → window.counters = []

structure Tracker.WellFormed (config : Config) (tracker : Tracker) : Prop where
  window : tracker.window.WellFormed config
  sizes : tracker.statistics.map (·.size) = config.sizes
  /-- All sizes have absorbed the same number of windows. -/
  intervals : ∃ windows : Nat, ∀ stats ∈ tracker.statistics,
    stats.intervals = windows * (config.slots / stats.size)

/-! ### The highest bucket -/

/-- The highest bucket seen is one of the window, and no arrival was recorded past it. -/
structure Window.Indexed (config : Config) (recorded : List Arrival) (window : Window) : Prop where
  nonneg : 0 ≤ window.currentIndex
  lt_slots : window.currentIndex < config.slots
  bucket_le : ∀ span, window.span = some span → ∀ arrival ∈ recorded,
    span.start ≤ arrival.moment →
      (arrival.moment - span.start) / bucketMillis ≤ window.currentIndex

namespace Window

theorem putCounter_span (window : Window) (counter : Counter) :
    (window.putCounter counter).span = window.span := by
  unfold putCounter
  split <;> rfl

theorem putCounter_currentIndex (window : Window) (counter : Counter) :
    (window.putCounter counter).currentIndex = window.currentIndex := by
  unfold putCounter
  split <;> rfl

/-- Whether the arrival is counted or not, the highest bucket takes note of it. -/
theorem record_index {window : Window} {span : Span} (placed : window.span = some span)
    (buckets : window.bucket = bucketMillis) (messageId : String) (moment : Int)
    (secondary : Bool) :
    (window.record messageId moment secondary).1.span = some span ∧
      (window.record messageId moment secondary).1.currentIndex =
        max window.currentIndex ((moment - span.start) / bucketMillis) := by
  have index : floorDiv (moment - span.start) window.bucket =
      .ok ((moment - span.start) / bucketMillis) := by
    rw [buckets, floorDiv_bucketMillis]
  simp only [record, placed, index]
  split
  · exact ⟨rfl, rfl⟩
  · split
    · exact ⟨rfl, rfl⟩
    · split <;> simp [putCounter_span, putCounter_currentIndex]

end Window

namespace Tracker

variable {source : String} {config : Config} {recorded : List Arrival} {closed closed' : List Int}
  {tracker : Tracker} {arrival : Arrival} {moment : Int}

/-- A window without counters has recorded nothing since it began. -/
theorem Tallies.lt_start (tallies : Tallies source config recorded closed tracker) {span : Span}
    (placed : tracker.window.span = some span) (empty : tracker.window.counters = []) :
    ∀ other ∈ recorded, other.moment < span.start := by
  intro other member
  by_contra low
  have current := tallies.current span placed
  have inside : other ∈ within span.start (span.start + config.windowMillis) recorded :=
    mem_within.2 ⟨member, not_lt.1 low, current.stop_eq ▸ current.recorded_lt other member⟩
  have counters := current.counters_eq
  rw [empty, eq_comm, tally, List.map_eq_nil_iff] at counters
  have known := mem_ids.2 ⟨other, inside, rfl⟩
  rw [counters] at known
  cases known

/-- The highest bucket of a window that has just been placed. -/
theorem Tallies.indexed_of_placed (tallies : Tallies source config recorded closed tracker)
    (accepted : config.Accepted) (first : tracker.window.currentIndex = 0)
    (empty : tracker.window.counters = []) : tracker.window.Indexed config recorded := by
  have slots := accepted.slots
  refine ⟨first.ge, first ▸ by omega, ?_⟩
  intro span placed other member low
  have before := tallies.lt_start placed empty other member
  omega

/-- Bringing the window to an arrival leaves the highest bucket, or starts again with the first. -/
theorem Advance.indexed {outcome : Outcome Tracker Unit} (advance : Advance tracker moment outcome)
    (accepted : config.Accepted) (tallies : Tallies source config recorded closed tracker)
    (after : Tallies source config recorded closed' outcome.state)
    (indexed : tracker.window.Indexed config recorded) :
    outcome.state.window.Indexed config recorded := by
  cases advance with
  | unstarted inactive | opened inactive =>
    exact after.indexed_of_placed accepted rfl (tallies.inactive inactive).2.2
  | stayed => exact indexed
  | moved placed past due =>
    have same := due.window_eq
    refine after.indexed_of_placed accepted ?_ ?_ <;> rw [same] <;> rfl

theorem Tallies.indexed_counted (tallies : Tallies source config recorded closed tracker)
    (indexed : tracker.window.Indexed config recorded) {span : Span}
    (placed : tracker.window.span = some span) (before : arrival.moment < span.stop) :
    (tracker.counted arrival).state.window.Indexed config
      (if (tracker.counted arrival).accepted then recorded ++ [arrival] else recorded) := by
  obtain ⟨span_eq, index_eq⟩ := Window.record_index placed tallies.bucket_eq arrival.messageId
    arrival.moment arrival.secondary
  have bucket_lt : (arrival.moment - span.start) / bucketMillis < config.slots := by
    have stop := (tallies.current span placed).stop_eq
    unfold Config.windowMillis bucketMillis at *
    omega
  have nonneg := indexed.nonneg
  have lt_slots := indexed.lt_slots
  show (tracker.window.record _ _ _).1.Indexed config _
  constructor
  · rw [index_eq]
    omega
  · rw [index_eq]
    omega
  · intro same replaced other member low
    obtain rfl := Option.some.inj (span_eq.symm.trans replaced)
    have known : other ∈ recorded ∨ other = arrival := by
      split at member
      · simpa using member
      · exact .inl member
    rw [index_eq]
    rcases known with earlier | rfl
    · exact le_max_of_le_left (indexed.bucket_le span placed other earlier low)
    · exact le_max_right ..

theorem Tallies.indexed_deliver (tallies : Tallies source config recorded closed tracker)
    (accepted : config.Accepted) (indexed : tracker.window.Indexed config recorded)
    (arrival : Arrival) :
    (tracker.deliver arrival).state.window.Indexed config
      (if (tracker.deliver arrival).accepted then recorded ++ [arrival] else recorded) := by
  have noted := tallies.noted arrival.moment
  have placing := noted.wellPlaced accepted
  have advance := advance_spec placing arrival.moment
  have after := noted.advance accepted advance
  have moved := advance.indexed accepted noted after
    ⟨indexed.nonneg, indexed.lt_slots, indexed.bucket_le⟩
  rw [deliver_eq]
  generalize (tracker.noted arrival.moment).advance arrival.moment = brought at advance after moved
  cases result : brought.result with
  | error failure =>
    rw [Outcome.andThen_of_error result]
    exact moved
  | ok value =>
    obtain ⟨span, placed, before⟩ := advance.reached placing.positive result
    rw [Outcome.andThen_of_ok result]
    exact after.indexed_counted moved placed before

end Tracker

namespace Arrivals

variable {slots start highest : Int} {arrivals : List Arrival} {messageId : String}

/-- The counter of an id that arrived in a window, none of whose arrivals is past a bucket. -/
theorem wellFormed_counter (wide : 0 ≤ slots) (known : messageId ∈ ids arrivals)
    (inside : ∀ arrival ∈ arrivals,
      start ≤ arrival.moment ∧ arrival.moment < start + slots * bucketMillis)
    (reached : ∀ arrival ∈ arrivals, (arrival.moment - start) / bucketMillis ≤ highest) :
    (counter slots start arrivals messageId).WellFormed slots highest where
  slots_eq := rfl
  length_eq := by simp [counter, wide]
  bounded := by
    intro count member
    obtain ⟨i, -, rfl⟩ := List.mem_map.1 member
    exact ⟨cell_nonneg .., min_le_left ..⟩
  used := by
    obtain ⟨arrival, member, same⟩ := mem_ids.1 known
    obtain ⟨low, high⟩ := inside arrival member
    -- the bucket of an arrival of the id
    refine ⟨_, List.mem_map.2 ⟨((arrival.moment - start) / bucketMillis).toNat, ?_, rfl⟩, ?_⟩
    · rw [List.mem_range]
      unfold bucketMillis at *
      omega
    · apply ne_of_gt
      rw [cell_pos_iff, mem_ids]
      refine ⟨arrival, mem_within.2 ⟨member, ?_, ?_⟩, same⟩ <;> unfold bucketMillis at * <;> omega
  unused := by
    intro i bound past
    simp only [counter, List.getElem_map, List.getElem_range]
    apply le_antisymm _ (cell_nonneg ..)
    by_contra counted
    obtain ⟨arrival, member, -⟩ := mem_ids.1 (cell_pos_iff.1 (not_le.1 counted))
    obtain ⟨there, low, -⟩ := mem_within.1 member
    have below := reached arrival there
    unfold bucketMillis at *
    omega

end Arrivals

namespace Tracker

variable {source : String} {config : Config} {recorded : List Arrival} {closed : List Int}
  {tracker : Tracker}

theorem Tallies.wellFormed_window (tallies : Tallies source config recorded closed tracker)
    (accepted : config.Accepted) (roomy : 0 ≤ config.maxMessages)
    (indexed : tracker.window.Indexed config recorded) : tracker.window.WellFormed config := by
  have highest := And.intro indexed.nonneg indexed.lt_slots
  cases placed : tracker.window.span with
  | none =>
    have empty := (tallies.inactive placed).2.2
    refine ⟨?_, highest, ?_, ?_, ?_, ?_, fun _ => empty⟩
    · intro span same
      cases placed.symm.trans same
    all_goals simp [empty, roomy]
  | some span =>
    have current := tallies.current span placed
    have counters_eq := current.counters_eq
    generalize kept : within span.start (span.start + config.windowMillis) recorded = arrivals
      at counters_eq
    refine ⟨?_, highest, ?_, ?_, ?_, ?_, ?_⟩
    · intro same replaced
      obtain rfl := Option.some.inj (placed.symm.trans replaced)
      exact ⟨current.aligned, current.stop_eq⟩
    · have room := tallies.room span.start current.aligned
      rw [kept, max_eq_right roomy] at room
      rw [counters_eq, tally, List.length_map]
      exact room
    · rw [counters_eq, tally, List.map_map]
      exact (List.map_id _).symm ▸ nodup_ids arrivals
    · intro counter member
      rw [counters_eq, tally, List.mem_map] at member
      obtain ⟨id, known, rfl⟩ := member
      exact (counter?_of_tally counters_eq id).trans (if_pos known)
    · intro counter member
      rw [counters_eq, tally, List.mem_map] at member
      obtain ⟨id, known, rfl⟩ := member
      have wide : 0 ≤ config.slots := by have := accepted.slots; omega
      apply wellFormed_counter wide known
      · intro arrival there
        exact (mem_within.1 (kept ▸ there)).2
      · intro arrival there
        obtain ⟨earlier, low, -⟩ := mem_within.1 (kept ▸ there)
        exact indexed.bucket_le span placed arrival earlier low
    · intro inactive
      cases placed.symm.trans inactive

theorem Tallies.wellFormed (tallies : Tallies source config recorded closed tracker)
    (accepted : config.Accepted) (roomy : 0 ≤ config.maxMessages)
    (indexed : tracker.window.Indexed config recorded) : tracker.WellFormed config where
  window := tallies.wellFormed_window accepted roomy indexed
  sizes := by
    rw [tallies.statistics_eq, List.map_map]
    exact List.map_id config.sizes
  intervals := by
    refine ⟨closed.length, fun stats member => ?_⟩
    rw [tallies.statistics_eq, List.mem_map] at member
    obtain ⟨size, -, rfl⟩ := member
    rfl

end Tracker

namespace Ledger

variable {source : String} {config : Config}

theorem indexed_ofCalls (accepted : config.Accepted) (calls : List Call) :
    (ofCalls source config calls).tracker.window.Indexed config
      (ofCalls source config calls).recorded := by
  have slots := accepted.slots
  refine (ofCalls_induction
    (motive := fun ledger => ledger.tracker.window.Indexed config ledger.recorded) accepted
    ⟨le_rfl, by simpa [begin, Chronicle.begin, Tracker.fresh], fun _ _ _ member => nomatch member⟩
    ?_ calls).2
  intro ledger call sound indexed
  rcases call.arrive_or_other with ⟨arrival, rfl⟩ | other
  · exact Tracker.Tallies.indexed_deliver sound accepted indexed arrival
  · obtain ⟨_, _, tracker⟩ := ledger.tracker_other other
    rw [tracker, ledger.recorded_other other]
    exact indexed

/-- Every tracker is well formed after any calls, whether they failed or not. -/
theorem wellFormed_ofCalls (source : String) (accepted : config.Accepted)
    (roomy : 0 ≤ config.maxMessages) (calls : List Call) :
    (ofCalls source config calls).tracker.WellFormed config :=
  Tracker.Tallies.wellFormed (sound_ofCalls accepted calls) accepted roomy
    (indexed_ofCalls accepted calls)

/-- A call fails after it has moved the window, and the next one counts its arrival there. -/
theorem wellFormed_ofCalls_far :
    let calls : List Call :=
      [.arrive lastArrival, .arrive farArrival, .report none, .startLogger 0, .arrive farArrival]
    let run := ofCalls "gate" Config.standard calls
    Config.standard.Accepted ∧ 0 ≤ Config.standard.maxMessages ∧
      run.failures.length = 2 ∧ run.recorded = [lastArrival, farArrival] ∧
      run.tracker.WellFormed Config.standard := by
  intro calls run
  have accepted : Config.standard.Accepted := ⟨by decide, rfl⟩
  have roomy : 0 ≤ Config.standard.maxMessages := by decide
  refine ⟨accepted, roomy, by decide +kernel, by decide +kernel, ?_⟩
  exact wellFormed_ofCalls "gate" accepted roomy calls

end Ledger

end ArrivalRates
