import ArrivalRates.Proofs.Advance
import ArrivalRates.Proofs.Batch

/-!
# Counting arrivals as they come equals counting them at once

`Tracker.Tallies` compares a tracker with the arrivals it recorded and the windows it closed: the
counters are the tally of the current window and the statistics are the batch of the closed ones.
Each step of a call keeps it, whether the call fails or not, so it holds after every run. The order
of the steps matters: the arrival that closes a window is recorded after the window was counted, and
a reset drops the windows that were closed before it, the last one included.
-/

namespace ArrivalRates

open Arrivals

theorem indivisible?_eq_none_iff {slots : Int} {sizes : List Int} :
    indivisible? slots sizes = none ↔ ∀ size ∈ sizes, 1 ≤ size ∧ size ∣ slots := by
  rw [indivisible?, List.find?_eq_none]
  refine forall₂_congr fun size _ => ?_
  rw [decide_eq_true_iff, not_or, not_lt, not_not, Int.dvd_iff_emod_eq_zero]

/-- A layout is in order if there is a size and each of them cuts the window into equal parts. -/
theorem checkLayout_eq_ok_iff {slots : Int} {sizes : List Int} :
    checkLayout slots sizes = .ok () ↔ sizes ≠ [] ∧ ∀ size ∈ sizes, 1 ≤ size ∧ size ∣ slots := by
  rw [← indivisible?_eq_none_iff, Ne, ← List.isEmpty_iff]
  unfold checkLayout
  split
  next empty => simp [empty]
  next some => cases indivisible? slots sizes <;> simp [some]

namespace Config

def windowMillis (config : Config) : Int := config.slots * bucketMillis

structure Accepted (config : Config) : Prop where
  slots : 1 ≤ config.slots
  layout : checkLayout config.slots config.sizes = .ok ()

def windowStart (config : Config) (moment : Int) : Int :=
  moment / config.windowMillis * config.windowMillis

namespace Accepted

variable {config : Config}

theorem windowMillis_pos (accepted : config.Accepted) : 0 < config.windowMillis := by
  have slots := accepted.slots
  unfold windowMillis bucketMillis
  omega

theorem windowStart_le (accepted : config.Accepted) (moment : Int) :
    config.windowStart moment ≤ moment :=
  Span.around_start_le accepted.windowMillis_pos moment

theorem lt_windowStart_add (accepted : config.Accepted) (moment : Int) :
    moment < config.windowStart moment + config.windowMillis :=
  Span.lt_around_stop accepted.windowMillis_pos moment

theorem size_spec (accepted : config.Accepted) :
    ∀ size ∈ config.sizes, 1 ≤ size ∧ size ∣ config.slots :=
  (checkLayout_eq_ok_iff.1 accepted.layout).2

theorem one_le_size (accepted : config.Accepted) : ∀ size ∈ config.sizes, 1 ≤ size :=
  fun size member => (accepted.size_spec size member).1

end Accepted

end Config

namespace Tracker

/-- What a tracker keeps from its making on. -/
structure MadeFrom (source : String) (config : Config) (tracker : Tracker) : Prop where
  source_eq : tracker.source = source
  config_eq : tracker.config = config
  slots_eq : tracker.window.slots = config.slots
  maxMessages_eq : tracker.window.maxMessages = config.maxMessages
  bucket_eq : tracker.window.bucket = bucketMillis
  zone_eq : tracker.schedule.zone = config.zone
  frequency_eq : tracker.schedule.frequency = config.frequency

/-- What the recorded arrivals and the closed windows say about the current window. -/
structure Current (config : Config) (recorded : List Arrival) (closed : List Int)
    (window : Window) (span : Span) : Prop where
  aligned : config.windowMillis ∣ span.start
  stop_eq : span.stop = span.start + config.windowMillis
  counters_eq : window.counters =
    tally config.slots span.start (within span.start (span.start + config.windowMillis) recorded)
  recorded_lt : ∀ arrival ∈ recorded, arrival.moment < span.stop
  closed_le : ∀ start ∈ closed,
    config.windowMillis ∣ start ∧ start + config.windowMillis ≤ span.start
  ordered : closed.Pairwise (· < ·)

/-- What the recorded arrivals and the closed windows say about a tracker. -/
structure Tallies (source : String) (config : Config) (recorded : List Arrival)
    (closed : List Int) (tracker : Tracker) : Prop extends MadeFrom source config tracker where
  statistics_eq : tracker.statistics =
    config.sizes.map (Statistics.batch config.slots closed recorded)
  inactive : tracker.window.span = none →
    recorded = [] ∧ closed = [] ∧ tracker.window.counters = []
  current : ∀ span, tracker.window.span = some span →
    Current config recorded closed tracker.window span
  /-- No window has recorded more ids than it has room for. -/
  room : ∀ start, config.windowMillis ∣ start →
    ((ids (within start (start + config.windowMillis) recorded)).length : Int) ≤
      max 0 config.maxMessages

variable {source : String} {config : Config} {recorded : List Arrival} {closed : List Int}
  {tracker : Tracker}

theorem Current.stop_le_windowStart {window : Window} {span : Span}
    (current : Current config recorded closed window span) (accepted : config.Accepted)
    {moment : Int} (past : span.stop ≤ moment) : span.stop ≤ config.windowStart moment := by
  have aligned : config.windowMillis ∣ span.stop :=
    current.stop_eq ▸ Int.dvd_add current.aligned (Int.dvd_refl _)
  obtain ⟨k, stop⟩ := aligned
  have low : k ≤ moment / config.windowMillis := by
    rw [Int.le_ediv_iff_mul_le accepted.windowMillis_pos, Int.mul_comm, ← stop]
    exact past
  have positive := accepted.windowMillis_pos
  rw [stop, Config.windowStart, Int.mul_comm]
  exact Int.mul_le_mul_of_nonneg_right low (by omega)

theorem Current.ordered_concat {window : Window} {span : Span}
    (current : Current config recorded closed window span) (accepted : config.Accepted) :
    (closed ++ [span.start]).Pairwise (· < ·) := by
  refine List.pairwise_append.2 ⟨current.ordered, List.pairwise_singleton .., ?_⟩
  intro start member last same
  rw [List.mem_singleton] at same
  have before := (current.closed_le start member).2
  have positive := accepted.windowMillis_pos
  omega

/-! ### Single steps -/

theorem tallies_fresh (source : String) (config : Config) :
    Tallies source config [] [] (fresh source config) where
  source_eq := rfl
  config_eq := rfl
  slots_eq := rfl
  maxMessages_eq := rfl
  bucket_eq := rfl
  zone_eq := rfl
  frequency_eq := rfl
  statistics_eq := by
    simp only [fresh, freshStatistics, Statistics.batch_nil]
  inactive := fun _ => ⟨rfl, rfl, rfl⟩
  current := fun _ placed => by cases placed
  room := fun _ _ => by simp [within]

/-- The tracker that has taken note of the moment of an arrival. -/
def noted (tracker : Tracker) (moment : Int) : Tracker :=
  { tracker with window := { tracker.window with lastEvent := some moment } }

namespace Tallies

theorem length_eq (tallies : Tallies source config recorded closed tracker) :
    tracker.window.length = config.windowMillis := by
  rw [Window.length, tallies.slots_eq, tallies.bucket_eq, Config.windowMillis]

theorem noted (tallies : Tallies source config recorded closed tracker) (moment : Int) :
    Tallies source config recorded closed (tracker.noted moment) :=
  { tallies with
    current := fun span placed => { tallies.current span placed with } }

theorem withSchedule (tallies : Tallies source config recorded closed tracker)
    (schedule : Schedule) (zone : schedule.zone = tracker.schedule.zone)
    (frequency : schedule.frequency = tracker.schedule.frequency) (reportsEmitted : Nat) :
    Tallies source config recorded closed { tracker with schedule, reportsEmitted } :=
  { tallies with
    zone_eq := zone.trans tallies.zone_eq
    frequency_eq := frequency.trans tallies.frequency_eq }

theorem wellPlaced (tallies : Tallies source config recorded closed tracker)
    (accepted : config.Accepted) : tracker.WellPlaced where
  positive := tallies.length_eq ▸ accepted.windowMillis_pos
  sizes := tallies.config_eq ▸ accepted.one_le_size
  wide := by
    intro counter member
    cases placed : tracker.window.span with
    | none =>
      rw [(tallies.inactive placed).2.2] at member
      cases member
    | some span =>
      rw [(tallies.current span placed).counters_eq, tally, List.mem_map] at member
      obtain ⟨id, -, rfl⟩ := member
      exact tallies.slots_eq.symm
  aligned := by
    intro span placed
    rw [tallies.length_eq]
    exact ⟨(tallies.current span placed).aligned, (tallies.current span placed).stop_eq⟩

/-- The closed windows are in order, each laid out from the epoch. -/
theorem closed_spec (tallies : Tallies source config recorded closed tracker) :
    closed.Pairwise (· < ·) ∧ ∀ start ∈ closed, config.windowMillis ∣ start := by
  cases placed : tracker.window.span with
  | none =>
    rw [(tallies.inactive placed).2.1]
    exact ⟨.nil, fun _ member => by cases member⟩
  | some span =>
    have current := tallies.current span placed
    exact ⟨current.ordered, fun start member => (current.closed_le start member).1⟩

/-- The closed windows are whole windows that kept no more ids than they have room for. -/
theorem ids_le (tallies : Tallies source config recorded closed tracker) {bound : Int}
    (nonneg : 0 ≤ bound) (bounded : config.maxMessages ≤ bound) :
    ∀ start ∈ closed,
      ((ids (within start (start + config.windowMillis) recorded)).length : Int) ≤ bound := by
  intro start member
  have aligned := tallies.closed_spec.2 start member
  exact Int.le_trans (tallies.room start aligned) (Int.max_le.2 ⟨nonneg, bounded⟩)

theorem current_around (accepted : config.Accepted) {moment : Int} {window : Window}
    (counters : window.counters = [])
    (recorded_lt : ∀ arrival ∈ recorded, arrival.moment < config.windowStart moment)
    (closed_le : ∀ start ∈ closed,
      config.windowMillis ∣ start ∧ start + config.windowMillis ≤ config.windowStart moment)
    (ordered : closed.Pairwise (· < ·)) :
    Current config recorded closed window (.around config.windowMillis moment) where
  aligned := Int.dvd_mul_left ..
  stop_eq := rfl
  counters_eq := by
    have none : within (config.windowStart moment)
        (config.windowStart moment + config.windowMillis) recorded = [] := by
      rw [within, List.filter_eq_nil_iff]
      intro arrival member
      have := recorded_lt arrival member
      rw [decide_eq_true_eq]
      omega
    show _ = tally config.slots (config.windowStart moment) _
    rw [counters]
    exact (congrArg (tally config.slots _) none).symm
  recorded_lt := by
    intro arrival member
    have := recorded_lt arrival member
    have positive := accepted.windowMillis_pos
    show arrival.moment < config.windowStart moment + config.windowMillis
    omega
  closed_le := closed_le
  ordered := ordered

theorem placedAt (tallies : Tallies source config recorded closed tracker)
    (accepted : config.Accepted) (inactive : tracker.window.span = none) (moment : Int) :
    Tallies source config recorded closed (tracker.placedAt moment) :=
  { tallies with
    inactive := fun placed => by cases placed
    current := by
      intro span placed
      obtain ⟨rfl, rfl, counters⟩ := tallies.inactive inactive
      obtain rfl := Option.some.inj placed
      rw [tallies.length_eq]
      exact current_around accepted counters (by simp) (by simp) .nil }

theorem rolledTo (tallies : Tallies source config recorded closed tracker)
    (accepted : config.Accepted) {span : Span} (placed : tracker.window.span = some span)
    {moment : Int} (past : span.stop ≤ moment) :
    Tallies source config recorded (closed ++ [span.start]) (tracker.rolledTo moment) := by
  have current := tallies.current span placed
  have beyond := current.stop_le_windowStart accepted past
  have positive := accepted.windowMillis_pos
  exact
    { tallies with
      statistics_eq := by
        have wide : 0 ≤ config.slots := by have := accepted.slots; omega
        rw [Tracker.rolledTo, tallies.statistics_eq, tallies.config_eq, tallies.slots_eq,
          current.counters_eq, List.zipWith_map, List.zipWith_self]
        refine List.map_congr_left fun size member => ?_
        exact Statistics.batch_concat wide (accepted.one_le_size size member) recorded
      inactive := fun unplaced => by cases unplaced
      current := by
        intro moved replaced
        obtain rfl := Option.some.inj replaced
        rw [tallies.length_eq]
        refine current_around accepted rfl ?_ ?_ ?_
        · intro arrival member
          have := current.recorded_lt arrival member
          omega
        · intro start member
          rw [List.mem_append, List.mem_singleton] at member
          rcases member with earlier | rfl
          · have old := current.closed_le start earlier
            have stop := current.stop_eq
            exact ⟨old.1, by omega⟩
          · exact ⟨current.aligned, current.stop_eq ▸ beyond⟩
        · exact current.ordered_concat accepted }

/-- A window that was moved past its end is no longer current. -/
theorem closedWindow?_rolledTo (tallies : Tallies source config recorded closed tracker)
    (accepted : config.Accepted) {span : Span} (placed : tracker.window.span = some span)
    {moment : Int} (past : span.stop ≤ moment) (after : Tracker)
    (moved : after.window.span = (tracker.rolledTo moment).window.span) :
    tracker.closedWindow? after = some span.start := by
  have current := tallies.current span placed
  have beyond := current.stop_le_windowStart accepted past
  have stop := current.stop_eq
  have positive := accepted.windowMillis_pos
  rw [closedWindow?, placed, moved, Tracker.rolledTo, tallies.length_eq]
  refine if_neg fun same => ?_
  have start : config.windowStart moment = span.start :=
    congrArg Span.start (Option.some.inj same)
  omega

theorem span_of_due (tallies : Tallies source config recorded closed tracker) {moment : Int}
    {outcome : Outcome Tracker Unit} (due : Due (tracker.rolledTo moment) moment outcome) :
    outcome.state.window.span = some (.around config.windowMillis moment) := by
  rw [due.window_eq, ← tallies.length_eq]
  rfl

theorem afterReport (tallies : Tallies source config recorded closed tracker)
    (decision : Decision) (active : tracker.window.span ≠ none) :
    Tallies source config recorded (if decision.reset then [] else closed)
      (tracker.afterReport decision) := by
  have marked := tallies.withSchedule (tracker.schedule.markReported decision.day) rfl rfl
    (tracker.reportsEmitted + 1)
  unfold Tracker.afterReport
  cases decision.reset with
  | false => exact marked
  | true =>
    exact
      { marked with
        statistics_eq := by
          simp only [if_true, resetStatistics, freshStatistics, tallies.config_eq,
            Statistics.batch_nil]
        inactive := fun unplaced => absurd unplaced active
        current := fun span placed =>
          { tallies.current span placed with
            closed_le := fun start member => by cases member
            ordered := .nil } }

/-! ### Bringing a tracker to an arrival -/

theorem due (tallies : Tallies source config recorded closed tracker)
    (active : tracker.window.span ≠ none) {moment : Int} {outcome : Outcome Tracker Unit}
    (due : Due tracker moment outcome) :
    Tallies source config recorded
      (if tracker.resetEntry ∈ outcome.entries then [] else closed) outcome.state := by
  cases due with
  | undecided | quiet | unstamped =>
    simpa [Outcome.done, Outcome.failed] using tallies
  | unwritten => simpa [resetEntry_not_mem] using tallies
  | @reported decision =>
    have after := tallies.afterReport decision active
    cases reset : decision.reset <;> simpa [resetEntry_not_mem, reset] using after

theorem advance (tallies : Tallies source config recorded closed tracker)
    (accepted : config.Accepted) {moment : Int} {outcome : Outcome Tracker Unit}
    (advance : Advance tracker moment outcome) :
    Tallies source config recorded
      (if tracker.resetEntry ∈ outcome.entries then []
        else closed ++ (tracker.closedWindow? outcome.state).toList) outcome.state := by
  cases advance with
  | unstarted inactive _ =>
    have placed := tallies.placedAt accepted inactive moment
    simpa [Outcome.failed, closedWindow?, inactive] using placed
  | @opened day inactive _ =>
    have placed := tallies.placedAt accepted inactive moment
    have started := placed.withSchedule (tracker.schedule.startOn day) rfl rfl
      (tracker.placedAt moment).reportsEmitted
    simpa [Outcome.done, closedWindow?, inactive] using started
  | stayed placed _ => simpa [Outcome.done, closedWindow?, placed] using tallies
  | @moved span _ placed past due =>
    have rolled := tallies.rolledTo accepted placed past
    have after := rolled.due (by simp [Tracker.rolledTo]) due
    have closing := tallies.closedWindow?_rolledTo accepted placed past outcome.state
      (congrArg Window.span due.window_eq)
    rw [closing]
    exact after

end Tallies

/-! ### Counting the arrival -/

/-- The last part of a call, which counts the arrival in the window that is now current. -/
def counted (tracker : Tracker) (arrival : Arrival) : Outcome Tracker Bool :=
  let (window, result) :=
    tracker.window.record arrival.messageId arrival.moment arrival.secondary
  ⟨{ tracker with window }, result, []⟩

theorem deliver_eq (tracker : Tracker) (arrival : Arrival) :
    tracker.deliver arrival =
      ((tracker.noted arrival.moment).advance arrival.moment).andThen
        fun tracker () => tracker.counted arrival :=
  rfl

def withCounters (tracker : Tracker) (index : Int) (counters : List Counter) : Tracker :=
  { tracker with window := { tracker.window with currentIndex := index, counters } }

namespace Tallies

variable {span : Span} {arrival : Arrival}

theorem withCounters (tallies : Tallies source config recorded closed tracker)
    (accepted : config.Accepted) (placed : tracker.window.span = some span)
    (low : span.start ≤ arrival.moment) (high : arrival.moment < span.stop) (index : Int)
    (room : arrival.messageId ∈
        ids (within span.start (span.start + config.windowMillis) recorded) ∨
      (ids (within span.start (span.start + config.windowMillis) recorded)).length <
        config.maxMessages) :
    Tallies source config (recorded ++ [arrival]) closed
      (tracker.withCounters index (tally config.slots span.start
        (within span.start (span.start + config.windowMillis) recorded ++ [arrival]))) := by
  have current := tallies.current span placed
  have positive := accepted.windowMillis_pos
  have stop := current.stop_eq
  exact
    { tallies with
      statistics_eq := by
        -- the closed windows end before the current one, so the arrival is in none of them
        refine tallies.statistics_eq.trans (List.map_congr_left fun size _ => ?_)
        refine Statistics.batch_congr fun start member => ?_
        have before : start + config.slots * bucketMillis ≤ span.start :=
          (current.closed_le start member).2
        rw [within_concat, if_neg (by omega), List.append_nil]
      inactive := fun unplaced => by
        rw [Tracker.withCounters, placed] at unplaced
        cases unplaced
      current := by
        intro same replaced
        obtain rfl := Option.some.inj (placed.symm.trans replaced)
        exact
          { current with
            counters_eq := by rw [within_concat, if_pos ⟨low, by omega⟩]; rfl
            recorded_lt := by
              intro other member
              rw [List.mem_append, List.mem_singleton] at member
              rcases member with earlier | rfl
              · exact current.recorded_lt other earlier
              · exact high }
      room := by
        intro start aligned
        have before := tallies.room start aligned
        rw [within_concat]
        split
        next inside =>
          -- two aligned windows around one moment are the same, so the room is that of this window
          have same : start = span.start := by
            have here := Span.around_eq positive aligned inside.1 inside.2
            rw [Span.around_eq positive current.aligned low (by omega)] at here
            exact (Span.mk.inj here).1.symm
          subst same
          rw [ids_concat]
          split
          · exact before
          next new =>
            have free := room.resolve_left new
            rw [List.length_append, List.length_singleton]
            omega
        · rwa [List.append_nil] }

/-- In a window that ends after it, an arrival is counted if it is not before the window and its id
is known or has room. Counting never fails. -/
theorem counted_eq (tallies : Tallies source config recorded closed tracker) (arrival : Arrival)
    (placed : tracker.window.span = some span) (high : arrival.moment < span.stop) :
    let counts := within span.start (span.start + config.windowMillis) recorded
    let index := max tracker.window.currentIndex ((arrival.moment - span.start) / bucketMillis)
    tracker.counted arrival =
      if span.start ≤ arrival.moment ∧
          (arrival.messageId ∈ ids counts ∨ (ids counts).length < config.maxMessages) then
        .done (tracker.withCounters index
          (tally config.slots span.start (counts ++ [arrival]))) true
      else .done (tracker.withCounters index tracker.window.counters) false := by
  have current := tallies.current span placed
  by_cases low : span.start ≤ arrival.moment
  · have stop : arrival.moment < span.start + config.slots * bucketMillis :=
      current.stop_eq ▸ high
    have recording := record_tally current.counters_eq placed tallies.slots_eq rfl
      tallies.bucket_eq low stop
    rw [← tallies.maxMessages_eq]
    simp only [low, true_and, Tracker.counted, recording]
    split <;> rfl
  · have recording := record_of_lt placed tallies.bucket_eq (Int.not_le.1 low)
    simp only [low, false_and, if_false, Tracker.counted, recording]
    rfl

theorem counted (tallies : Tallies source config recorded closed tracker)
    (accepted : config.Accepted) (arrival : Arrival) (placed : tracker.window.span = some span)
    (high : arrival.moment < span.stop) :
    ∃ index counters answer,
      tracker.counted arrival = .done (tracker.withCounters index counters) answer ∧
      (answer = true → span.start ≤ arrival.moment) ∧
      Tallies source config (if answer then recorded ++ [arrival] else recorded) closed
        (tracker.withCounters index counters) := by
  have counting := tallies.counted_eq arrival placed high
  dsimp only at counting
  refine ⟨max tracker.window.currentIndex ((arrival.moment - span.start) / bucketMillis), ?_⟩
  generalize max tracker.window.currentIndex ((arrival.moment - span.start) / bucketMillis) = index
    at counting ⊢
  split at counting
  next inside =>
    obtain ⟨low, room⟩ := inside
    exact ⟨_, true, counting, fun _ => low,
      tallies.withCounters accepted placed low high index room⟩
  · have unchanged : Tallies source config recorded closed
        (tracker.withCounters index tracker.window.counters) :=
      { tallies with current := fun same placed => { tallies.current same placed with } }
    exact ⟨_, false, counting, by simp, unchanged⟩

end Tallies

/-! ### Whole calls -/

/-- The ways in which a call can end: the tracker was not brought to the arrival, or it was and the
arrival was counted. -/
inductive Delivery (tracker : Tracker) (arrival : Arrival) : Outcome Tracker Bool → Prop where
  | failed {brought : Outcome Tracker Unit} {failure : Failure}
      (advance : Advance (tracker.noted arrival.moment) arrival.moment brought)
      (fails : brought.result = .error failure) :
      Delivery tracker arrival ⟨brought.state, .error failure, brought.entries⟩
  | answered {brought : Outcome Tracker Unit} {index : Int} {counters : List Counter}
      {answer : Bool} {span : Span}
      (advance : Advance (tracker.noted arrival.moment) arrival.moment brought)
      (succeeds : brought.result = .ok ()) (placed : brought.state.window.span = some span)
      (before : arrival.moment < span.stop) (inside : answer = true → span.start ≤ arrival.moment) :
      Delivery tracker arrival
        ⟨brought.state.withCounters index counters, .ok answer, brought.entries⟩

namespace Tallies

theorem deliver (tallies : Tallies source config recorded closed tracker)
    (accepted : config.Accepted) (arrival : Arrival) :
    Delivery tracker arrival (tracker.deliver arrival) ∧
      Tallies source config
        (if (tracker.deliver arrival).accepted then recorded ++ [arrival] else recorded)
        (if tracker.resetEntry ∈ (tracker.deliver arrival).entries then []
          else closed ++ (tracker.closedWindow? (tracker.deliver arrival).state).toList)
        (tracker.deliver arrival).state := by
  have noted := tallies.noted arrival.moment
  have placing := noted.wellPlaced accepted
  have advance := advance_spec placing arrival.moment
  have after := noted.advance accepted advance
  rw [deliver_eq]
  generalize (tracker.noted arrival.moment).advance arrival.moment = brought at advance after
  cases result : brought.result with
  | error failure =>
    rw [Outcome.andThen_of_error result]
    exact ⟨.failed advance result, after⟩
  | ok value =>
    obtain ⟨span, placed, before⟩ := advance.reached placing.positive result
    obtain ⟨index, counters, answer, counting, inside, counted⟩ :=
      after.counted accepted arrival placed before
    rw [Outcome.andThen_of_ok result, counting]
    simp only [Outcome.done, List.append_nil]
    exact ⟨.answered advance result placed before inside, counted⟩

end Tallies

end Tracker

namespace Chronicle

variable {source : String} {config : Config}

/-- What the calls have shown agrees with the state of the tracker. -/
def Sound (source : String) (config : Config) (chronicle : Chronicle) : Prop :=
  chronicle.tracker.Tallies source config chronicle.recorded chronicle.closed

theorem sound_begin : (begin source config).Sound source config := Tracker.tallies_fresh ..

theorem sound_next {chronicle : Chronicle} (accepted : config.Accepted)
    (sound : chronicle.Sound source config) (arrival : Arrival) :
    (chronicle.next arrival).Sound source config := by
  have delivered := (Tracker.Tallies.deliver sound accepted arrival).2
  simpa only [Sound, next, closedUntil, decide_eq_true_eq] using delivered

theorem sound_ofArrivals (accepted : config.Accepted) (arrivals : List Arrival) :
    (ofArrivals source config arrivals).Sound source config :=
  foldl_next_induction sound_begin (fun _ arrival sound => sound_next accepted sound arrival)
    arrivals

/-- After every run, the statistics of each size are those of the closed windows, computed from the
recorded arrivals at once. As long as a window has room for no more ids than the number that stands
for no minimum, the minimum is that of the nonzero values, or that number if there are none. -/
theorem statistics_eq_batch (source : String) (arrivals : List Arrival)
    (accepted : config.Accepted) (bounded : config.maxMessages ≤ noMinimum) :
    let run := ofArrivals source config arrivals
    run.tracker.statistics =
        config.sizes.map (Statistics.batch config.slots run.closed run.recorded) ∧
      ∀ size, (Statistics.batch config.slots run.closed run.recorded size).primaryMin =
        (Statistics.leastNonzero ((run.closed.flatMap
          (intervals config.slots size run.recorded)).map (·.primaryUnique))).getD noMinimum := by
  intro run
  have sound : run.Sound source config := sound_ofArrivals accepted arrivals
  exact ⟨sound.statistics_eq, fun size =>
    Statistics.primaryMin_batch (sound.ids_le (by decide) bounded)⟩

/-- A run of four windows, one of them skipped and the last still open. -/
theorem statistics_eq_batch_standard :
    let run := ofArrivals "gate" Config.standard
      [⟨"a", -1, false⟩, ⟨"b", 0, false⟩, ⟨"a", 599999, true⟩, ⟨"a", 600000, false⟩,
        ⟨"b", -7200000, false⟩, ⟨"c", 21600000, false⟩]
    Config.standard.Accepted ∧ Config.standard.maxMessages ≤ noMinimum ∧
      run.closed = [-7200000, 0] ∧
      run.tracker.statistics =
        Config.standard.sizes.map (Statistics.batch 12 run.closed run.recorded) ∧
      run.tracker.statistics.map (·.primaryTotal) = [2, 2, 2, 2, 2] := by
  refine ⟨⟨by decide, rfl⟩, by decide, by decide +kernel, ?_, by decide +kernel⟩
  exact (statistics_eq_batch "gate" _ ⟨by decide, rfl⟩ (by decide)).1

end Chronicle

end ArrivalRates
