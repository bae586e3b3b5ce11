import ArrivalRates.Proofs.Acceptance
import Mathlib.Algebra.BigOperators.Ring.Finset

/-!
# Which kind an arrival counts for

Each arrival comes with a kind, but a counter has one kind for its id and its window, that of the
first arrival it counted. So the totals of a kind are the numbers of arrivals whose ids began as
that kind in their windows, and they are the numbers of arrivals of that kind as long as no id
changes its kind within a window. The proof goes from the cells of one window to its ids, and from
the closed windows to all recorded arrivals, each of which lies in one window and has one id.
-/

namespace ArrivalRates

open Arrivals

/-! ### Counting by classes -/

theorem sum_ite_eq_count {κ : Type} [DecidableEq κ] (classes : List κ) (k : κ) :
    (classes.map fun other => if k = other then 1 else 0).sum = classes.count k := by
  induction classes with
  | nil => rfl
  | cons other rest ih =>
    rw [List.map_cons, List.sum_cons, ih, List.count_cons, Nat.add_comm]
    simp only [beq_iff_eq, @eq_comm _ k]

/-- Counting the elements of each of some classes counts the elements of all of them. -/
theorem sum_countP_classes {α κ : Type} [DecidableEq κ] (key : α → κ) (p : α → Bool)
    {classes : List κ} (nodup : classes.Nodup) (l : List α) :
    (classes.map fun k => l.countP fun a => p a && decide (key a = k)).sum =
      l.countP fun a => p a && decide (key a ∈ classes) := by
  induction l with
  | nil => simp
  | cons a rest ih =>
    simp only [List.countP_cons, List.sum_map_add, ih]
    congr 1
    cases p a with
    | false => simp
    | true =>
      simp only [Bool.true_and, decide_eq_true_eq]
      rw [sum_ite_eq_count, nodup.count]

/-! ### One window -/

namespace Arrivals

variable {slots size start : Int} {arrivals : List Arrival} {arrival : Arrival}
  {messageId : String}

/-- No cell for the arrivals has reached the largest count. -/
def Unsaturated (arrivals : List Arrival) : Prop :=
  ∀ messageId start, bucketMillis ∣ start → cell arrivals messageId start < maxCount

theorem unsaturated_nil : Unsaturated [] := by
  intro messageId start _
  have none : within start (start + bucketMillis) [] = [] := rfl
  rw [cell, none, List.countP_nil]
  decide

theorem Unsaturated.of_sublist {others : List Arrival} (room : Unsaturated arrivals)
    (part : others.Sublist arrivals) : Unsaturated others := by
  intro messageId start aligned
  refine lt_of_le_of_lt ?_ (room messageId start aligned)
  have fewer := (part.filter fun arrival =>
    decide (start ≤ arrival.moment ∧ arrival.moment < start + bucketMillis)).countP_le
      (p := fun arrival => decide (arrival.messageId = messageId))
  exact min_le_min_left _ (Int.ofNat_le.2 fewer)

/-- The bucket of a cell may be cut out of a longer period first. -/
theorem cell_within {first stop : Int} (low : first ≤ start) (high : start + bucketMillis ≤ stop)
    (arrivals : List Arrival) (messageId : String) :
    cell (within first stop arrivals) messageId start = cell arrivals messageId start := by
  rw [cell, cell, within_within low high]

/-- While no cell is full, the cells of an id hold all of its arrivals. -/
theorem sum_counts (aligned : bucketMillis ∣ start)
    (inside : ∀ arrival ∈ arrivals,
      start ≤ arrival.moment ∧ arrival.moment < start + slots * bucketMillis)
    (room : Unsaturated arrivals) (messageId : String) :
    (counter slots start arrivals messageId).counts.sum =
      arrivals.countP fun arrival => arrival.messageId = messageId := by
  induction arrivals using List.reverseRecOn with
  | nil => rw [counts_of_not_mem (by simp)]; simp
  | append_singleton arrivals arrival ih =>
    have before := ih (fun other member => inside other (List.mem_append_left _ member))
      (room.of_sublist (List.sublist_append_left ..))
    rw [List.countP_append, List.countP_singleton]
    by_cases same : arrival.messageId = messageId
    · subst same
      obtain ⟨low, high⟩ := inside arrival List.mem_concat_self
      rw [sum_counts_concat low high, before]
      · simp
      · intro count member
        obtain ⟨i, -, rfl⟩ := List.mem_map.1 member
        exact room _ _ (Int.dvd_add aligned (Int.dvd_mul_left ..))
    · rw [counts_concat_of_ne (Ne.symm same), before]
      simp [same]

/-- The sub-intervals of a window hold the arrivals of the ids of each kind. -/
theorem sum_totalIn (aligned : bucketMillis ∣ start) (positive : 1 ≤ size) (divides : size ∣ slots)
    (nonneg : 0 ≤ slots)
    (inside : ∀ arrival ∈ arrivals,
      start ≤ arrival.moment ∧ arrival.moment < start + slots * bucketMillis)
    (room : Unsaturated arrivals) (secondary : Bool) :
    ((List.range (slots / size).toNat).map fun (i : Nat) =>
        totalIn secondary (start + i * (size * bucketMillis)) size arrivals).sum =
      (arrivals.countP fun arrival =>
        isSecondary arrivals arrival.messageId = secondary : Nat) := by
  generalize of_kind : (ids arrivals).filter (fun id => isSecondary arrivals id = secondary) =
    classes
  have nodup : classes.Nodup := of_kind ▸ (nodup_ids arrivals).filter _
  have kinds : ∀ arrival ∈ arrivals, arrival.messageId ∈ classes ↔
      isSecondary arrivals arrival.messageId = secondary := by
    intro arrival member
    have known : arrival.messageId ∈ ids arrivals := mem_ids.2 ⟨arrival, member, rfl⟩
    simp [← of_kind, known]
  have cells : ∀ i ∈ List.range (slots / size).toNat,
      totalIn secondary (start + i * (size * bucketMillis)) size arrivals =
        Rollup.totalAt (tally slots start arrivals) secondary size i := by
    intro i member
    rw [List.mem_range] at member
    exact (totalAt_tally positive (Int.mul_le_of_le_ediv (by omega) (by omega)) secondary).symm
  have held : ∀ id, ((List.range (slots / size).toNat).map
      ((counter slots start arrivals id).sumAt size)).sum =
        ((arrivals.countP fun arrival => arrival.messageId = id : Nat) : Int) := by
    intro id
    rw [Counter.sum_sumAt_of_dvd positive divides nonneg (by simp [counter]),
      sum_counts aligned inside room]
  calc _ = ((List.range (slots / size).toNat).map fun i =>
          Rollup.totalAt (tally slots start arrivals) secondary size i).sum :=
        congrArg List.sum (List.map_congr_left cells)
    _ = (classes.map fun id => ((List.range (slots / size).toNat).map
          ((counter slots start arrivals id).sumAt size)).sum).sum := by
        unfold Rollup.totalAt
        rw [Rollup.sum_sumAt_comm, tally, List.filter_map, List.map_map, ← of_kind]
        rfl
    _ = ((classes.map fun id => arrivals.countP fun arrival => arrival.messageId = id).sum :
          Nat) := by
        rw [Nat.cast_list_sum, List.map_map]
        exact congrArg List.sum (List.map_congr_left fun id _ => held id)
    _ = _ := by
        have counted := sum_countP_classes (·.messageId) (fun _ => true) nodup arrivals
        simp only [Bool.true_and] at counted
        rw [counted]
        congr 1
        exact List.countP_congr fun arrival member => by simpa using kinds arrival member

end Arrivals

/-! ### The closed windows -/

namespace Config

theorem Accepted.windowStart_eq_iff {config : Config} (accepted : config.Accepted)
    {start moment : Int} (aligned : config.windowMillis ∣ start) :
    config.windowStart moment = start ↔
      start ≤ moment ∧ moment < start + config.windowMillis := by
  constructor
  · rintro rfl
    exact ⟨accepted.windowStart_le moment, accepted.lt_windowStart_add moment⟩
  · rintro ⟨low, high⟩
    exact congrArg Span.start (Span.around_eq accepted.windowMillis_pos aligned low high)

/-- Whether an arrival counts as a secondary one: as the first one of its id in its window was. -/
def countsSecondary (config : Config) (recorded : List Arrival) (arrival : Arrival) : Bool :=
  let start := config.windowStart arrival.moment
  isSecondary (within start (start + config.windowMillis) recorded) arrival.messageId

end Config

def Interval.totalOf (secondary : Bool) (value : Interval) : Int :=
  if secondary then value.secondaryTotal else value.primaryTotal

namespace Arrivals

variable {config : Config} {recorded : List Arrival} {closed : List Int} {size : Int}

/-- A closed window holds the arrivals in it that count for a kind. -/
theorem sum_intervals (accepted : config.Accepted) (known : size ∈ config.sizes)
    (room : Unsaturated recorded) {start : Int} (aligned : config.windowMillis ∣ start)
    (secondary : Bool) :
    ((intervals config.slots size recorded start).map (Interval.totalOf secondary)).sum =
      (recorded.countP fun arrival =>
        decide (config.countsSecondary recorded arrival = secondary) &&
          decide (config.windowStart arrival.moment = start) : Nat) := by
  obtain ⟨positive, divides⟩ := accepted.size_spec size known
  have nonneg : 0 ≤ config.slots := by have := accepted.slots; omega
  have buckets : bucketMillis ∣ start := dvd_trans (Int.dvd_mul_left ..) aligned
  have totals : ∀ i : Nat, (interval size (start + i * (size * bucketMillis))
      (within start (start + config.slots * bucketMillis) recorded)).totalOf secondary =
        totalIn secondary (start + i * (size * bucketMillis)) size
          (within start (start + config.slots * bucketMillis) recorded) := by
    intro i
    cases secondary <;> rfl
  rw [intervals, List.map_map]
  refine (congrArg List.sum (List.map_congr_left fun i _ => totals i)).trans ?_
  rw [sum_totalIn buckets positive divides nonneg (fun _ member => (mem_within.1 member).2)
    (room.of_sublist List.filter_sublist), within, List.countP_filter, ← within]
  congr 1
  refine List.countP_congr fun arrival _ => ?_
  rw [← Bool.decide_and, ← Bool.decide_and, decide_eq_true_iff, decide_eq_true_iff,
    accepted.windowStart_eq_iff aligned]
  refine and_congr_left fun inside => ?_
  rw [Config.countsSecondary, (accepted.windowStart_eq_iff aligned).2 inside]
  rfl

/-- All closed windows together hold the arrivals in them that count for a kind. -/
theorem sum_closed (accepted : config.Accepted) (known : size ∈ config.sizes)
    (room : Unsaturated recorded) (nodup : closed.Nodup)
    (aligned : ∀ start ∈ closed, config.windowMillis ∣ start) (secondary : Bool) :
    ((closed.flatMap (intervals config.slots size recorded)).map
        (Interval.totalOf secondary)).sum =
      ((Chronicle.inWindows config.windowMillis closed recorded).countP fun arrival =>
        config.countsSecondary recorded arrival = secondary : Nat) := by
  have closing : ∀ arrival ∈ recorded, (config.windowStart arrival.moment ∈ closed ↔
      (closed.any fun start => decide (start ≤ arrival.moment ∧
        arrival.moment < start + config.windowMillis)) = true) := by
    intro arrival _
    rw [List.any_eq_true]
    constructor
    · intro member
      exact ⟨_, member, decide_eq_true ((accepted.windowStart_eq_iff (aligned _ member)).1 rfl)⟩
    · rintro ⟨start, member, inside⟩
      rwa [(accepted.windowStart_eq_iff (aligned start member)).2 (of_decide_eq_true inside)]
  calc _ = (closed.map fun start =>
            ((intervals config.slots size recorded start).map
              (Interval.totalOf secondary)).sum).sum := by
        rw [List.map_flatMap, List.flatMap_def, List.sum_flatten, List.map_map]
        rfl
    _ = ((closed.map fun start => recorded.countP fun arrival =>
          decide (config.countsSecondary recorded arrival = secondary) &&
            decide (config.windowStart arrival.moment = start)).sum : Nat) := by
        rw [Nat.cast_list_sum, List.map_map]
        exact congrArg List.sum (List.map_congr_left fun start member =>
          sum_intervals accepted known room (aligned start member) secondary)
    _ = _ := by
        rw [sum_countP_classes (fun arrival => config.windowStart arrival.moment)
          (fun arrival => decide (config.countsSecondary recorded arrival = secondary)) nodup,
          Chronicle.inWindows, List.countP_filter]
        congr 1
        refine List.countP_congr fun arrival member => ?_
        rw [Bool.and_eq_true, Bool.and_eq_true, decide_eq_true_iff, decide_eq_true_iff,
          closing arrival member]

end Arrivals

/-! ### Cells of a run -/

namespace Tracker

variable {config : Config} {recorded : List Arrival} {closed : List Int} {window : Window}
  {span : Span}

/-- A bucket that has a moment of the current window lies in it. -/
theorem Current.bucket_inside (current : Current config recorded closed window span)
    {start moment : Int} (aligned : bucketMillis ∣ start)
    (low : span.start ≤ moment) (high : moment < span.stop)
    (inside : start ≤ moment ∧ moment < start + bucketMillis) :
    span.start ≤ start ∧ start + bucketMillis ≤ span.stop := by
  obtain ⟨k, rfl⟩ := aligned
  obtain ⟨m, first⟩ := dvd_trans (Int.dvd_mul_left ..) current.aligned
  have stop : span.stop = span.start + config.slots * bucketMillis := current.stop_eq
  unfold bucketMillis at *
  omega

/-- The counters of the current window tell which of its cells are full. -/
theorem Current.cell_lt (current : Current config recorded closed window span)
    (room : window.Unsaturated) {start : Int} (aligned : bucketMillis ∣ start)
    (low : span.start ≤ start) (last : start + bucketMillis ≤ span.stop) (messageId : String) :
    cell recorded messageId start < maxCount := by
  have stop : span.stop = span.start + config.slots * bucketMillis := current.stop_eq
  rw [← cell_within low (last.trans_eq current.stop_eq)]
  by_cases known :
      messageId ∈ ids (within span.start (span.start + config.windowMillis) recorded)
  · unfold Window.Unsaturated at room
    rw [current.counters_eq] at room
    obtain ⟨k, rfl⟩ := aligned
    obtain ⟨m, first⟩ := dvd_trans (Int.dvd_mul_left ..) current.aligned
    refine room _ (List.mem_map_of_mem known) _ (List.mem_map.2 ⟨(k - m).toNat, ?_, ?_⟩)
    · rw [List.mem_range]
      unfold bucketMillis at *
      omega
    · congr 1
      unfold bucketMillis at *
      omega
  · by_contra full
    have positive := lt_of_lt_of_le (by decide : 0 < maxCount) (not_lt.1 full)
    obtain ⟨other, member, same⟩ := mem_ids.1 (cell_pos_iff.1 positive)
    exact known (mem_ids.2 ⟨other, (mem_within.1 member).1, same⟩)

theorem Tallies.unsaturated_deliver {source : String} {tracker : Tracker} {arrival : Arrival}
    (tallies : Tallies source config recorded closed tracker) (accepted : config.Accepted)
    (before : Unsaturated recorded)
    (room : (tracker.deliver arrival).state.window.Unsaturated) :
    Unsaturated (if (tracker.deliver arrival).accepted then recorded ++ [arrival]
      else recorded) := by
  obtain ⟨delivery, after⟩ := tallies.deliver accepted arrival
  split
  next answer =>
    rw [if_pos answer] at after
    obtain ⟨span, placed⟩ := Option.ne_none_iff_exists'.1 delivery.active
    have current := after.current span placed
    have high := current.recorded_lt arrival List.mem_concat_self
    have low := tallies.start_le_of_recorded accepted (Outcome.result_of_accepted answer) placed
    intro messageId start aligned
    by_cases inside : start ≤ arrival.moment ∧ arrival.moment < start + bucketMillis
    · obtain ⟨first, last⟩ := current.bucket_inside aligned low high inside
      exact current.cell_lt room aligned first last messageId
    · -- the cell is not the one that the arrival enters
      rw [cell_concat, if_neg fun counted => inside counted.2]
      exact before messageId start aligned
  · exact before

end Tracker

namespace Chronicle

variable {source : String} {config : Config}

/-- If no cell of the current window is ever full, none is of a window that was closed. -/
theorem unsaturated_ofArrivals (accepted : config.Accepted) (arrivals : List Arrival)
    (room : ∀ earlier, earlier <+: arrivals →
      (ofArrivals source config earlier).tracker.window.Unsaturated) :
    Unsaturated (ofArrivals source config arrivals).recorded := by
  induction arrivals using List.reverseRecOn with
  | nil => exact unsaturated_nil
  | append_singleton arrivals arrival ih =>
    have before := ih fun earlier part => room earlier (part.trans (List.prefix_append ..))
    have now := room _ (List.prefix_refl _)
    rw [ofArrivals_concat] at now ⊢
    have sound : (ofArrivals source config arrivals).Sound source config :=
      sound_ofArrivals accepted arrivals
    exact Tracker.Tallies.unsaturated_deliver sound accepted before now

/-- If the arrivals of an id have one kind within a window, each counts under its own. -/
theorem countsSecondary_eq (accepted : config.Accepted) {recorded : List Arrival}
    {closed : List Int} (aligned : ∀ start ∈ closed, config.windowMillis ∣ start)
    (uniform : ∀ a ∈ inWindows config.windowMillis closed recorded,
      ∀ b ∈ inWindows config.windowMillis closed recorded, a.messageId = b.messageId →
        config.windowStart a.moment = config.windowStart b.moment → a.secondary = b.secondary)
    {arrival : Arrival} (member : arrival ∈ inWindows config.windowMillis closed recorded) :
    config.countsSecondary recorded arrival = arrival.secondary := by
  obtain ⟨earlier, start, closing, inside⟩ := mem_inWindows.1 member
  have here := (accepted.windowStart_eq_iff (aligned start closing)).2 inside
  rw [Config.countsSecondary, here, isSecondary]
  cases found : (within start (start + config.windowMillis) recorded).find?
      fun other => other.messageId = arrival.messageId with
  | none =>
    have absent := List.find?_eq_none.1 found arrival (mem_within.2 ⟨earlier, inside⟩)
    simp at absent
  | some first =>
    have same : first.messageId = arrival.messageId := by simpa using List.find?_some found
    obtain ⟨there, within'⟩ := mem_within.1 (List.mem_of_find?_eq_some found)
    have together := (accepted.windowStart_eq_iff (aligned start closing)).2 within'
    exact uniform first (mem_inWindows.2 ⟨there, start, closing, within'⟩) arrival member same
      (together.trans here.symm)

/-- As long as no cell is full, the totals of each size are the numbers of arrivals in the closed
windows that count as primary and as secondary, as the first of their ids in their windows were. If
no id changes its kind within a window, these are the arrivals of each kind. -/
theorem totals_of_kinds (source : String) (accepted : config.Accepted) (arrivals : List Arrival)
    (room : ∀ earlier, earlier <+: arrivals →
      (ofArrivals source config earlier).tracker.window.Unsaturated) :
    let run := ofArrivals source config arrivals
    let counted := inWindows config.windowMillis run.closed run.recorded
    ∀ stats ∈ run.tracker.statistics,
      stats.secondaryTotal = counted.countP (config.countsSecondary run.recorded) ∧
      stats.primaryTotal =
        counted.countP (fun arrival => !config.countsSecondary run.recorded arrival) ∧
      ((∀ a ∈ counted, ∀ b ∈ counted, a.messageId = b.messageId →
          config.windowStart a.moment = config.windowStart b.moment →
            a.secondary = b.secondary) →
        stats.secondaryTotal = counted.countP (·.secondary) ∧
          stats.primaryTotal = counted.countP fun arrival => !arrival.secondary) := by
  intro run counted stats member
  have sound : run.Sound source config := sound_ofArrivals accepted arrivals
  have unsaturated : Unsaturated run.recorded := unsaturated_ofArrivals accepted arrivals room
  obtain ⟨ordered, aligned⟩ := sound.closed_spec
  have nodup : run.closed.Nodup := ordered.imp fun before => before.ne
  rw [sound.statistics_eq, List.mem_map] at member
  obtain ⟨size, known, rfl⟩ := member
  have totals := sum_closed accepted known unsaturated nodup aligned
  have secondary : (Statistics.batch config.slots run.closed run.recorded size).secondaryTotal =
      counted.countP (config.countsSecondary run.recorded) := by
    have total := totals true
    simp only [Bool.decide_eq_true] at total
    exact total
  have primary : (Statistics.batch config.slots run.closed run.recorded size).primaryTotal =
      counted.countP fun arrival => !config.countsSecondary run.recorded arrival := by
    have total := totals false
    simp only [Bool.decide_eq_false] at total
    exact total
  refine ⟨secondary, primary, fun uniform => ?_⟩
  have own : ∀ arrival ∈ counted,
      config.countsSecondary run.recorded arrival = arrival.secondary :=
    fun _ => countsSecondary_eq accepted aligned uniform
  rw [secondary, primary]
  constructor <;> congr 1 <;>
    exact List.countP_congr fun arrival member => by rw [own arrival member]

/-- A secondary arrival counts as primary where its id began as primary. -/
theorem secondary_counted_as_primary :
    let arrivals : List Arrival := [⟨"a", 0, false⟩, ⟨"a", 1, true⟩, ⟨"b", 7200000, false⟩]
    let run := ofArrivals "gate" Config.standard arrivals
    let counted := inWindows Config.standard.windowMillis run.closed run.recorded
    Config.standard.Accepted ∧
      (∀ earlier ∈ arrivals.inits,
        (ofArrivals "gate" Config.standard earlier).tracker.window.Unsaturated) ∧
      run.failures = [] ∧ run.lastReset = none ∧ run.closed = [0] ∧
      counted.countP (·.secondary) = 1 ∧ counted.countP (fun arrival => !arrival.secondary) = 1 ∧
      ∀ stats ∈ run.tracker.statistics, stats.secondaryTotal = 0 ∧ stats.primaryTotal = 2 := by
  exact ⟨⟨by decide, rfl⟩, by decide +kernel, by decide +kernel, by decide +kernel,
    by decide +kernel, by decide +kernel, by decide +kernel, by decide +kernel⟩

/-- Two ids of one kind each. -/
theorem totals_of_kinds_apart :
    let arrivals : List Arrival :=
      [⟨"a", 0, false⟩, ⟨"b", 1, true⟩, ⟨"a", 600000, false⟩, ⟨"b", 600001, true⟩,
        ⟨"a", 1200000, false⟩, ⟨"b", 7200000, false⟩]
    let run := ofArrivals "gate" Config.standard arrivals
    Config.standard.Accepted ∧
      (∀ earlier, earlier <+: arrivals →
        (ofArrivals "gate" Config.standard earlier).tracker.window.Unsaturated) ∧
      run.closed = [0] ∧
      ∀ stats ∈ run.tracker.statistics, stats.secondaryTotal = 2 ∧ stats.primaryTotal = 3 := by
  intro arrivals run
  have accepted : Config.standard.Accepted := ⟨by decide, rfl⟩
  have room : ∀ earlier, earlier <+: arrivals →
      (ofArrivals "gate" Config.standard earlier).tracker.window.Unsaturated := by
    intro earlier before
    have checked : ∀ earlier ∈ arrivals.inits,
        (ofArrivals "gate" Config.standard earlier).tracker.window.Unsaturated := by
      decide +kernel
    exact checked earlier ((List.mem_inits ..).2 before)
  refine ⟨accepted, room, by decide +kernel, fun stats member => ?_⟩
  have uniform : ∀ a ∈ inWindows Config.standard.windowMillis run.closed run.recorded,
      ∀ b ∈ inWindows Config.standard.windowMillis run.closed run.recorded,
        a.messageId = b.messageId →
          Config.standard.windowStart a.moment = Config.standard.windowStart b.moment →
            a.secondary = b.secondary := by decide +kernel
  obtain ⟨-, -, own⟩ := totals_of_kinds "gate" accepted arrivals room stats member
  obtain ⟨secondary, primary⟩ := own uniform
  rw [secondary, primary]
  decide +kernel

end Chronicle

end ArrivalRates
