import ArrivalRates.Proofs.Calls

/-!
# No recorded arrival is lost or counted twice

A recorded arrival is first held by a cell of the current window. A rollover adds the cells to the
totals of every size and a reset throws the totals away after they were reported, so for each size
the number of recorded arrivals is always the sum of three: what resets threw away, what the
statistics hold and what the cells hold. One step lemma says so for each way in which a tracker can
be brought to an arrival, one for counting it. A cell that stops at the largest count is the only
thing that loses an arrival, so runs are looked at in which no cell gets there.
-/

namespace ArrivalRates

/-! ### Cells -/

namespace Counter

theorem toNat_natCast_mul (n : Nat) {size : Int} (positive : 1 ≤ size) :
    ((n : Int) * size).toNat = n * size.toNat := by
  rw [Int.toNat_mul (by omega) (by omega), Int.toNat_natCast]

theorem sum_sumAt (counter : Counter) {size : Int} (positive : 1 ≤ size) (n : Nat) :
    ((List.range n).map (counter.sumAt size)).sum =
      (counter.counts.take (n * size.toNat)).sum := by
  induction n with
  | zero => simp
  | succ n ih =>
    rw [List.range_succ, List.map_append, List.sum_append, ih, List.map_singleton,
      List.sum_singleton, sumAt, sumFrom, ← List.sum_eq_foldr, toNat_natCast_mul n positive,
      Nat.succ_mul, List.take_add, List.sum_append]

theorem sum_sumAt_of_dvd {counter : Counter} {slots size : Int} (positive : 1 ≤ size)
    (divides : size ∣ slots) (nonneg : 0 ≤ slots)
    (wide : counter.counts.length = slots.toNat) :
    ((List.range (slots / size).toNat).map (counter.sumAt size)).sum = counter.counts.sum := by
  have whole : (slots / size).toNat * size.toNat = slots.toNat := by
    rw [← Int.toNat_mul (Int.ediv_nonneg nonneg (by omega)) (by omega),
      Int.ediv_mul_cancel divides]
  rw [sum_sumAt counter positive, whole, ← wide, List.take_length]

theorem sum_modify_increment {counts : List Int} {i : Nat} (inside : i < counts.length)
    (room : counts[i] < maxCount) : (counts.modify i increment).sum = counts.sum + 1 := by
  have counted : increment counts[i] = counts[i] + 1 := if_pos room
  have split := List.sum_take_add_sum_drop counts i
  rw [List.drop_eq_getElem_cons inside, List.sum_cons] at split
  rw [List.modify_eq_take_cons_drop inside, List.sum_append, List.sum_cons, counted]
  omega

end Counter

namespace Window

def cellSum (counters : List Counter) : Int := (counters.map fun counter => counter.counts.sum).sum

/-- No cell has reached the largest count. -/
def Unsaturated (window : Window) : Prop :=
  ∀ counter ∈ window.counters, ∀ count ∈ counter.counts, count < maxCount

instance (window : Window) : Decidable window.Unsaturated :=
  inferInstanceAs (Decidable (∀ counter ∈ window.counters, ∀ count ∈ counter.counts,
    count < maxCount))

end Window

/-! ### Totals -/

namespace Statistics

def total (stats : Statistics) : Int := stats.primaryTotal + stats.secondaryTotal

theorem total_foldl_add (stats : Statistics) (values : List Interval) :
    (values.foldl add stats).total =
      stats.total + (values.map fun value => value.primaryTotal + value.secondaryTotal).sum := by
  induction values generalizing stats with
  | nil => simp
  | cons value rest ih =>
    rw [List.foldl_cons, ih, List.map_cons, List.sum_cons]
    simp only [total, add]
    omega

theorem total_absorbRollup (stats : Statistics) (rollup : Rollup) :
    (stats.absorbRollup rollup).total = stats.total +
      (rollup.intervals.map fun value => value.primaryTotal + value.secondaryTotal).sum :=
  total_foldl_add _ rollup.intervals

end Statistics

namespace Rollup

theorem totalAt_add_totalAt (counters : List Counter) (size : Int) (i : Nat) :
    totalAt counters false size i + totalAt counters true size i =
      (counters.map (·.sumAt size i)).sum := by
  induction counters using List.reverseRecOn with
  | nil => rfl
  | append_singleton counters counter ih =>
    rw [totalAt_concat, totalAt_concat, List.map_append, List.sum_append, ← ih,
      List.map_singleton, List.sum_singleton]
    cases counter.secondary with
    | false => rw [if_pos rfl, if_neg (by decide)]; omega
    | true => rw [if_neg (by decide), if_pos rfl]; omega

/-- The cells of some counters, added up by sub-intervals or by counters. -/
theorem sum_sumAt_comm (counters : List Counter) (size : Int) (n : Nat) :
    ((List.range n).map fun i => (counters.map (·.sumAt size i)).sum).sum =
      (counters.map fun counter => ((List.range n).map (counter.sumAt size)).sum).sum := by
  induction counters with
  | nil => simp
  | cons counter rest ih => simp only [List.map_cons, List.sum_cons, List.sum_map_add, ih]

theorem sum_totals (counters : List Counter) (size : Int) (n : Nat) :
    ((List.range n).map fun i =>
        totalAt counters false size i + totalAt counters true size i).sum =
      (counters.map fun counter => ((List.range n).map (counter.sumAt size)).sum).sum := by
  simp only [totalAt_add_totalAt]
  exact sum_sumAt_comm counters size n

end Rollup

theorem Statistics.total_absorb_cells {counters : List Counter} {slots size : Int}
    (stats : Statistics) (positive : 1 ≤ size) (divides : size ∣ slots) (nonneg : 0 ≤ slots)
    (wide : ∀ counter ∈ counters, counter.counts.length = slots.toNat) :
    (stats.absorbRollup (Rollup.ofCounters size (slots / size).toNat counters)).total =
      stats.total + Window.cellSum counters := by
  rw [total_absorbRollup, Rollup.intervals_ofCounters, List.map_map]
  congr 1
  refine (Rollup.sum_totals counters size _).trans (congrArg List.sum ?_)
  exact List.map_congr_left fun counter member =>
    Counter.sum_sumAt_of_dvd positive divides nonneg (wide counter member)

/-! ### Recording -/

namespace Arrivals

variable {slots start : Int} {arrivals : List Arrival} {arrival : Arrival}

theorem counts_concat_of_ne {messageId : String} (differ : messageId ≠ arrival.messageId) :
    (counter slots start (arrivals ++ [arrival]) messageId).counts =
      (counter slots start arrivals messageId).counts := by
  have other : arrival.messageId ≠ messageId := fun same => differ same.symm
  simp only [counter, cell_concat, other, false_and, if_false]

theorem sum_counts_concat (low : start ≤ arrival.moment)
    (high : arrival.moment < start + slots * bucketMillis)
    (room : ∀ count ∈ (counter slots start (arrivals ++ [arrival]) arrival.messageId).counts,
      count < maxCount) :
    (counter slots start (arrivals ++ [arrival]) arrival.messageId).counts.sum =
      (counter slots start arrivals arrival.messageId).counts.sum + 1 := by
  rw [← counts_concat low] at room ⊢
  have inside : ((arrival.moment - start) / bucketMillis).toNat <
      (counter slots start arrivals arrival.messageId).counts.length := by
    simp only [counter, List.length_map, List.length_range]
    unfold bucketMillis at *
    omega
  refine Counter.sum_modify_increment inside ?_
  refine Int.lt_of_le_of_lt (Counter.le_increment _) (room _ (List.mem_iff_getElem.2 ?_))
  exact ⟨_, by simpa using inside, by rw [List.getElem_modify_eq]⟩

theorem cellSum_tally_concat (low : start ≤ arrival.moment)
    (high : arrival.moment < start + slots * bucketMillis)
    (room : ∀ counter ∈ tally slots start (arrivals ++ [arrival]), ∀ count ∈ counter.counts,
      count < maxCount) :
    Window.cellSum (tally slots start (arrivals ++ [arrival])) =
      Window.cellSum (tally slots start arrivals) + 1 := by
  have known : arrival.messageId ∈ ids (arrivals ++ [arrival]) :=
    mem_ids.2 ⟨arrival, by simp, rfl⟩
  -- the cells of an id that has not arrived hold nothing, so both sums are over the later ids
  have before : Window.cellSum (tally slots start arrivals) =
      ((ids (arrivals ++ [arrival])).map fun id =>
        (counter slots start arrivals id).counts.sum).sum := by
    rw [Window.cellSum, tally, List.map_map, ids_concat]
    split
    · rfl
    next new =>
      rw [List.map_append, List.sum_append, List.map_singleton, List.sum_singleton,
        counts_of_not_mem new, List.sum_replicate, nsmul_zero, Int.add_zero]
      rfl
  have after : Window.cellSum (tally slots start (arrivals ++ [arrival])) =
      ((ids (arrivals ++ [arrival])).map fun id => if id = arrival.messageId then
        (counter slots start arrivals id).counts.sum + 1
        else (counter slots start arrivals id).counts.sum).sum := by
    rw [Window.cellSum, tally, List.map_map]
    refine congrArg List.sum (List.map_congr_left fun id member => ?_)
    simp only [Function.comp_apply]
    split
    next same =>
      subst same
      exact sum_counts_concat low high (room _ (List.mem_map_of_mem member))
    next differ => rw [counts_concat_of_ne differ]
  have once : (ids (arrivals ++ [arrival])).count arrival.messageId = 1 :=
    List.count_eq_one_of_mem (nodup_ids _) known
  rw [after, before, List.sum_map_ite_eq, once, one_nsmul]
  omega

end Arrivals

/-! ### One call -/

namespace Statistics

/-- The arrivals of both kinds in the `i`-th of some statistics. -/
def totalOf (statistics : List Statistics) (i : Nat) : Int := (statistics.map total).getD i 0

theorem totalOf_map {sizes : List Int} {i : Nat} (inside : i < sizes.length)
    (f : Int → Statistics) : totalOf (sizes.map f) i = (f sizes[i]).total := by
  simp [totalOf, inside]

end Statistics

open Statistics

namespace Tracker

variable {source : String} {config : Config} {recorded : List Arrival} {closed : List Int}
  {tracker : Tracker} {arrival : Arrival} {i : Nat}

/-- The arrivals that are in the statistics of the `i`-th size or still in the cells. -/
def held (tracker : Tracker) (i : Nat) : Int :=
  totalOf tracker.statistics i + Window.cellSum tracker.window.counters

theorem totalOf_freshStatistics (inside : i < config.sizes.length) :
    totalOf (freshStatistics config) i = 0 :=
  totalOf_map inside _

theorem statistics_rollover (sound : tracker.WellPlaced) (moment : Int) :
    tracker.rollover.state.statistics = (tracker.rolledTo moment).statistics := by
  rw [rollover, Window.rollup_eq sound.sizes sound.wide]
  rfl

namespace Tallies

theorem length_counts (tallies : Tallies source config recorded closed tracker) :
    ∀ counter ∈ tracker.window.counters, counter.counts.length = config.slots.toNat := by
  intro counter member
  cases placed : tracker.window.span with
  | none =>
    rw [(tallies.inactive placed).2.2] at member
    cases member
  | some span =>
    rw [(tallies.current span placed).counters_eq, Arrivals.tally, List.mem_map] at member
    obtain ⟨id, -, rfl⟩ := member
    simp [Arrivals.counter]

/-- A rollover moves the cells into the statistics of every size. -/
theorem held_rolledTo (tallies : Tallies source config recorded closed tracker)
    (accepted : config.Accepted) (inside : i < config.sizes.length) (moment : Int) :
    (tracker.rolledTo moment).held i = tracker.held i := by
  have nonneg : 0 ≤ config.slots := by have := accepted.slots; omega
  obtain ⟨positive, divides⟩ := accepted.size_spec _ (List.getElem_mem inside)
  have emptied : Window.cellSum (tracker.rolledTo moment).window.counters = 0 := rfl
  rw [held, emptied, Int.add_zero, Tracker.rolledTo, held, tallies.statistics_eq, tallies.config_eq,
    tallies.slots_eq, List.zipWith_map, List.zipWith_self, totalOf_map inside, totalOf_map inside]
  exact total_absorb_cells _ positive divides nonneg tallies.length_counts

theorem held_due (tallies : Tallies source config recorded closed tracker)
    (inside : i < config.sizes.length) {moment : Int} {outcome : Outcome Tracker Unit}
    (due : Due tracker moment outcome) :
    outcome.state.held i +
      (if tracker.resetEntry ∈ outcome.entries then totalOf tracker.statistics i else 0) =
        tracker.held i := by
  cases due with
  | undecided | quiet | unstamped => simp [Outcome.done, Outcome.failed]
  | unwritten => simp [resetEntry_not_mem]
  | @reported decision =>
    cases reset : decision.reset with
    | false => simp [resetEntry_not_mem, held, Tracker.afterReport, reset]
    | true =>
      have fresh : totalOf (freshStatistics tracker.config) i = 0 := by
        rw [tallies.config_eq]
        exact totalOf_freshStatistics inside
      simp only [held, Tracker.afterReport, reset, if_true, resetStatistics, fresh,
        List.mem_append, List.mem_singleton, or_true]
      omega

theorem held_advance (tallies : Tallies source config recorded closed tracker)
    (accepted : config.Accepted) (inside : i < config.sizes.length) {moment : Int}
    {outcome : Outcome Tracker Unit} (advance : Advance tracker moment outcome) :
    outcome.state.held i +
      (if tracker.resetEntry ∈ outcome.entries then
        totalOf tracker.rollover.state.statistics i else 0) = tracker.held i := by
  cases advance with
  | unstarted | opened | stayed => simp [Outcome.done, Outcome.failed, held, Tracker.placedAt]
  | @moved span _ placed past due =>
    have rolled := tallies.rolledTo accepted placed past
    rw [statistics_rollover (tallies.wellPlaced accepted) moment,
      ← tallies.held_rolledTo accepted inside moment]
    exact rolled.held_due inside due

/-- Counting an arrival that was recorded puts one more into the cells. -/
theorem cellSum_withCounters {index : Int} {counters : List Counter} {answer : Bool} {span : Span}
    (before : Tallies source config recorded closed tracker)
    (after : Tallies source config (if answer then recorded ++ [arrival] else recorded) closed
      (tracker.withCounters index counters))
    (placed : tracker.window.span = some span) (high : arrival.moment < span.stop)
    (low : answer = true → span.start ≤ arrival.moment)
    (room : (tracker.withCounters index counters).window.Unsaturated) :
    Window.cellSum counters =
      Window.cellSum tracker.window.counters + if answer then 1 else 0 := by
  have current := before.current span placed
  have counted : counters = _ := (after.current span placed).counters_eq
  rw [current.counters_eq]
  cases answer with
  | false =>
    rw [counted]
    simp
  | true =>
    have high : arrival.moment < span.start + config.slots * bucketMillis :=
      current.stop_eq ▸ high
    rw [if_pos rfl, Arrivals.within_concat, if_pos ⟨low rfl, high⟩] at counted
    subst counted
    exact Arrivals.cellSum_tally_concat (low rfl) high room

/-- What a call adds to the held arrivals is the one it recorded, less what a reset threw away. -/
theorem held_deliver (tallies : Tallies source config recorded closed tracker)
    (accepted : config.Accepted) (arrival : Arrival) (inside : i < config.sizes.length)
    (room : (tracker.deliver arrival).state.window.Unsaturated) :
    (tracker.deliver arrival).state.held i +
      (if tracker.resetEntry ∈ (tracker.deliver arrival).entries then
        totalOf tracker.rollover.state.statistics i else 0) =
      tracker.held i + if (tracker.deliver arrival).accepted then 1 else 0 := by
  have noted := tallies.noted arrival.moment
  obtain ⟨delivery, after⟩ := tallies.deliver accepted arrival
  -- noting the moment of an arrival changes nothing that a rollover reads
  have thrown : (tracker.noted arrival.moment).rollover.state.statistics =
      tracker.rollover.state.statistics :=
    (statistics_rollover (noted.wellPlaced accepted) arrival.moment).trans
      (statistics_rollover (tallies.wellPlaced accepted) arrival.moment).symm
  generalize tracker.deliver arrival = outcome at *
  cases delivery with
  | @failed brought failure advance fails =>
    have balance := noted.held_advance accepted inside advance
    rw [thrown] at balance
    exact balance.trans (Int.add_zero _).symm
  | @answered brought index counters answer span advance succeeds placed high low =>
    have balance := noted.held_advance accepted inside advance
    rw [thrown] at balance
    have counted := (noted.advance accepted advance).cellSum_withCounters after placed high low room
    have kept : (brought.state.withCounters index counters).held i =
        totalOf brought.state.statistics i + Window.cellSum counters := rfl
    have before : brought.state.held i + (if tracker.resetEntry ∈ brought.entries then
        totalOf tracker.rollover.state.statistics i else 0) = tracker.held i := balance
    rw [kept, counted, ← before, held]
    simp only [Outcome.accepted]
    omega

end Tallies

/-! ### What a reset throws away -/

theorem Advance.of_reset {moment : Int} {outcome : Outcome Tracker Unit}
    (advance : Advance tracker moment outcome) (resets : tracker.resetEntry ∈ outcome.entries) :
    outcome.failure? = none ∧ outcome.state.statistics = freshStatistics tracker.config ∧
      outcome.entries = outcome.lines.map .line ++ [tracker.resetEntry] := by
  cases advance with
  | unstarted | opened | stayed => cases resets
  | moved placed past due =>
    cases due with
    | undecided | quiet | unstamped => cases resets
    | unwritten => exact absurd resets (tracker.resetEntry_not_mem _)
    | @reported decision time lines =>
      have reset : decision.reset = true := (tracker.resetEntry_mem_reported lines _).1 resets
      refine ⟨rfl, ?_, ?_⟩
      · simp only [Tracker.afterReport, reset, if_true]
        rfl
      · rw [Outcome.lines, filterMap_line?_reported, if_pos reset]
        rfl

namespace Tallies

/-- A reset follows a whole report, of the statistics that it throws away. -/
theorem reports_of_reset (tallies : Tallies source config recorded closed tracker)
    (accepted : config.Accepted) (resets : tracker.resetEntry ∈ (tracker.deliver arrival).entries) :
    ∃ span decision time, Reports config recorded closed tracker arrival span decision time ∧
      (tracker.deliver arrival).failure? = none ∧
      tracker.rollover.state.statistics =
        config.sizes.map (Statistics.batch config.slots (closed ++ [span.start]) recorded) ∧
      (tracker.deliver arrival).entries =
        (tracker.deliver arrival).lines.map .line ++ [tracker.resetEntry] ∧
      (tracker.deliver arrival).state.statistics = freshStatistics config := by
  obtain ⟨span, decision, time, reports⟩ :=
    tallies.reports_of_entries accepted (List.ne_nil_of_mem resets)
  have rolled := tallies.rolledTo accepted reports.placed reports.past
  have thrown := statistics_rollover (tallies.wellPlaced accepted) arrival.moment
  refine ⟨span, decision, time, reports, ?_⟩
  rw [thrown, rolled.statistics_eq, ← tallies.config_eq]
  have delivery := (tallies.deliver accepted arrival).1
  generalize tracker.deliver arrival = outcome at delivery resets
  cases delivery with
  | failed advance fails =>
    obtain ⟨fine, fresh, entries⟩ := advance.of_reset resets
    rw [Outcome.failure?, fails] at fine
    cases fine
  | answered advance =>
    obtain ⟨fine, fresh, entries⟩ := advance.of_reset resets
    exact ⟨rfl, rfl, entries, fresh⟩

end Tallies

end Tracker

/-! ### Runs -/

namespace Ledger

variable {source : String} {config : Config} {ledger : Ledger} {i : Nat}

/-- What resets threw away, what the statistics hold and what the cells hold are the arrivals that
were recorded. -/
def Conserves (ledger : Ledger) (i : Nat) : Prop :=
  (ledger.recorded.length : Int) =
    (ledger.discarded.map (totalOf · i)).sum + totalOf ledger.tracker.statistics i +
      Window.cellSum ledger.tracker.window.counters

theorem conserves_perform (accepted : config.Accepted) (sound : ledger.Sound source config)
    (inside : i < config.sizes.length) (call : Call)
    (room : (ledger.perform call).tracker.window.Unsaturated) (conserves : ledger.Conserves i) :
    (ledger.perform call).Conserves i := by
  unfold Conserves at *
  rcases call.arrive_or_other with ⟨arrival, rfl⟩ | other
  · have balance := Tracker.Tallies.held_deliver sound accepted arrival inside room
    have length : ((ledger.perform (.arrive arrival)).recorded.length : Int) =
        ledger.recorded.length + if (ledger.tracker.deliver arrival).accepted then 1 else 0 := by
      rw [recorded_arrive]
      split <;> simp
    have thrown : ((ledger.perform (.arrive arrival)).discarded.map (totalOf · i)).sum =
        (ledger.discarded.map (totalOf · i)).sum +
          if ledger.tracker.resetEntry ∈ (ledger.tracker.deliver arrival).entries then
            totalOf ledger.tracker.rollover.state.statistics i else 0 := by
      rw [discarded_arrive]
      split <;> simp
    unfold Tracker.held at balance
    rw [length, thrown, tracker_perform]
    show _ = _ + totalOf (ledger.tracker.deliver arrival).state.statistics i +
      Window.cellSum (ledger.tracker.deliver arrival).state.window.counters
    omega
  · obtain ⟨_, _, tracker⟩ := ledger.tracker_other other
    rw [ledger.discarded_other other, ledger.recorded_other other, tracker]
    exact conserves

theorem conserves_ofCalls (accepted : config.Accepted) (inside : i < config.sizes.length)
    (calls : List Call)
    (room : ∀ earlier, earlier <+: calls →
      (ofCalls source config earlier).tracker.window.Unsaturated) :
    (ofCalls source config calls).Conserves i := by
  induction calls using List.reverseRecOn with
  | nil =>
    have empty : totalOf (Tracker.freshStatistics config) i = 0 :=
      Tracker.totalOf_freshStatistics inside
    rw [Conserves]
    show 0 = 0 + totalOf (Tracker.freshStatistics config) i + 0
    rw [empty]
    rfl
  | append_singleton calls call ih =>
    have last := room _ (List.prefix_refl _)
    rw [ofCalls_concat] at last ⊢
    apply conserves_perform accepted (sound_ofCalls accepted calls) inside call last
    apply ih
    intro earlier before
    exact room earlier (before.trans (List.prefix_append ..))

theorem sizes_discarded (accepted : config.Accepted) (calls : List Call) :
    ∀ thrown ∈ (ofCalls source config calls).discarded, thrown.map (·.size) = config.sizes := by
  refine (ofCalls_induction
    (motive := fun ledger => ∀ thrown ∈ ledger.discarded, thrown.map (·.size) = config.sizes)
    accepted (fun _ member => by cases member) ?_ calls).2
  intro ledger call sound known
  rcases call.arrive_or_other with ⟨arrival, rfl⟩ | other
  · rw [discarded_arrive]
    split
    next resets =>
      obtain ⟨span, -, -, -, -, batch, -⟩ := Tracker.Tallies.reports_of_reset sound accepted resets
      intro thrown member
      rcases List.mem_append.1 member with earlier | last
      · exact known thrown earlier
      · rw [List.mem_singleton.1 last, batch, List.map_map]
        exact List.map_id _
    · exact known
  · rw [ledger.discarded_other other]
    exact known

/-- At every moment of a run in which no cell is full, each size accounts for every recorded arrival
once: it was thrown away by a reset, or it is in the statistics, or in the cells. What a reset
throws away is what the lines written before it by the same call show, one for each size, with the
two totals at the end. -/
theorem recorded_conserved (source : String) (accepted : config.Accepted) (calls : List Call)
    (room : ∀ earlier, earlier <+: calls →
      (ofCalls source config earlier).tracker.window.Unsaturated) :
    let run := ofCalls source config calls
    (∀ statistics ∈ run.tracker.statistics :: run.discarded,
      statistics.map (·.size) = config.sizes) ∧
    (∀ i < config.sizes.length, (run.recorded.length : Int) =
      (run.discarded.map (totalOf · i)).sum + totalOf run.tracker.statistics i +
        Window.cellSum run.tracker.window.counters) ∧
    ∀ call, run.tracker.resetEntry ∈ (run.tracker.perform call).entries →
      ∃ stamp thrown, (run.perform call).discarded = run.discarded ++ [thrown] ∧
        IsReport source stamp thrown (run.tracker.perform call).lines ∧
        List.Forall₂ (fun stats line => ∃ front, line = front ++
          ", msg1TotalCount=" ++ toString stats.primaryTotal ++
          ", msg2TotalCount=" ++ toString stats.secondaryTotal)
          thrown (run.tracker.perform call).lines ∧
        (run.tracker.perform call).entries =
          (run.tracker.perform call).lines.map .line ++ [run.tracker.resetEntry] ∧
        (run.tracker.perform call).state.statistics = Tracker.freshStatistics config := by
  intro run
  have sound : run.Sound source config := sound_ofCalls accepted calls
  refine ⟨?_, fun i inside => conserves_ofCalls accepted inside calls room, ?_⟩
  · refine List.forall_mem_cons.2 ⟨?_, sizes_discarded accepted calls⟩
    rw [sound.statistics_eq, List.map_map]
    exact List.map_id _
  · intro call resets
    have discarded : (run.perform call).discarded =
        run.discarded ++ [run.tracker.rollover.state.statistics] := if_pos resets
    rcases call.arrive_or_other with ⟨arrival, rfl⟩ | other
    · obtain ⟨span, decision, time, reports, fine, batch, entries, fresh⟩ :=
        Tracker.Tallies.reports_of_reset sound accepted resets
      obtain ⟨date, -, report⟩ := reports.isReport fine
      rw [← batch, sound.source_eq] at report
      have totals := report.imp fun _ _ shown => shown.totals
      exact ⟨_, _, discarded, report, totals, entries, fresh⟩
    · rw [run.discarded_other other] at discarded
      simp at discarded

def secondDays : Config := { Config.standard with frequency := .days 2 }

/-- A report without a reset, one with it, and a call for each other thing that a tracker is
asked. -/
def mixedCalls : List Call :=
  [.arrive ⟨"a", 0, false⟩, .report none, .arrive ⟨"b", 86400000, true⟩, .startLogger 90000000,
    .arrive ⟨"a", 259200000, false⟩, .arrive ⟨"a", 266400000, false⟩]

theorem recorded_conserved_mixed :
    secondDays.Accepted ∧
      (∀ earlier, earlier <+: mixedCalls →
        (ofCalls "gate" secondDays earlier).tracker.window.Unsaturated) ∧
      let run := ofCalls "gate" secondDays mixedCalls
      let before := ofCalls "gate" secondDays (mixedCalls.take 4)
      let outcome := before.tracker.perform (.arrive ⟨"a", 259200000, false⟩)
      run.discarded.map (·.map total) = [[2, 2, 2, 2, 2]] ∧
      run.tracker.statistics.map total = [1, 1, 1, 1, 1] ∧
      (∀ i < 5, 4 = (run.discarded.map (totalOf · i)).sum + totalOf run.tracker.statistics i +
        Window.cellSum run.tracker.window.counters) ∧
      (∃ stamp thrown, run.discarded = [thrown] ∧ IsReport "gate" stamp thrown outcome.lines) ∧
      outcome.lines[4]? = some ("gate, 01/03/1970 23:59:59, IntervalSize=12, " ++
        "msg1UMIDAvgCount=0.50, msg2UMIDAvgCount=0.50, msg1UMIDCount=1, msg2UMIDCount=1, " ++
        "numOfIntervals=2, msg1UMIDStdDev=0.50, msg1UMIDMin=1, msg1UMIDMax=1, " ++
        "zeroCountIntervals=1, msg1TotalCount=1, msg2TotalCount=1") := by
  have accepted : secondDays.Accepted := ⟨by decide, rfl⟩
  have room : ∀ earlier, earlier <+: mixedCalls →
      (ofCalls "gate" secondDays earlier).tracker.window.Unsaturated := by
    intro earlier before
    have checked : ∀ earlier ∈ mixedCalls.inits,
        (ofCalls "gate" secondDays earlier).tracker.window.Unsaturated := by decide +kernel
    exact checked earlier ((List.mem_inits ..).2 before)
  refine ⟨accepted, room, by decide +kernel, by decide +kernel, ?_, ?_, by decide +kernel⟩
  · have recorded : (ofCalls "gate" secondDays mixedCalls).recorded.length = 4 := by decide +kernel
    have conserved := (recorded_conserved "gate" accepted mixedCalls room).2.1
    rw [recorded] at conserved
    exact conserved
  · obtain ⟨stamp, thrown, discarded, report, -⟩ :=
      (recorded_conserved "gate" accepted (mixedCalls.take 4) fun earlier before =>
        room earlier (before.trans (List.take_prefix 4 mixedCalls))).2.2
          (.arrive ⟨"a", 259200000, false⟩) (by decide +kernel)
    have none : (ofCalls "gate" secondDays (mixedCalls.take 4)).discarded = [] := by decide +kernel
    have last : (ofCalls "gate" secondDays mixedCalls).discarded =
        (ofCalls "gate" secondDays (mixedCalls.take 5)).discarded := by decide +kernel
    rw [none] at discarded
    exact ⟨stamp, thrown, last.trans discarded, report⟩

end Ledger

end ArrivalRates
