import ArrivalRates.Proofs.Decision
import ArrivalRates.Proofs.LineText
import ArrivalRates.Proofs.Streaming

/-!
# Calls that write a report

A call writes something only if it closed a window and its schedule found a report due on the local
day of the arrival. The lines it writes are those of the statistics with the closed window counted,
under the stamp of the day before: `Tracker.Reports` says so, and `reports_of_entries` that there is
no other way to write anything. A report that breaks off does so at a quotient that is too large.
-/

namespace ArrivalRates

/-! ### Statistics that cannot be shown -/

theorem quotient_error_eq {a b : Int} {failure : Failure} (divisor : b ≠ 0)
    (fails : quotient a b = .error failure) : failure = .quotientTooLarge := by
  rw [quotient, if_neg divisor] at fails
  split at fails
  · exact (Except.error.inj fails).symm
  · cases fails

/-- A sequence fails in its first part or, with the value of that one, in the rest. -/
private theorem bind_eq_error {α β : Type} {first : Except Failure α} {rest : α → Except Failure β}
    {failure : Failure} (fails : (first >>= rest) = .error failure) :
    first = .error failure ∨ ∃ value, rest value = .error failure := by
  cases first with
  | error cause => cases fails; exact .inl rfl
  | ok value => exact .inr ⟨value, fails⟩

namespace Statistics

variable {stats : Statistics} {failure : Failure}

theorem mean_error_eq {sum : Int} (fails : stats.mean sum = .error failure) :
    failure = .quotientTooLarge := by
  unfold mean at fails
  split at fails
  · cases fails
  next counted => exact quotient_error_eq counted fails

theorem primaryVariance_error_eq (fails : stats.primaryVariance = .error failure) :
    failure = .quotientTooLarge := by
  unfold primaryVariance at fails
  split at fails
  · cases fails
  next counted =>
    rcases bind_eq_error fails with mean | ⟨_, fails⟩
    · exact mean_error_eq mean
    · rcases bind_eq_error fails with squares | ⟨_, fails⟩
      · exact quotient_error_eq counted squares
      · cases fails

theorem render_error_eq (fails : stats.render = .error failure) : failure = .quotientTooLarge := by
  rcases bind_eq_error fails with primary | ⟨_, fails⟩
  · exact mean_error_eq primary
  · rcases bind_eq_error fails with secondary | ⟨_, fails⟩
    · exact mean_error_eq secondary
    · rcases bind_eq_error fails with deviation | ⟨_, fails⟩
      · rcases bind_eq_error deviation with variance | ⟨_, fails⟩
        · exact primaryVariance_error_eq variance
        · cases fails
      · cases fails

end Statistics

/-! ### Statistics that can be shown -/

theorem quotient_of_le {a b : Int} (nonneg : 0 ≤ a) (positive : 0 < b) (small : a ≤ b * 2 ^ 200) :
    ∃ x, quotient a b = .ok x := by
  have divisor : (0 : Rat) < b := by exact_mod_cast positive
  have size : |(a : Rat) / b| ≤ 2 ^ 200 := by
    have small' : (a : Rat) ≤ b * 2 ^ 200 := by exact_mod_cast small
    have nonneg' : (0 : Rat) ≤ a := by exact_mod_cast nonneg
    rw [abs_of_nonneg (div_nonneg nonneg' divisor.le), div_le_iff₀ divisor, mul_comm]
    exact small'
  rcases Binary64.quotient_cases a positive with ⟨-, bound⟩ | finite
  · exact absurd (bound.trans size) (not_le.2 Binary64.two_pow_lt_overflowBound)
  · exact ⟨_, quotient_eq_ok positive.ne' finite⟩

namespace Statistics

variable {slots size : Int} {closed : List Int} {arrivals : List Arrival}

theorem render_of_le {stats : Statistics} (intervals : 0 ≤ stats.intervals)
    (primary : 0 ≤ stats.primaryUniqueSum ∧ stats.primaryUniqueSum ≤ stats.intervals * 2 ^ 200)
    (secondary : 0 ≤ stats.secondaryUniqueSum ∧
      stats.secondaryUniqueSum ≤ stats.intervals * 2 ^ 200)
    (square : 0 ≤ stats.primarySquareSum ∧ stats.primarySquareSum ≤ stats.intervals * 2 ^ 200) :
    ∃ text, stats.render = .ok text := by
  have mean : ∀ sum, 0 ≤ sum ∧ sum ≤ stats.intervals * 2 ^ 200 → ∃ x, stats.mean sum = .ok x := by
    intro sum bounds
    unfold Statistics.mean
    split
    · exact ⟨_, rfl⟩
    · exact quotient_of_le bounds.1 (by omega) bounds.2
  obtain ⟨primaryMean, first⟩ := mean _ primary
  obtain ⟨secondaryMean, second⟩ := mean _ secondary
  obtain ⟨variance, third⟩ : ∃ x, stats.primaryVariance = .ok x := by
    unfold primaryVariance
    split
    · exact ⟨_, rfl⟩
    · obtain ⟨squares, exact⟩ := quotient_of_le square.1 (by omega) square.2
      rw [Statistics.primaryMean, first, exact]
      exact ⟨_, rfl⟩
  unfold render primaryDeviation
  rw [Statistics.primaryMean, Statistics.secondaryMean, first, second, third]
  exact ⟨_, rfl⟩

private theorem sum_bounds {values : List Interval} (f : Interval → Int) {bound : Int}
    (bounded : ∀ value ∈ values, 0 ≤ f value ∧ f value ≤ bound) :
    0 ≤ (values.map f).sum ∧ (values.map f).sum ≤ values.length * bound := by
  constructor
  · refine List.sum_nonneg fun x member => ?_
    obtain ⟨value, there, rfl⟩ := List.mem_map.1 member
    exact (bounded value there).1
  · have most := List.sum_le_card_nsmul (values.map f) bound fun x member => by
      obtain ⟨value, there, rfl⟩ := List.mem_map.1 member
      exact (bounded value there).2
    rwa [List.length_map, nsmul_eq_mul] at most

/-- The statistics of windows that kept no more ids than the largest 64-bit integer can be shown. -/
theorem render_batch (wide : 0 ≤ slots) (positive : 1 ≤ size)
    (bounded : ∀ start ∈ closed,
      ((Arrivals.ids (Arrivals.within start (start + slots * bucketMillis) arrivals)).length : Int)
        ≤ noMinimum) :
    ∃ text, (batch slots closed arrivals size).render = .ok text := by
  generalize values_eq : closed.flatMap (Arrivals.intervals slots size arrivals) = values
  have parts : 0 ≤ slots / size := Int.ediv_nonneg wide (by omega)
  have count : (closed.length : Int) * (slots / size) = values.length := by
    rw [← values_eq, List.length_flatMap]
    simp only [Arrivals.intervals, List.length_map, List.length_range, List.map_const',
      List.sum_replicate, nsmul_eq_mul, Nat.cast_id]
    push_cast
    rw [Int.toNat_of_nonneg parts]
  -- a square is the largest number of a sub-interval, and its bound still leaves room to spare
  have unique : ∀ value ∈ values, (0 ≤ value.primaryUnique ∧ value.primaryUnique ≤ noMinimum) ∧
      0 ≤ value.secondaryUnique ∧ value.secondaryUnique ≤ noMinimum := by
    intro value member
    rw [← values_eq, List.mem_flatMap] at member
    obtain ⟨start, closing, member⟩ := member
    obtain ⟨i, -, rfl⟩ := List.mem_map.1 member
    have kept := bounded start closing
    have most := fun secondary start' stop' => Arrivals.uniqueIn_le secondary start' stop'
      (Arrivals.within start (start + slots * bucketMillis) arrivals)
    exact ⟨⟨Int.natCast_nonneg _, (most ..).trans kept⟩,
      Int.natCast_nonneg _, (most ..).trans kept⟩
  have primary := sum_bounds (·.primaryUnique) fun value member => (unique value member).1
  have secondary := sum_bounds (·.secondaryUnique) fun value member => (unique value member).2
  have products : ∀ value ∈ values, 0 ≤ value.primaryUnique * value.primaryUnique ∧
      value.primaryUnique * value.primaryUnique ≤ noMinimum * noMinimum := by
    intro value member
    obtain ⟨low, high⟩ := (unique value member).1
    exact ⟨mul_nonneg low low, mul_le_mul high high low (by decide)⟩
  have square := sum_bounds (fun value => value.primaryUnique * value.primaryUnique) products
  have scaled : ∀ bound : Int, bound ≤ 2 ^ 200 →
      (values.length : Int) * bound ≤ values.length * 2 ^ 200 :=
    fun _ small => mul_le_mul_of_nonneg_left small (Int.natCast_nonneg _)
  rw [batch, values_eq, count]
  exact render_of_le (Int.natCast_nonneg _)
    ⟨primary.1, primary.2.trans (scaled _ (by decide))⟩
    ⟨secondary.1, secondary.2.trans (scaled _ (by decide))⟩
    ⟨square.1, square.2.trans (scaled _ (by decide))⟩

end Statistics

theorem reportLines_of_render {statistics : List Statistics} (source stamp : String)
    (shown : ∀ stats ∈ statistics, ∃ text, stats.render = .ok text) :
    (reportLines source stamp statistics).2 = .ok () := by
  induction statistics with
  | nil => rfl
  | cons stats rest ih =>
    rw [List.forall_mem_cons] at shown
    obtain ⟨text, first⟩ := shown.1
    unfold reportLines
    rw [first]
    exact ih shown.2

theorem reportLines_error_eq {source stamp : String} {statistics : List Statistics}
    {lines : List String} {failure : Failure}
    (fails : reportLines source stamp statistics = (lines, .error failure)) :
    failure = .quotientTooLarge := by
  induction statistics generalizing lines with
  | nil => cases fails
  | cons stats rest ih =>
    unfold reportLines at fails
    cases text : stats.render with
    | error cause =>
      rw [text] at fails
      obtain rfl : cause = failure := Except.error.inj (Prod.mk.inj fails).2
      exact Statistics.render_error_eq text
    | ok _ =>
      rw [text] at fails
      exact ih (Prod.ext rfl (Prod.mk.inj fails).2)

/-! ### What a call leaves behind -/

theorem Entry.filterMap_line? (lines : List String) :
    (lines.map Entry.line).filterMap Entry.line? = lines := by
  rw [List.filterMap_map]
  exact List.filterMap_some

namespace Tracker

variable {source : String} {config : Config} {recorded : List Arrival} {closed : List Int}
  {tracker : Tracker} {arrival : Arrival}

theorem filterMap_line?_reported (tracker : Tracker) (lines : List String) (reset : Bool) :
    (lines.map Entry.line ++ if reset then [tracker.resetEntry] else []).filterMap Entry.line? =
      lines := by
  rw [List.filterMap_append, Entry.filterMap_line?]
  cases reset <;> exact List.append_nil lines

theorem resetEntry_mem_reported (tracker : Tracker) (lines : List String) (reset : Bool) :
    tracker.resetEntry ∈ lines.map Entry.line ++ (if reset then [tracker.resetEntry] else []) ↔
      reset = true := by
  cases reset <;> simp [resetEntry_not_mem]

/-- A call ends where bringing the tracker to the arrival ended, but for the counters. -/
theorem Delivery.brought {outcome : Outcome Tracker Bool}
    (delivery : Delivery tracker arrival outcome) :
    ∃ brought : Outcome Tracker Unit,
      Advance (tracker.noted arrival.moment) arrival.moment brought ∧
      outcome.entries = brought.entries ∧
      outcome.failure? = brought.failure? ∧
      outcome.state.schedule = brought.state.schedule ∧
      outcome.state.window.span = brought.state.window.span := by
  cases delivery with
  | @failed brought failure advance fails =>
    exact ⟨brought, advance, rfl, by simp only [Outcome.failure?, fails], rfl, rfl⟩
  | @answered brought _ _ _ _ advance succeeds _ _ _ =>
    exact ⟨brought, advance, rfl, by simp only [Outcome.failure?, succeeds], rfl, rfl⟩

/-- With room for no more ids than the largest 64-bit integer, a report never breaks off. -/
theorem Tallies.reportLines_ok (tallies : Tallies source config recorded closed tracker)
    (accepted : config.Accepted) (bounded : config.maxMessages ≤ noMinimum) (name stamp : String) :
    (reportLines name stamp tracker.statistics).2 = .ok () := by
  refine reportLines_of_render name stamp fun stats member => ?_
  rw [tallies.statistics_eq, List.mem_map] at member
  obtain ⟨size, known, rfl⟩ := member
  have wide : 0 ≤ config.slots := by have := accepted.slots; omega
  exact Statistics.render_batch wide (accepted.one_le_size size known)
    (tallies.ids_le (by decide) bounded)

/-- What a call says that wrote something: the window it closed, why a report was due, and the lines
as far as they were written. -/
structure Reports (config : Config) (recorded : List Arrival) (closed : List Int)
    (tracker : Tracker) (arrival : Arrival) (span : Span) (decision : Decision)
    (time : WallTime) : Prop where
  placed : tracker.window.span = some span
  past : span.stop ≤ arrival.moment
  decided : tracker.schedule.decisionAt arrival.moment = .ok decision
  emits : decision.emit = true
  stamped : endOfPreviousDay decision.day = .ok time
  closing : tracker.closedWindow? (tracker.deliver arrival).state = some span.start
  moved : (tracker.deliver arrival).state.window.span =
    some (.around config.windowMillis arrival.moment)
  lines : (tracker.deliver arrival).lines =
    (reportLines tracker.source time.stamp
      (config.sizes.map (Statistics.batch config.slots (closed ++ [span.start]) recorded))).1
  /-- A call that does not fail writes all of its lines. -/
  whole : (tracker.deliver arrival).failure? = none →
    (reportLines tracker.source time.stamp
      (config.sizes.map (Statistics.batch config.slots (closed ++ [span.start]) recorded))).2 =
        .ok ()

/-- The lines of a whole report, under the last second of the day before. -/
theorem Reports.isReport {span : Span} {decision : Decision} {time : WallTime}
    (reports : Reports config recorded closed tracker arrival span decision time)
    (fine : (tracker.deliver arrival).failure? = none) :
    ∃ date, (Day.mk (decision.day.index - 1)).IsWritten date ∧
      IsReport tracker.source (date ++ " 23:59:59")
        (config.sizes.map (Statistics.batch config.slots (closed ++ [span.start]) recorded))
        (tracker.deliver arrival).lines := by
  obtain ⟨date, written, stamp⟩ := exists_isWritten_endOfPreviousDay reports.stamped
  have report := isReport_reportLines (reports.whole fine)
  rw [← reports.lines, stamp] at report
  exact ⟨date, written, report⟩

/-- There is no other way to write anything than a report that was due. -/
theorem Tallies.reports_of_entries (tallies : Tallies source config recorded closed tracker)
    (accepted : config.Accepted) (wrote : (tracker.deliver arrival).entries ≠ []) :
    ∃ span decision time, Reports config recorded closed tracker arrival span decision time := by
  obtain ⟨brought, advance, entries, failure, -, span_eq⟩ :=
    (tallies.deliver accepted arrival).1.brought
  have noted := tallies.noted arrival.moment
  have lines_eq : (tracker.deliver arrival).lines = brought.lines := by
    rw [Outcome.lines, entries, Outcome.lines]
  rw [entries] at wrote
  cases advance with
  | unstarted | opened | stayed => exact absurd rfl wrote
  | @moved span _ placed past due =>
    have rolled := noted.rolledTo accepted placed past
    have closing := noted.closedWindow?_rolledTo accepted placed past
      (tracker.deliver arrival).state (span_eq.trans (congrArg Window.span due.window_eq))
    have moved : (tracker.deliver arrival).state.window.span =
        some (.around config.windowMillis arrival.moment) := span_eq.trans (noted.span_of_due due)
    have statistics := rolled.statistics_eq
    cases due with
    | undecided | quiet | unstamped => exact absurd rfl wrote
    | @unwritten decision time lines failure decided emits stamped written =>
      refine ⟨span, decision, time,
        placed, past, decided, emits, stamped, closing, moved, ?_, ?_⟩
      · rw [statistics] at written
        rw [lines_eq, Outcome.lines, Entry.filterMap_line?]
        exact (congrArg Prod.fst written).symm
      · intro fine
        rw [failure] at fine
        cases fine
    | @reported decision time lines decided emits stamped written =>
      refine ⟨span, decision, time,
        placed, past, decided, emits, stamped, closing, moved, ?_, ?_⟩
      · rw [statistics] at written
        rw [lines_eq, Outcome.lines, filterMap_line?_reported]
        exact (congrArg Prod.fst written).symm
      · intro _
        rw [statistics] at written
        exact congrArg Prod.snd written

theorem Tallies.reports_of_lines (tallies : Tallies source config recorded closed tracker)
    (accepted : config.Accepted) (wrote : (tracker.deliver arrival).lines ≠ []) :
    ∃ span decision time, Reports config recorded closed tracker arrival span decision time := by
  refine tallies.reports_of_entries accepted fun none => wrote ?_
  rw [Outcome.lines, none, List.filterMap_nil]

end Tracker

end ArrivalRates
