import ArrivalRates.Proofs.Chronicle
import ArrivalRates.Proofs.Rollup

/-!
# What bringing the window to an arrival can do

`Advance` lists the ways in which a tracker can be brought to an arrival and `Due` the ways in which
the schedule can be asked on the way, each with the state it leaves behind and what it writes.
`Tracker.advance_spec` says that nothing else happens to a tracker whose window lies where windows
lie; every invariant of a run is proved by the cases of these two relations.
-/

namespace ArrivalRates

/-! ### The place of a window -/

/-- The span around a moment whose start is a multiple of the length. -/
def Span.around (length moment : Int) : Span :=
  ⟨moment / length * length, moment / length * length + length⟩

namespace Span

variable {length moment : Int}

theorem around_start_le (positive : 0 < length) (moment : Int) :
    (around length moment).start ≤ moment :=
  Int.ediv_mul_le moment (by omega)

theorem lt_around_stop (positive : 0 < length) (moment : Int) :
    moment < (around length moment).stop := by
  have below := Int.lt_ediv_add_one_mul_self moment positive
  rw [Int.add_mul, Int.one_mul] at below
  exact below

theorem around_eq {start : Int} (positive : 0 < length) (aligned : length ∣ start)
    (low : start ≤ moment) (high : moment < start + length) :
    around length moment = ⟨start, start + length⟩ := by
  obtain ⟨k, rfl⟩ := aligned
  have quotient : moment / length = k := by
    rw [Int.ediv_eq_iff_of_pos positive]
    grind
  simp only [around, quotient, Int.mul_comm]

/-- Moving on by whole lengths until the moment is reached ends in the span around it. -/
theorem advanceTo_eq_around {span : Span} (positive : 0 < length) (aligned : length ∣ span.start)
    (stop : span.stop = span.start + length) (past : span.start ≤ moment) :
    span.advanceTo length moment = around length moment := by
  fun_induction advanceTo length moment span with
  | case1 span h ih =>
    exact ih (by simpa [stop] using Int.dvd_add aligned (Int.dvd_refl length)) rfl h.2
  | case2 span h =>
    obtain ⟨start, stop'⟩ := span
    obtain rfl : stop' = start + length := stop
    have reached : ¬(0 < length ∧ start + length ≤ moment) := h
    have high : moment < start + length := by omega
    exact (around_eq positive aligned past high).symm

end Span

namespace Window

theorem openAt_eq {window : Window} (positive : 0 < window.length) (moment : Int) :
    window.openAt moment =
      .ok { window with span := some (.around window.length moment), currentIndex := 0 } := by
  have count : floorDiv moment window.length = .ok (moment / window.length) := by
    rw [floorDiv, if_neg (by omega), Int.fdiv_eq_ediv_of_nonneg _ (by omega)]
  simp only [openAt, spanAt, count, bind, Except.bind, pure, Except.pure, Span.around]

end Window

namespace Tracker

/-- The tracker after a report that its schedule asked for. -/
def afterReport (tracker : Tracker) (decision : Decision) : Tracker :=
  let marked : Tracker :=
    { tracker with
      reportsEmitted := tracker.reportsEmitted + 1
      schedule := tracker.schedule.markReported decision.day }
  if decision.reset then marked.resetStatistics else marked

def placedAt (tracker : Tracker) (moment : Int) : Tracker :=
  { tracker with
    window :=
      { tracker.window with
        span := some (.around tracker.window.length moment), currentIndex := 0 } }

/-- The tracker after the window was added to the statistics and moved to a moment. -/
def rolledTo (tracker : Tracker) (moment : Int) : Tracker :=
  { tracker with
    statistics := List.zipWith Statistics.absorbRollup tracker.statistics <|
      tracker.config.sizes.map fun size =>
        Rollup.ofCounters size (tracker.window.slots / size).toNat tracker.window.counters
    window :=
      { tracker.window with
        span := some (.around tracker.window.length moment), currentIndex := 0, counters := [] } }

/-- The ways in which the schedule can be asked for a report at an arrival. -/
inductive Due (tracker : Tracker) (moment : Int) : Outcome Tracker Unit → Prop where
  /-- The arrival has no local day, or the schedule was never started. -/
  | undecided {failure : Failure}
      (undecided : tracker.schedule.decisionAt moment = .error failure) :
      Due tracker moment (.failed tracker failure)
  | quiet {decision : Decision} (decided : tracker.schedule.decisionAt moment = .ok decision)
      (silent : decision.emit = false) : Due tracker moment (.done tracker ())
  | unstamped {decision : Decision} {failure : Failure}
      (decided : tracker.schedule.decisionAt moment = .ok decision) (emits : decision.emit = true)
      (unstamped : endOfPreviousDay decision.day = .error failure) :
      Due tracker moment (.failed tracker failure)
  /-- The lines up to the statistics that cannot be shown are written. -/
  | unwritten {decision : Decision} {time : WallTime} {lines : List String} {failure : Failure}
      (decided : tracker.schedule.decisionAt moment = .ok decision) (emits : decision.emit = true)
      (stamped : endOfPreviousDay decision.day = .ok time)
      (written : reportLines tracker.source time.stamp tracker.statistics =
        (lines, .error failure)) :
      Due tracker moment ⟨tracker, .error failure, lines.map .line⟩
  | reported {decision : Decision} {time : WallTime} {lines : List String}
      (decided : tracker.schedule.decisionAt moment = .ok decision) (emits : decision.emit = true)
      (stamped : endOfPreviousDay decision.day = .ok time)
      (written : reportLines tracker.source time.stamp tracker.statistics = (lines, .ok ())) :
      Due tracker moment ⟨tracker.afterReport decision, .ok (),
        lines.map .line ++ if decision.reset then [tracker.resetEntry] else []⟩

/-- The ways in which a tracker can be brought to an arrival. -/
inductive Advance (tracker : Tracker) (moment : Int) : Outcome Tracker Unit → Prop where
  /-- The first window is opened, and its start has no local day on which to start the schedule. -/
  | unstarted {failure : Failure} (inactive : tracker.window.span = none)
      (unstarted : tracker.schedule.zone.dayAt (moment / tracker.window.length *
        tracker.window.length) = .error failure) :
      Advance tracker moment (.failed (tracker.placedAt moment) failure)
  | opened {day : Day} (inactive : tracker.window.span = none)
      (started : tracker.schedule.zone.dayAt (moment / tracker.window.length *
        tracker.window.length) = .ok day) :
      Advance tracker moment
        (.done { tracker.placedAt moment with schedule := tracker.schedule.startOn day } ())
  | stayed {span : Span} (placed : tracker.window.span = some span) (before : moment < span.stop) :
      Advance tracker moment (.done tracker ())
  | moved {span : Span} {outcome : Outcome Tracker Unit}
      (placed : tracker.window.span = some span) (past : span.stop ≤ moment)
      (due : Due (tracker.rolledTo moment) moment outcome) : Advance tracker moment outcome

theorem afterReport_window (tracker : Tracker) (decision : Decision) :
    (tracker.afterReport decision).window = tracker.window := by
  unfold afterReport
  split <;> rfl

theorem afterReport_schedule (tracker : Tracker) (decision : Decision) :
    (tracker.afterReport decision).schedule = tracker.schedule.markReported decision.day := by
  unfold afterReport
  split <;> rfl

theorem Due.window_eq {tracker : Tracker} {moment : Int} {outcome : Outcome Tracker Unit}
    (due : Due tracker moment outcome) : outcome.state.window = tracker.window := by
  cases due with
  | undecided | quiet | unstamped | unwritten => rfl
  | reported => exact afterReport_window ..

theorem due_reportIfDue (tracker : Tracker) (moment : Int) :
    Due tracker moment (tracker.reportIfDue moment) := by
  unfold reportIfDue
  split
  next undecided => exact .undecided undecided
  next decision decided =>
    split
    next emits =>
      unfold emitScheduled
      split
      next unstamped => exact .unstamped decided emits unstamped
      next time stamped =>
        cases written : reportLines tracker.source time.stamp tracker.statistics with
        | mk lines result =>
          cases result with
          | error failure =>
            have broken : (tracker.writeReport time.stamp).result = .error failure := by
              simp only [writeReport, written]
            rw [Outcome.andThen_of_error broken]
            simpa [writeReport, written, Except.isOk, Except.toBool]
              using Due.unwritten decided emits stamped written
          | ok value =>
            have whole : (tracker.writeReport time.stamp).result = .ok value := by
              simp only [writeReport, written]
            rw [Outcome.andThen_of_ok whole]
            have reported := Due.reported decided emits stamped written
            cases reset : decision.reset <;>
              simpa [writeReport, written, Except.isOk, Except.toBool, reset, afterReport,
                resetEntry, Outcome.done] using reported
    next silent => exact .quiet decided (by simpa using silent)

/-- Where windows lie, and what a layout that was checked promises. -/
structure WellPlaced (tracker : Tracker) : Prop where
  positive : 0 < tracker.window.length
  sizes : ∀ size ∈ tracker.config.sizes, 1 ≤ size
  wide : ∀ counter ∈ tracker.window.counters, counter.slots = tracker.window.slots
  aligned : ∀ span, tracker.window.span = some span →
    tracker.window.length ∣ span.start ∧ span.stop = span.start + tracker.window.length

/-- The rollup never fails here, so the window moves and the schedule is asked. -/
theorem advance_of_le {tracker : Tracker} (sound : tracker.WellPlaced) {span : Span} {moment : Int}
    (placed : tracker.window.span = some span) (past : span.stop ≤ moment) :
    tracker.advance moment = (tracker.rolledTo moment).reportIfDue moment := by
  obtain ⟨aligned, stop⟩ := sound.aligned span placed
  have low : span.start ≤ moment := by have := sound.positive; omega
  simp only [advance, placed, if_neg (Int.not_lt.2 past)]
  rw [rollover, Window.rollup_eq sound.sizes sound.wide]
  simp only [Outcome.done_andThen]
  congr 1
  have moved := Span.advanceTo_eq_around sound.positive aligned stop low
  simp only [Window.length] at moved
  simp only [moveWindow, rolledTo, Window.clear, Window.length, moved]

theorem advance_spec {tracker : Tracker} (sound : tracker.WellPlaced) (moment : Int) :
    Advance tracker moment (tracker.advance moment) := by
  cases placed : tracker.window.span with
  | none =>
    simp only [advance, placed, openWindow, Window.openAt_eq sound.positive, Option.map_some,
      Option.getD_some, Schedule.start, Span.around]
    cases started : tracker.schedule.zone.dayAt
        (moment / tracker.window.length * tracker.window.length) with
    | error failure => exact .unstarted placed started
    | ok day => exact .opened placed started
  | some span =>
    by_cases before : moment < span.stop
    · simp only [advance, placed, if_pos before]
      exact .stayed placed before
    · have past : span.stop ≤ moment := by omega
      rw [advance_of_le sound placed past]
      exact .moved placed past (due_reportIfDue _ _)

theorem Advance.reached {tracker : Tracker} {moment : Int} {outcome : Outcome Tracker Unit}
    (advance : Advance tracker moment outcome) (positive : 0 < tracker.window.length)
    (succeeds : outcome.result = .ok ()) :
    ∃ span, outcome.state.window.span = some span ∧ moment < span.stop := by
  have beyond := Span.lt_around_stop positive moment
  cases advance with
  | unstarted => cases succeeds
  | opened => exact ⟨_, rfl, beyond⟩
  | stayed placed before => exact ⟨_, placed, before⟩
  | moved placed past due => exact ⟨_, by rw [due.window_eq]; rfl, beyond⟩

end Tracker

end ArrivalRates
