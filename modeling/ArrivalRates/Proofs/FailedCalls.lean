import ArrivalRates.Proofs.Conservation

/-!
# Calls that fail

A call fails only while its tracker is brought to the arrival, and nothing is undone: the window is
where the arrival belongs, with the old one in the statistics, and the schedule is as it was. Which
calls fail depends on the calendar alone as long as none has failed before, because a window that
was opened without a failure has its schedule started.
-/

namespace ArrivalRates

namespace Outcome

theorem failure?_eq_some_iff {outcome : Outcome σ α} {failure : Failure} :
    outcome.failure? = some failure ↔ outcome.result = .error failure := by
  unfold failure?
  cases outcome.result <;> simp

end Outcome

namespace Tracker

variable {source : String} {config : Config} {recorded : List Arrival} {closed : List Int}
  {tracker : Tracker} {arrival : Arrival} {moment : Int} {failure : Failure}

/-! ### What a failure leaves behind -/

/-- What a call that fails at a moment leaves of its tracker: a first window without a schedule, or
a rollover without its report. -/
inductive Halted (tracker : Tracker) (moment : Int) (failure : Failure) (state : Tracker)
    (entries : List Entry) : Prop where
  | unstarted (inactive : tracker.window.span = none) (opened : state = tracker.placedAt moment)
      (silent : entries = [])
  | unreported {span : Span} (placed : tracker.window.span = some span) (past : span.stop ≤ moment)
      (rolled : state = tracker.rolledTo moment)
      (written : entries = [] ∨ failure = .quotientTooLarge)

theorem Due.of_failure {outcome : Outcome Tracker Unit} (due : Due tracker moment outcome)
    (fails : outcome.result = .error failure) :
    outcome.state = tracker ∧ (outcome.entries = [] ∨ failure = .quotientTooLarge) := by
  cases due with
  | undecided | unstamped => exact ⟨rfl, .inl rfl⟩
  | unwritten decided emits stamped written =>
    cases fails
    exact ⟨rfl, .inr (reportLines_error_eq written)⟩
  | quiet | reported => cases fails

theorem Advance.of_failure {outcome : Outcome Tracker Unit}
    (advance : Advance tracker moment outcome) (fails : outcome.result = .error failure) :
    Halted tracker moment failure outcome.state outcome.entries := by
  cases advance with
  | unstarted inactive => exact .unstarted inactive rfl rfl
  | opened | stayed => cases fails
  | moved placed past due =>
    obtain ⟨rolled, written⟩ := due.of_failure fails
    exact .unreported placed past rolled written

theorem Tallies.deliver_of_failure (tallies : Tallies source config recorded closed tracker)
    (accepted : config.Accepted) (fails : (tracker.deliver arrival).result = .error failure) :
    Halted (tracker.noted arrival.moment) arrival.moment failure (tracker.deliver arrival).state
      (tracker.deliver arrival).entries := by
  have delivery := (tallies.deliver accepted arrival).1
  generalize tracker.deliver arrival = outcome at delivery fails
  cases delivery with
  | failed advance broken =>
    cases fails
    exact advance.of_failure broken
  | answered => cases fails

theorem Delivery.active {outcome : Outcome Tracker Bool}
    (delivery : Delivery tracker arrival outcome) : outcome.state.window.span ≠ none := by
  obtain ⟨brought, advance, -, -, -, same⟩ := delivery.brought
  rw [same]
  cases advance with
  | unstarted | opened => exact Option.some_ne_none _
  | stayed placed => simp [Outcome.done, placed]
  | moved _ _ due =>
    rw [due.window_eq]
    exact Option.some_ne_none _

end Tracker

namespace Ledger

variable {source : String} {config : Config}

theorem idle_ofCalls (accepted : config.Accepted) (calls : List Call) :
    (ofCalls source config calls).tracker.window.span = none →
      (ofCalls source config calls).tracker.window.currentIndex = 0 := by
  refine (ofCalls_induction
    (motive := fun ledger => ledger.tracker.window.span = none →
      ledger.tracker.window.currentIndex = 0) accepted (fun _ => rfl) ?_ calls).2
  intro ledger call sound idle
  rcases call.arrive_or_other with ⟨arrival, rfl⟩ | other
  · intro inactive
    exact absurd inactive (Tracker.Tallies.deliver sound accepted arrival).1.active
  · obtain ⟨_, _, tracker⟩ := ledger.tracker_other other
    rw [tracker]
    exact idle

/-- A call that fails changes neither the schedule nor the numbers of what was written, and no
arrival is lost or counted twice. Before the first window, all that was counted stays as well. After
it, the call has closed the window, as it would have done without failing. -/
theorem after_failed_arrival (source : String) (accepted : config.Accepted) (calls : List Call)
    (arrival : Arrival) (failure : Failure)
    (fails : ((ofCalls source config calls).tracker.deliver arrival).result = .error failure) :
    let before := (ofCalls source config calls).tracker
    let outcome := before.deliver arrival
    let after := outcome.state
    after.schedule = before.schedule ∧ after.reportsEmitted = before.reportsEmitted ∧
      after.gapNotices = before.gapNotices ∧ after.window.lastEvent = some arrival.moment ∧
      (∀ i < config.sizes.length, after.held i = before.held i) ∧
      (before.window.span = none →
        after.window.counters = before.window.counters ∧
        after.window.currentIndex = before.window.currentIndex ∧
        after.statistics = before.statistics ∧ outcome.entries = []) ∧
      ∀ span, before.window.span = some span →
        span.stop ≤ arrival.moment ∧
        after.window.span = some (.around config.windowMillis arrival.moment) ∧
        after.window.currentIndex = 0 ∧ after.window.counters = [] ∧
        before.rollover.result = .ok () ∧
        after.statistics = before.rollover.state.statistics ∧
        (outcome.entries = [] ∨ failure = .quotientTooLarge) := by
  intro before outcome after
  have sound : (ofCalls source config calls).Sound source config := sound_ofCalls accepted calls
  have noted := Tracker.Tallies.noted sound arrival.moment
  have halted := sound.deliver_of_failure accepted fails
  cases halted with
  | unstarted inactive opened silent =>
    -- a first window starts with the counters and the index of the window that was never opened
    have after_eq : after = (before.noted arrival.moment).placedAt arrival.moment := opened
    have unplaced : before.window.span = none := inactive
    rw [after_eq]
    refine ⟨rfl, rfl, rfl, rfl, fun _ _ => rfl, fun _ => ⟨rfl, ?_, rfl, silent⟩, ?_⟩
    · exact (idle_ofCalls accepted calls inactive).symm
    · intro span placed
      rw [unplaced] at placed
      cases placed
  | unreported placed past rolled written =>
    have after_eq : after = (before.noted arrival.moment).rolledTo arrival.moment := rolled
    have active : before.window.span = some _ := placed
    have placing := sound.wellPlaced accepted
    rw [after_eq]
    refine ⟨rfl, rfl, rfl, rfl, ?_, ?_, ?_⟩
    · intro i inside
      exact noted.held_rolledTo accepted inside arrival.moment
    · intro inactive
      rw [active] at inactive
      cases inactive
    · intro other same
      obtain rfl := Option.some.inj (active.symm.trans same)
      refine ⟨past, ?_, rfl, rfl, ?_, ?_, written⟩
      · rw [← noted.length_eq]
        rfl
      · rw [Tracker.rollover, Window.rollup_eq placing.sizes placing.wide]
        rfl
      · exact (Tracker.statistics_rollover placing arrival.moment).symm

def lastArrival : Arrival := ⟨"a", 253402293600000, false⟩

def farArrival : Arrival := ⟨"b", 253402300800000, false⟩

/-- A call that fails leaves traces: the counters are empty and an arrival that would have been
recorded before it is not recorded after it. -/
theorem failed_arrival_leaves_trace :
    let before := (ofCalls "gate" Config.standard [.arrive lastArrival]).tracker
    let outcome := before.deliver farArrival
    Config.standard.Accepted ∧ outcome.result = .error (.yearOutOfRange 10000) ∧
      outcome.state.window.counters ≠ before.window.counters ∧
      outcome.state.statistics ≠ before.statistics ∧
      outcome.state.window.span ≠ before.window.span ∧
      outcome.state.window.lastEvent ≠ before.window.lastEvent ∧
      (before.deliver ⟨"c", 253402293600001, false⟩).accepted = true ∧
      (outcome.state.deliver ⟨"c", 253402293600001, false⟩).accepted = false := by
  refine ⟨⟨by decide, rfl⟩, ?_⟩
  decide +kernel

theorem after_failed_arrival_far :
    let before := (ofCalls "gate" Config.standard [.arrive lastArrival]).tracker
    let outcome := before.deliver farArrival
    Config.standard.Accepted ∧ outcome.result = .error (.yearOutOfRange 10000) ∧
      outcome.state.schedule.lastReport = some ⟨2932896⟩ ∧ outcome.entries = [] ∧
      outcome.state.window.span = some ⟨253402300800000, 253402308000000⟩ ∧
      outcome.state.window.counters = [] ∧
      outcome.state.statistics.map (·.primaryTotal) = [1, 1, 1, 1, 1] := by
  intro before outcome
  have accepted : Config.standard.Accepted := ⟨by decide, rfl⟩
  have fails : outcome.result = .error (.yearOutOfRange 10000) := by decide +kernel
  have placed : before.window.span = some ⟨253402293600000, 253402300800000⟩ := by decide +kernel
  obtain ⟨schedule, -, -, -, -, -, active⟩ :=
    after_failed_arrival "gate" accepted [.arrive lastArrival] farArrival _ fails
  obtain ⟨-, span, -, counters, -, statistics, entries⟩ := active _ placed
  refine ⟨accepted, fails, ?_, entries.resolve_right (by decide), span, counters, ?_⟩
  · rw [schedule]
    decide +kernel
  · rw [statistics]
    decide +kernel

end Ledger

/-! ### Which calls fail -/

/-- Started on or after the first day of the calendar. -/
def Schedule.Running (schedule : Schedule) : Prop :=
  ∃ last start, schedule.lastReport = some last ∧ schedule.processingStart = some start ∧
    last.isSupported

namespace Schedule.Running

variable {schedule : Schedule} (running : schedule.Running)

include running

theorem decisionOn_ok (day : Day) : ∃ decision, schedule.decisionOn day = .ok decision := by
  obtain ⟨last, start, reported, started, -⟩ := running
  exact ⟨_, decisionOn_eq_answer reported started day⟩

theorem decisionAt_error_iff {millis : Int} {failure : Failure} :
    schedule.decisionAt millis = .error failure ↔ schedule.zone.dayAt millis = .error failure := by
  obtain ⟨last, start, reported, started, -⟩ := running
  exact decisionAt_eq_error_iff reported started

theorem day_isSupported {millis : Int} {decision : Decision}
    (decided : schedule.decisionAt millis = .ok decision) : decision.day.isSupported := by
  obtain ⟨last, start, reported, started, -⟩ := running
  obtain ⟨day, shown, rfl⟩ := (decisionAt_eq_ok_iff reported started).1 decided
  rw [answer_day]
  exact TimeZone.isSupported_of_dayAt shown

/-- A day on which a report is due is not the first of the calendar. -/
theorem stamped {millis : Int} {decision : Decision}
    (decided : schedule.decisionAt millis = .ok decision) (emits : decision.emit = true) :
    ∃ time, endOfPreviousDay decision.day = .ok time := by
  have here := running.day_isSupported decided
  obtain ⟨last, start, reported, started, first⟩ := running
  obtain ⟨day, shown, rfl⟩ := (decisionAt_eq_ok_iff reported started).1 decided
  rw [answer_day] at here ⊢
  exact endOfPreviousDay_of_lt first here (lt_of_answer_emit emits)

theorem markReported {day : Day} (supported : day.isSupported) :
    (schedule.markReported day).Running := by
  obtain ⟨last, start, -, started, -⟩ := running
  exact ⟨day, start, rfl, started, supported⟩

end Schedule.Running

namespace Tracker

variable {source : String} {config : Config} {recorded : List Arrival} {closed : List Int}
  {tracker : Tracker} {arrival : Arrival} {moment : Int} {failure : Failure}

/-- A schedule that runs, and statistics that can be shown: only the day can be missing. -/
theorem Due.fails_iff {outcome : Outcome Tracker Unit} (due : Due tracker moment outcome)
    (running : tracker.schedule.Running)
    (shown : ∀ stamp, (reportLines tracker.source stamp tracker.statistics).2 = .ok ()) :
    outcome.result = .error failure ↔ tracker.schedule.zone.dayAt moment = .error failure := by
  rw [← running.decisionAt_error_iff]
  cases due with
  | undecided undecided => simp [Outcome.failed, undecided]
  | quiet decided => simp [Outcome.done, decided]
  | unstamped decided emits unstamped =>
    obtain ⟨time, stamped⟩ := running.stamped decided emits
    rw [stamped] at unstamped
    cases unstamped
  | @unwritten _ time _ _ _ _ _ written =>
    have whole := shown time.stamp
    rw [written] at whole
    cases whole
  | reported decided => simp [decided]

theorem Due.running {outcome : Outcome Tracker Unit} (due : Due tracker moment outcome)
    (running : tracker.schedule.Running) : outcome.state.schedule.Running := by
  cases due with
  | undecided | quiet | unstamped | unwritten => exact running
  | reported decided =>
    rw [afterReport_schedule]
    exact running.markReported (running.day_isSupported decided)

theorem Advance.fails_iff {outcome : Outcome Tracker Unit}
    (advance : Advance tracker moment outcome)
    (running : tracker.window.span ≠ none → tracker.schedule.Running)
    (shown : ∀ span, tracker.window.span = some span → span.stop ≤ moment → ∀ stamp,
      (reportLines tracker.source stamp (tracker.rolledTo moment).statistics).2 = .ok ()) :
    outcome.result = .error failure ↔
      (tracker.window.span = none ∧ tracker.schedule.zone.dayAt
        (moment / tracker.window.length * tracker.window.length) = .error failure) ∨
      ∃ span, tracker.window.span = some span ∧ span.stop ≤ moment ∧
        tracker.schedule.zone.dayAt moment = .error failure := by
  cases advance with
  | unstarted inactive unstarted => simp [Outcome.failed, inactive, unstarted]
  | opened inactive started => simp [Outcome.done, inactive, started]
  | stayed placed before =>
    simp only [Outcome.done, placed, reduceCtorEq, false_and, false_or, false_iff]
    rintro ⟨span, same, past, -⟩
    obtain rfl := Option.some.inj same
    omega
  | @moved span _ placed past due =>
    have active : tracker.window.span ≠ none := by simp [placed]
    rw [due.fails_iff (running active) (shown span placed past)]
    constructor
    · intro missing
      exact .inr ⟨span, placed, past, missing⟩
    · rintro (⟨inactive, -⟩ | ⟨-, -, -, missing⟩)
      · exact absurd inactive active
      · exact missing

theorem Advance.running {outcome : Outcome Tracker Unit} (advance : Advance tracker moment outcome)
    (running : tracker.window.span ≠ none → tracker.schedule.Running)
    (succeeds : outcome.result = .ok ()) : outcome.state.schedule.Running := by
  cases advance with
  | unstarted => cases succeeds
  | @opened day inactive started =>
    exact ⟨day, day, rfl, rfl, TimeZone.isSupported_of_dayAt started⟩
  | stayed placed => exact running (by simp [placed])
  | moved placed past due => exact due.running (running (by simp [placed]))

theorem Delivery.lt_stop {outcome : Outcome Tracker Bool} {span : Span}
    (delivery : Delivery tracker arrival outcome) (succeeds : outcome.failure? = none)
    (placed : outcome.state.window.span = some span) : arrival.moment < span.stop := by
  cases delivery with
  | failed => cases succeeds
  | answered _ _ reached before =>
    obtain rfl := Option.some.inj (reached.symm.trans placed)
    exact before

/-- The bucket of an arrival in a window that ends after it is one of the window. -/
theorem Current.bucket_lt {window : Window} {span : Span}
    (current : Current config recorded closed window span) (low : span.start ≤ moment)
    (high : moment < span.stop) :
    0 ≤ (moment - span.start) / bucketMillis ∧
      (moment - span.start) / bucketMillis < config.slots := by
  have stop := current.stop_eq
  unfold Config.windowMillis bucketMillis at *
  omega

end Tracker

namespace Ledger

variable {source : String} {config : Config}

/-- As long as no call has failed, the schedule of an open window runs. -/
theorem running_ofCalls (accepted : config.Accepted) (calls : List Call)
    (fine : (ofCalls source config calls).failures = []) :
    (ofCalls source config calls).tracker.window.span ≠ none →
      (ofCalls source config calls).tracker.schedule.Running := by
  refine (ofCalls_induction
    (motive := fun ledger => ledger.failures = [] → ledger.tracker.window.span ≠ none →
      ledger.tracker.schedule.Running) accepted (fun _ active => absurd rfl active) ?_ calls).2 fine
  intro ledger call sound running fine
  have failures : ledger.failures ++ (ledger.tracker.perform call).failure?.toList = [] :=
    (ledger.failures_perform call).symm.trans fine
  obtain ⟨earlier, now⟩ := List.append_eq_nil_iff.1 failures
  rcases call.arrive_or_other with ⟨arrival, rfl⟩ | other
  · intro _
    -- a call that opens the first window and does not fail has started the schedule
    obtain ⟨brought, advance, -, failure, schedule, -⟩ :=
      (Tracker.Tallies.deliver sound accepted arrival).1.brought
    have succeeds : brought.result = .ok () := by
      cases result : brought.result with
      | ok => rfl
      | error cause =>
        have fails : (ledger.tracker.deliver arrival).failure? = some cause := by
          rw [failure, Outcome.failure?_eq_some_iff, result]
        have none : (ledger.tracker.deliver arrival).failure?.toList = [] := now
        rw [fails] at none
        cases none
    show (ledger.tracker.deliver arrival).state.schedule.Running
    rw [schedule]
    exact advance.running (running earlier) succeeds
  · obtain ⟨_, _, tracker⟩ := ledger.tracker_other other
    rw [tracker]
    exact running earlier

/-- After calls that did not fail, an arrival fails exactly where the calendar has no day for it: on
the start of the first window, or on its own moment when it closes a window. Nothing else on the way
can go wrong. -/
theorem arrival_fails_iff (source : String) (accepted : config.Accepted)
    (bounded : config.maxMessages ≤ noMinimum) (calls : List Call)
    (fine : (ofCalls source config calls).failures = []) (arrival : Arrival) :
    let tracker := (ofCalls source config calls).tracker
    let outcome := tracker.deliver arrival
    (∀ failure, outcome.result = .error failure ↔
      (tracker.window.span = none ∧
        config.zone.dayAt (config.windowStart arrival.moment) = .error failure) ∨
      ∃ span, tracker.window.span = some span ∧ span.stop ≤ arrival.moment ∧
        config.zone.dayAt arrival.moment = .error failure) ∧
    (outcome.failure? = none → ∀ span, outcome.state.window.span = some span →
      span.start ≤ arrival.moment →
        0 ≤ (arrival.moment - span.start) / bucketMillis ∧
          (arrival.moment - span.start) / bucketMillis < config.slots) ∧
    (∃ rollups, tracker.window.rollup config.sizes = .ok rollups) ∧
    (tracker.window.span ≠ none →
      (∀ day, ∃ decision, tracker.schedule.decisionOn day = .ok decision) ∧
      ∀ moment decision, tracker.schedule.decisionAt moment = .ok decision →
        decision.emit = true → ∃ time, endOfPreviousDay decision.day = .ok time) := by
  intro tracker outcome
  have sound : (ofCalls source config calls).Sound source config := sound_ofCalls accepted calls
  have running := running_ofCalls accepted calls fine
  have noted := Tracker.Tallies.noted sound arrival.moment
  obtain ⟨delivery, after⟩ := sound.deliver accepted arrival
  refine ⟨?_, ?_, ?_, ?_⟩
  · intro failure
    obtain ⟨brought, advance, -, same, -, -⟩ := delivery.brought
    have fails : brought.result = .error failure ↔ _ :=
      advance.fails_iff running fun span placed past stamp =>
        (noted.rolledTo accepted placed past).reportLines_ok accepted bounded _ stamp
    rw [noted.length_eq, noted.zone_eq] at fails
    rw [← Outcome.failure?_eq_some_iff, same, Outcome.failure?_eq_some_iff]
    exact fails
  · intro succeeds span placed low
    exact (after.current span placed).bucket_lt low (delivery.lt_stop succeeds placed)
  · have placing := Tracker.Tallies.wellPlaced sound accepted
    rw [← sound.config_eq]
    exact ⟨_, Window.rollup_eq placing.sizes placing.wide⟩
  · intro active
    refine ⟨(running active).decisionOn_ok, ?_⟩
    intro moment decision decided emits
    exact (running active).stamped decided emits

theorem arrival_fails_iff_far :
    let calls : List Call := [.arrive lastArrival, .startLogger 253402300000000, .report none]
    let tracker := (ofCalls "gate" Config.standard calls).tracker
    Config.standard.Accepted ∧ Config.standard.maxMessages ≤ noMinimum ∧
      (ofCalls "gate" Config.standard calls).failures = [] ∧
      (tracker.deliver farArrival).result = .error (.yearOutOfRange 10000) ∧
      ∀ failure, (tracker.deliver ⟨"b", 253402300799999, false⟩).result ≠ .error failure := by
  intro calls tracker
  have accepted : Config.standard.Accepted := ⟨by decide, rfl⟩
  have bounded : Config.standard.maxMessages ≤ noMinimum := by decide
  have fine : (ofCalls "gate" Config.standard calls).failures = [] := by decide +kernel
  have placed : tracker.window.span = some ⟨253402293600000, 253402300800000⟩ := by decide +kernel
  refine ⟨accepted, bounded, fine, ?_, ?_⟩
  · apply ((arrival_fails_iff "gate" accepted bounded calls fine farArrival).1 _).2
    exact .inr ⟨_, placed, by decide, by decide +kernel⟩
  · intro failure fails
    rcases ((arrival_fails_iff "gate" accepted bounded calls fine _).1 failure).1 fails with
      ⟨inactive, -⟩ | ⟨span, same, past, -⟩
    · cases placed.symm.trans inactive
    · obtain rfl := Option.some.inj (placed.symm.trans same)
      exact absurd past (by decide)

end Ledger

end ArrivalRates
