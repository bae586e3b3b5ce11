import ArrivalRates.Proofs.Reporting

/-!
# The dates of scheduled reports

A run starts its schedule on the local day on which its first window begins, and a report is only
written on a later day. Windows are laid out from 1970 on UTC, whatever the zone, so the window that
a report closes may reach past the midnight under which it is stamped. `Chronicle.Started` carries
what is true of every run: the answer of the schedule on the day on which the current window was
opened decides how late its arrivals can be dated, where the local date never goes back.
-/

namespace ArrivalRates

open Tracker

namespace Chronicle

variable {source : String} {config : Config} {chronicle : Chronicle} {origin : Int}

/-- Whether every report so far was written to its end: windows have room for no more ids than the
largest 64-bit integer, or no call failed at a quotient that is too large. -/
def Unbroken (config : Config) (chronicle : Chronicle) : Prop :=
  config.maxMessages ≤ noMinimum ∨ .quotientTooLarge ∉ chronicle.failures

/-- What a schedule that was started keeps true of a run whose first window began at `origin`. -/
structure Scheduled (config : Config) (origin : Int) (chronicle : Chronicle) (span : Span)
    (first last : Day) : Prop where
  begins : config.zone.dayAt origin = .ok first
  started : chronicle.tracker.schedule.processingStart = some first
  reported : chronicle.tracker.schedule.lastReport = some last
  known : last.isSupported
  since : first.index ≤ last.index
  /-- Nothing is due on the day of some moment of the current window. -/
  quiet : chronicle.Unbroken config →
    ∃ opener, span.start ≤ opener ∧ opener < span.stop ∧
      ∀ day, config.zone.dayAt opener = .ok day →
        (Schedule.answer config.frequency last first day).emit = false

/-- What is true of a run whose first window began at `origin`. -/
structure Started (source : String) (config : Config) (origin : Int)
    (chronicle : Chronicle) : Prop where
  sound : chronicle.Sound source config
  span : ∃ span, chronicle.tracker.window.span = some span ∧ origin ≤ span.start ∧
    (chronicle.tracker.schedule.lastReport = none ∨
      ∃ first last, chronicle.Scheduled config origin span first last)
  closed : ∀ start ∈ chronicle.closed, origin ≤ start

theorem Sound.next_brought (sound : chronicle.Sound source config) (accepted : config.Accepted)
    (arrival : Arrival) :
    ∃ brought : Outcome Tracker Unit,
      Advance (chronicle.tracker.noted arrival.moment) arrival.moment brought ∧
      (chronicle.next arrival).tracker.schedule = brought.state.schedule ∧
      (chronicle.next arrival).tracker.window.span = brought.state.window.span ∧
      (chronicle.next arrival).failures = chronicle.failures ++ brought.failure?.toList := by
  obtain ⟨brought, advance, -, failure, schedule, span⟩ :=
    (Tallies.deliver sound accepted arrival).1.brought
  exact ⟨brought, advance, schedule, span, by rw [next, failure]⟩

theorem mem_closed_next {arrival : Arrival} {start : Int}
    (member : start ∈ (chronicle.next arrival).closed) :
    start ∈ chronicle.closed ∨
      ∃ span, chronicle.tracker.window.span = some span ∧ start = span.start := by
  rw [closed_next] at member
  split at member
  · cases member
  · unfold closedUntil closedWindow? at member
    rw [List.mem_append] at member
    rcases member with earlier | closing
    · exact .inl earlier
    · split at closing
      · cases closing
      next span placed =>
        split at closing
        · cases closing
        · exact .inr ⟨span, placed, by simpa using closing⟩

theorem started_first (accepted : config.Accepted) (arrival : Arrival) :
    ((begin source config).next arrival).Started source config
      (config.windowStart arrival.moment) := by
  have sound : (begin source config).Sound source config := sound_begin
  obtain ⟨brought, advance, schedule, span, failures⟩ := sound.next_brought accepted arrival
  have length : ((begin source config).tracker.noted arrival.moment).window.length =
      config.windowMillis := (sound.noted arrival.moment).length_eq
  refine ⟨sound_next accepted sound arrival, ?_, ?_⟩
  · cases advance with
    | unstarted =>
      refine ⟨_, span, ?_, .inl (by rw [schedule]; rfl)⟩
      rw [length]
      exact Int.le_refl _
    | @opened day inactive started =>
      rw [length] at started
      refine ⟨_, span, ?_, .inr ⟨day, day, ?_⟩⟩
      · rw [length]
        exact Int.le_refl _
      · rw [length]
        exact
          { begins := started
            started := by rw [schedule]; rfl
            reported := by rw [schedule]; rfl
            known := TimeZone.isSupported_of_dayAt started
            since := Int.le_refl _
            quiet := by
              intro _
              refine ⟨config.windowStart arrival.moment, Int.le_refl _, ?_, ?_⟩
              · have positive := accepted.windowMillis_pos
                show config.windowStart arrival.moment <
                  config.windowStart arrival.moment + config.windowMillis
                omega
              · intro day' shown
                obtain rfl : day = day' := Except.ok.inj (started.symm.trans shown)
                exact Schedule.answer_emit_of_le (Int.le_refl _) }
    | stayed placed => cases placed
    | moved placed => cases placed
  · intro start member
    rcases mem_closed_next member with earlier | ⟨span, placed, -⟩
    · cases earlier
    · cases placed

private theorem Started.closed_next (started : chronicle.Started source config origin)
    (arrival : Arrival) : ∀ start ∈ (chronicle.next arrival).closed, origin ≤ start := by
  intro start member
  rcases mem_closed_next member with earlier | ⟨span, placed, rfl⟩
  · exact started.closed start earlier
  · obtain ⟨current, placed', begins, -⟩ := started.span
    obtain rfl : current = span := Option.some.inj (placed'.symm.trans placed)
    exact begins

/-- A call that leaves the schedule and the window alone keeps what is known of them. -/
private theorem Scheduled.keep {after : Chronicle} {span : Span} {first last : Day}
    (scheduled : chronicle.Scheduled config origin span first last)
    (schedule : after.tracker.schedule = chronicle.tracker.schedule) {more : List Failure}
    (failures : after.failures = chronicle.failures ++ more) :
    after.Scheduled config origin span first last :=
  { scheduled with
    started := by rw [schedule]; exact scheduled.started
    reported := by rw [schedule]; exact scheduled.reported
    quiet := by
      intro fine
      refine scheduled.quiet (fine.imp_right fun none member => none ?_)
      rw [failures]
      exact List.mem_append_left _ member }

/-- Asking the schedule at the arrival that moved the window leaves nothing due on its day, unless
the report could not be written. -/
private theorem Scheduled.due {after : Chronicle} {span : Span} {first last : Day}
    (scheduled : chronicle.Scheduled config origin span first last) (accepted : config.Accepted)
    {tracker : Tracker} {moment : Int} {brought : Outcome Tracker Unit}
    (due : Due tracker moment brought) (same : tracker.schedule = chronicle.tracker.schedule)
    (zone : tracker.schedule.zone = config.zone)
    (frequency : tracker.schedule.frequency = config.frequency)
    (whole : config.maxMessages ≤ noMinimum → ∀ stamp,
      (reportLines tracker.source stamp tracker.statistics).2 = .ok ())
    (schedule : after.tracker.schedule = brought.state.schedule)
    (failures : after.failures = chronicle.failures ++ brought.failure?.toList) :
    ∃ last, after.Scheduled config origin (.around config.windowMillis moment) first last := by
  have reported : tracker.schedule.lastReport = some last := by rw [same, scheduled.reported]
  have started : tracker.schedule.processingStart = some first := by rw [same, scheduled.started]
  have low := accepted.windowStart_le moment
  have high := accepted.lt_windowStart_add moment
  have answers : ∀ decision, tracker.schedule.decisionAt moment = .ok decision ↔
      ∃ day, config.zone.dayAt moment = .ok day ∧
        Schedule.answer config.frequency last first day = decision := by
    intro decision
    rw [Schedule.decisionAt_eq_ok_iff reported started, zone, frequency]
  -- unless the report is written, the moment of the call is one on whose day nothing is due
  cases due with
  | undecided undecided =>
    refine ⟨last, { scheduled.keep (schedule.trans same) failures with
      quiet := fun _ => ⟨moment, low, high, fun day shown => ?_⟩ }⟩
    rw [(answers _).2 ⟨day, shown, rfl⟩] at undecided
    cases undecided
  | quiet decided silent =>
    refine ⟨last, { scheduled.keep (schedule.trans same) failures with
      quiet := fun _ => ⟨moment, low, high, fun day shown => ?_⟩ }⟩
    obtain ⟨day', shown', rfl⟩ := (answers _).1 decided
    obtain rfl : day = day' := Except.ok.inj (shown.symm.trans shown')
    exact silent
  -- a day after that of the last report has a day before it
  | unstamped decided emits unstamped =>
    obtain ⟨day, shown, rfl⟩ := (answers _).1 decided
    obtain ⟨time, stamped⟩ := endOfPreviousDay_of_lt scheduled.known
      (TimeZone.isSupported_of_dayAt shown) (Schedule.lt_of_answer_emit emits)
    rw [Schedule.answer_day, stamped] at unstamped
    cases unstamped
  -- what breaks off leaves the schedule unmarked, with a report due on the day of the call
  | @unwritten _ time _ _ decided emits stamped written =>
    refine ⟨last, { scheduled.keep (schedule.trans same) failures with
      quiet := fun fine => ?_ }⟩
    rcases fine with bounded | none
    · have ends := whole bounded time.stamp
      rw [written] at ends
      cases ends
    · refine absurd ?_ none
      rw [failures, reportLines_error_eq written]
      exact List.mem_append_right _ (List.mem_singleton.2 rfl)
  | @reported decision time lines decided emits stamped written =>
    obtain ⟨day, shown, rfl⟩ := (answers _).1 decided
    have later := Schedule.lt_of_answer_emit emits
    have marked : after.tracker.schedule = tracker.schedule.markReported day := by
      rw [schedule, afterReport_schedule, Schedule.answer_day]
    refine ⟨day,
      { begins := scheduled.begins
        started := by rw [marked]; exact started
        reported := by rw [marked]; rfl
        known := TimeZone.isSupported_of_dayAt shown
        since := by have := scheduled.since; omega
        quiet := fun _ => ⟨moment, low, high, fun day' shown' => ?_⟩ }⟩
    obtain rfl : day = day' := Except.ok.inj (shown.symm.trans shown')
    exact Schedule.answer_emit_of_le (Int.le_refl _)

theorem started_next (accepted : config.Accepted) (started : chronicle.Started source config origin)
    (arrival : Arrival) : (chronicle.next arrival).Started source config origin := by
  have sound := started.sound
  have before := sound.noted arrival.moment
  obtain ⟨brought, advance, schedule, span_eq, failures⟩ := sound.next_brought accepted arrival
  obtain ⟨span, placed, begins, schedules⟩ := started.span
  refine ⟨sound_next accepted sound arrival, ?_, started.closed_next arrival⟩
  cases advance with
  | unstarted inactive | opened inactive => rw [noted, placed] at inactive; cases inactive
  | stayed =>
    refine ⟨span, span_eq.trans placed, begins, ?_⟩
    rcases schedules with unstarted | ⟨first, last, scheduled⟩
    · exact .inl (by rw [schedule]; exact unstarted)
    · exact .inr ⟨first, last, scheduled.keep schedule failures⟩
  | @moved span' _ placed' past due =>
    obtain rfl : span' = span := Option.some.inj (placed'.symm.trans placed)
    have rolled := before.rolledTo accepted placed past
    refine ⟨_, span_eq.trans (before.span_of_due due), ?_, ?_⟩
    · have current := sound.current span' placed
      have beyond := current.stop_le_windowStart accepted past
      have stop := current.stop_eq
      have positive := accepted.windowMillis_pos
      show origin ≤ config.windowStart arrival.moment
      omega
    · rcases schedules with unstarted | ⟨first, last, scheduled⟩
      -- a schedule that was never started answers nothing, so it stays as it is
      · left
        have silent : ∀ decision, ((chronicle.tracker.noted arrival.moment).rolledTo
            arrival.moment).schedule.decisionAt arrival.moment ≠ .ok decision :=
          fun _ => Schedule.decisionAt_of_none unstarted
        rw [schedule]
        cases due with
        | undecided => exact unstarted
        | quiet decided | unstamped decided | unwritten decided | reported decided =>
          exact absurd decided (silent _)
      · exact .inr ⟨first, scheduled.due accepted due rfl rolled.zone_eq rolled.frequency_eq
          (fun bounded => rolled.reportLines_ok accepted bounded _) schedule failures⟩

theorem started_ofArrivals (accepted : config.Accepted) (first : Arrival) (rest : List Arrival) :
    (ofArrivals source config (first :: rest)).Started source config
      (config.windowStart first.moment) :=
  foldl_next_induction (started_first accepted first)
    (fun _ arrival started => started_next accepted started arrival) rest

/-- A run that writes a report has begun, and its schedule was started. -/
theorem Started.scheduled_of_reports (started : chronicle.Started source config origin)
    {event : Arrival} {span : Span} {decision : Decision} {time : WallTime}
    (reports : Reports config chronicle.recorded chronicle.closed chronicle.tracker event span
      decision time) :
    origin ≤ span.start ∧ ∃ first last, chronicle.Scheduled config origin span first last ∧
      config.zone.dayAt event.moment = .ok decision.day ∧ last.index < decision.day.index ∧
      Schedule.answer config.frequency last first decision.day = decision := by
  obtain ⟨span', placed, begins, schedules⟩ := started.span
  obtain rfl : span' = span := Option.some.inj (placed.symm.trans reports.placed)
  refine ⟨begins, ?_⟩
  rcases schedules with unstarted | ⟨first, last, scheduled⟩
  · exact absurd reports.decided (Schedule.decisionAt_of_none unstarted)
  · have decided := reports.decided
    rw [Schedule.decisionAt_eq_ok_iff scheduled.reported scheduled.started,
      started.sound.zone_eq, started.sound.frequency_eq] at decided
    obtain ⟨day, shown, answers⟩ := decided
    have emits := reports.emits
    rw [← answers] at emits ⊢
    rw [Schedule.answer_day]
    exact ⟨first, last, scheduled, shown, Schedule.lt_of_answer_emit emits, rfl⟩

/-- Up to the beginning of the window that a reporting call closes, every moment since which local
dates only went forward lies on an earlier date than the call: nothing was due on the day of the
arrival that opened the window, so the date of the call came after it. -/
theorem Scheduled.localDate_lt {span : Span} {first last day : Day}
    (scheduled : chronicle.Scheduled config origin span first last)
    (fine : chronicle.Unbroken config) (begins : origin ≤ span.start) {moment event : Int}
    (order : config.zone.DatesInOrder moment event) (early : moment ≤ span.start)
    (past : span.stop ≤ event) (shown : config.zone.dayAt event = .ok day)
    (emits : (Schedule.answer config.frequency last first day).emit = true) :
    (config.zone.localDate moment).index < day.index := by
  obtain ⟨opener, low, high, silent⟩ := scheduled.quiet fine
  have date := TimeZone.localDate_eq_of_dayAt shown
  have before := order moment opener (Int.le_refl _) (by omega) (by omega)
  have after := order opener event (by omega) (by omega) (Int.le_refl _)
  rw [date] at after
  rcases lt_or_ge (config.zone.localDate opener).index day.index with less | same
  · omega
  · have same : config.zone.localDate opener = day := Day.index_inj.1 (by omega)
    have opened : config.zone.dayAt opener = .ok (config.zone.localDate opener) :=
      TimeZone.dayAt_between (by omega : origin ≤ opener) (by omega : opener ≤ event)
        scheduled.begins shown (by rw [same]; exact TimeZone.isSupported_of_dayAt shown)
    rw [silent day (same ▸ opened)] at emits
    cases emits

/-- The date of a moment that comes before a reporting call is earlier too, but for moments of the
window that the call closes. -/
theorem Scheduled.localDate_cases {span : Span} {first last day : Day}
    (scheduled : chronicle.Scheduled config origin span first last)
    (fine : chronicle.Unbroken config) (begins : origin ≤ span.start) {moment event : Int}
    (order : config.zone.DatesInOrder moment event) (before : moment ≤ event)
    (past : span.stop ≤ event) (shown : config.zone.dayAt event = .ok day)
    (emits : (Schedule.answer config.frequency last first day).emit = true) :
    (config.zone.localDate moment).index < day.index ∨
      config.zone.localDate moment = day ∧ span.start ≤ moment := by
  rcases lt_or_ge moment span.start with outside | inside
  · exact .inl (scheduled.localDate_lt fine begins order outside.le past shown emits)
  · have notLater := order moment event (Int.le_refl _) before (Int.le_refl _)
    rw [TimeZone.localDate_eq_of_dayAt shown] at notLater
    rcases lt_or_ge (config.zone.localDate moment).index day.index with less | same
    · exact .inl less
    · exact .inr ⟨Day.index_inj.1 (by omega), inside⟩

/-- A scheduled report is only written, and the statistics only start anew, at an arrival that lies
past the window of the first one and on a later local day than that on which this window begins. -/
theorem report_after_first_window (source : String) (accepted : config.Accepted)
    (arrivals : List Arrival) (event : Arrival)
    (wrote : ((ofArrivals source config arrivals).tracker.deliver event).entries ≠ []) :
    ∃ first rest start day, arrivals = first :: rest ∧
      config.windowStart first.moment + config.windowMillis ≤ event.moment ∧
      config.zone.dayAt (config.windowStart first.moment) = .ok start ∧
      config.zone.dayAt event.moment = .ok day ∧
      start.index < day.index ∧
      (config.zone.DatesInOrder (config.windowStart first.moment) event.moment →
        ∃ date, config.zone.dayAt first.moment = .ok date ∧
          start.index ≤ date.index ∧ date.index ≤ day.index) := by
  have sound : (ofArrivals source config arrivals).Sound source config :=
    sound_ofArrivals accepted arrivals
  obtain ⟨span, decision, time, reports⟩ := Tallies.reports_of_entries sound accepted wrote
  cases arrivals with
  | nil => cases reports.placed
  | cons first rest =>
    obtain ⟨begins, start, last, scheduled, shown, later, -⟩ :=
      (started_ofArrivals accepted first rest).scheduled_of_reports reports
    have stop := (sound.current span reports.placed).stop_eq
    have past := reports.past
    have low := accepted.windowStart_le first.moment
    have high := accepted.lt_windowStart_add first.moment
    have since := scheduled.since
    refine ⟨first, rest, start, decision.day, rfl, by omega, scheduled.begins, shown, by omega, ?_⟩
    intro order
    have after := order _ first.moment (Int.le_refl _) low (by omega)
    have before := order first.moment _ low (by omega) (Int.le_refl _)
    rw [TimeZone.localDate_eq_of_dayAt scheduled.begins] at after
    rw [TimeZone.localDate_eq_of_dayAt shown] at before
    have start_known := Day.isSupported_iff.1 (TimeZone.isSupported_of_dayAt scheduled.begins)
    have day_known := Day.isSupported_iff.1 (TimeZone.isSupported_of_dayAt shown)
    have known : (config.zone.localDate first.moment).isSupported :=
      Day.isSupported_iff.2 (by omega)
    exact ⟨_, TimeZone.dayAt_between low (by omega : first.moment ≤ event.moment) scheduled.begins
      shown known, after, before⟩

/-- Windows of a hundred minutes, one of which reaches past the first midnight of 1970. -/
def hundredMinutes : Config := { Config.standard with slots := 10, sizes := [1, 2, 5, 10] }

/-- The first arrival is ten minutes past midnight in a window that began the day before, and the
next window brings a report on the same day. -/
theorem report_on_first_day :
    let first : Arrival := ⟨"b", 87000000, false⟩
    let event : Arrival := ⟨"c", 90000000, false⟩
    hundredMinutes.Accepted ∧
      ((ofArrivals "gate" hundredMinutes [first]).tracker.deliver event).lines ≠ [] ∧
      TimeZone.utc.dayAt first.moment = .ok ⟨1⟩ ∧ TimeZone.utc.dayAt event.moment = .ok ⟨1⟩ :=
  ⟨⟨by decide, rfl⟩, by decide +kernel, TimeZone.dayAt_utc_eq_ok_iff.2 ⟨by decide, rfl⟩,
    TimeZone.dayAt_utc_eq_ok_iff.2 ⟨by decide, rfl⟩⟩

/-- The window of that first arrival begins on the first day and its report comes on the second. -/
theorem report_after_first_window_gate :
    let first : Arrival := ⟨"b", 87000000, false⟩
    let event : Arrival := ⟨"c", 90000000, false⟩
    ((ofArrivals "gate" hundredMinutes [first]).tracker.deliver event).entries ≠ [] ∧
      hundredMinutes.windowStart first.moment = 84000000 ∧
      ∃ start day, TimeZone.utc.dayAt 84000000 = .ok start ∧
        TimeZone.utc.dayAt event.moment = .ok day ∧ start.index < day.index := by
  intro first event
  have wrote : ((ofArrivals "gate" hundredMinutes [first]).tracker.deliver event).entries ≠ [] := by
    decide +kernel
  refine ⟨wrote, by decide, ?_⟩
  obtain ⟨first', rest, start, day, same, -, began, shown, later, -⟩ :=
    report_after_first_window "gate" ⟨by decide, rfl⟩ [first] event wrote
  obtain ⟨rfl, -⟩ := List.cons.inj same
  exact ⟨start, day, began, shown, later⟩

/-- What the lines of a scheduled report count: arrivals before the window of the one that triggered
it. Unless a report broke off before or the local date went back in between, an arrival dated after
the stamp is dated as the triggering one and lies in the window that this call closed, which began
no later than the date of the stamp and so reaches past the midnight that ends it. -/
theorem counted_before_report (source : String) (accepted : config.Accepted)
    (arrivals : List Arrival) (event : Arrival)
    (wrote : ((ofArrivals source config arrivals).tracker.deliver event).lines ≠ []) :
    let run := ofArrivals source config arrivals
    let outcome := run.tracker.deliver event
    let windows := run.closedUntil outcome.state
    let counted := inWindows config.windowMillis windows run.recorded
    ∃ day time, config.zone.dayAt event.moment = .ok day ∧ endOfPreviousDay day = .ok time ∧
      outcome.lines = (reportLines source time.stamp
        (config.sizes.map (Statistics.batch config.slots windows counted))).1 ∧
      (∃ date, time.day.IsWritten date ∧
        IsReport source (date ++ " 23:59:59")
          ((config.sizes.map (Statistics.batch config.slots windows counted)).take
            outcome.lines.length) outcome.lines) ∧
      (∀ arrival ∈ counted, arrival.moment < config.windowStart event.moment) ∧
      (run.Unbroken config →
        ∃ closing, windows.getLast? = some closing ∧
          (config.zone.DatesInOrder closing event.moment →
            (config.zone.localDate closing).index ≤ time.day.index) ∧
          ∀ arrival ∈ counted, config.zone.DatesInOrder arrival.moment event.moment →
            (config.zone.localDate arrival.moment).index ≤ time.day.index ∨
              config.zone.localDate arrival.moment = day ∧ closing ≤ arrival.moment) := by
  intro run outcome windows counted
  have sound : run.Sound source config := sound_ofArrivals accepted arrivals
  obtain ⟨span, decision, time, reports⟩ := Tallies.reports_of_lines sound accepted wrote
  have current := sound.current span reports.placed
  have beyond := current.stop_le_windowStart accepted reports.past
  have stop := current.stop_eq
  have windows_eq : windows = run.closed ++ [span.start] := closedUntil_of_closing reports.closing
  have before : ∀ arrival ∈ counted, ∃ start ∈ windows, start ≤ arrival.moment ∧
      arrival.moment < start + config.windowMillis ∧ arrival.moment < span.stop := by
    intro arrival member
    obtain ⟨known, start, closing, low, high⟩ := mem_inWindows.1 member
    exact ⟨start, closing, low, high, current.recorded_lt arrival known⟩
  cases arrivals with
  | nil => cases reports.placed
  | cons first rest =>
    obtain ⟨begins, start, last, scheduled, shown, -, answers⟩ :=
      (started_ofArrivals accepted first rest).scheduled_of_reports reports
    have stamp := (endOfPreviousDay_spec reports.stamped).2.1
    have lines : outcome.lines = (reportLines source time.stamp
        (config.sizes.map (Statistics.batch config.slots windows counted))).1 := by
      have lines := reports.lines
      rw [sound.source_eq, ← windows_eq] at lines
      refine lines.trans (congrArg (fun statistics => (reportLines source time.stamp statistics).1)
        (List.map_congr_left fun size _ => ?_))
      exact (Statistics.batch_inWindows run.recorded).symm
    obtain ⟨date, written, text⟩ := exists_isWritten_endOfPreviousDay reports.stamped
    rw [← stamp] at written
    refine ⟨decision.day, time, shown, reports.stamped, lines, ⟨date, written, ?_⟩, ?_, ?_⟩
    · rw [← text, lines]
      exact isReport_take ..
    · intro arrival member
      obtain ⟨_, _, _, _, earlier⟩ := before arrival member
      omega
    · intro fine
      have stamped : time.day.index = decision.day.index - 1 := congrArg Day.index stamp
      have emits : (Schedule.answer config.frequency last start decision.day).emit = true := by
        rw [answers]
        exact reports.emits
      rw [stamped]
      refine ⟨span.start, by rw [windows_eq, List.getLast?_concat], ?_, ?_⟩
      · intro order
        have := scheduled.localDate_lt fine begins order (Int.le_refl _) reports.past shown emits
        omega
      · intro arrival member order
        obtain ⟨_, _, _, _, within⟩ := before arrival member
        have early : arrival.moment ≤ event.moment := by have := reports.past; omega
        exact (scheduled.localDate_cases fine begins order early reports.past shown emits).imp_left
          fun less => by omega

/-- An arrival ten minutes past midnight is counted under the stamp of the day before, as its window
began on that day. -/
theorem next_day_counted :
    let run := ofArrivals "gate" hundredMinutes [⟨"a", 85000000, false⟩, ⟨"b", 87000000, false⟩]
    let outcome := run.tracker.deliver ⟨"c", 90000000, false⟩
    let windows := run.closedUntil outcome.state
    hundredMinutes.Accepted ∧ outcome.lines ≠ [] ∧
      outcome.lines = (reportLines "gate" "01/01/1970 23:59:59"
        (hundredMinutes.sizes.map (Statistics.batch 10 windows run.recorded))).1 ∧
      (⟨"b", 87000000, false⟩ : Arrival) ∈
        inWindows hundredMinutes.windowMillis windows run.recorded ∧
      TimeZone.utc.dayAt 87000000 = .ok ⟨1⟩ ∧ TimeZone.utc.dayAt 90000000 = .ok ⟨1⟩ ∧
      ∃ time, endOfPreviousDay ⟨1⟩ = .ok time ∧ time.day = ⟨0⟩ ∧
        time.stamp = "01/01/1970 23:59:59" :=
  ⟨⟨by decide, rfl⟩, by decide +kernel, by decide +kernel, by decide +kernel,
    TimeZone.dayAt_utc_eq_ok_iff.2 ⟨by decide, rfl⟩,
    TimeZone.dayAt_utc_eq_ok_iff.2 ⟨by decide, rfl⟩,
    ⟨86399999000⟩, by decide +kernel, by decide, by decide +kernel⟩

/-- In that run the window that is closed begins on the date of the stamp. -/
theorem counted_before_report_gate :
    let run := ofArrivals "gate" hundredMinutes [⟨"a", 85000000, false⟩, ⟨"b", 87000000, false⟩]
    let outcome := run.tracker.deliver ⟨"c", 90000000, false⟩
    let windows := run.closedUntil outcome.state
    hundredMinutes.Accepted ∧ outcome.lines ≠ [] ∧ windows = [84000000] ∧
      run.Unbroken hundredMinutes ∧ (TimeZone.utc.localDate 84000000).index ≤ 0 ∧
      ∀ arrival ∈ inWindows hundredMinutes.windowMillis windows run.recorded,
        arrival.moment < 90000000 ∧ TimeZone.utc.DatesInOrder arrival.moment 90000000 ∧
        ((TimeZone.utc.localDate arrival.moment).index ≤ 0 ∨
          TimeZone.utc.localDate arrival.moment = ⟨1⟩ ∧ 84000000 ≤ arrival.moment) := by
  intro run outcome windows
  have accepted : hundredMinutes.Accepted := ⟨by decide, rfl⟩
  have wrote : outcome.lines ≠ [] := by decide +kernel
  have closed : windows = [84000000] := by decide +kernel
  have fine : run.Unbroken hundredMinutes := .inl (by decide)
  have shown' : TimeZone.utc.dayAt 90000000 = .ok ⟨1⟩ :=
    TimeZone.dayAt_utc_eq_ok_iff.2 ⟨by decide, rfl⟩
  obtain ⟨day, time, shown, stamped, -, -, before, dates⟩ :=
    counted_before_report "gate" accepted _ ⟨"c", 90000000, false⟩ wrote
  obtain ⟨closing, last, began, counted⟩ := dates fine
  obtain rfl : day = ⟨1⟩ := Except.ok.inj (shown.symm.trans shown')
  have stamp := (endOfPreviousDay_spec stamped).2.1
  obtain rfl : 84000000 = closing :=
    Option.some.inj ((congrArg List.getLast? closed).symm.trans last)
  rw [stamp] at began counted
  refine ⟨accepted, wrote, closed, fine, began (TimeZone.utc_datesInOrder _ _), ?_⟩
  intro arrival member
  have order := TimeZone.utc_datesInOrder arrival.moment 90000000
  exact ⟨before arrival member, order, counted arrival member order⟩

end Chronicle

end ArrivalRates
