import ArrivalRates.Proofs.ReportDates

/-!
# The days that scheduled reports cover

On UTC, with windows that divide a day, no window reaches past midnight. The first arrival of a new
day that is not dropped then closes the last window of the days before, and every scheduled report
counts exactly the arrivals of the whole days since the last reset: those that were recorded before
the report lie before its day, and those that are recorded after it do not. `Chronicle.Covers` says
where the recorded arrivals of a run are to be found.
-/

namespace ArrivalRates

open Tracker

def utcDay (moment : Int) : Int := moment / 86400000

theorem utcDay_mono {a b : Int} (order : a ≤ b) : utcDay a ≤ utcDay b := by
  unfold utcDay
  omega

theorem utcDay_of_within {config : Config} (accepted : config.Accepted)
    (divides : config.slots ∣ 144) {start moment : Int} (aligned : config.windowMillis ∣ start)
    (low : start ≤ moment) (high : moment < start + config.windowMillis) :
    utcDay moment = utcDay start := by
  obtain ⟨n, count⟩ := divides
  obtain ⟨k, rfl⟩ := aligned
  have positive := accepted.windowMillis_pos
  have day : (86400000 : Int) = config.windowMillis * n := by
    unfold Config.windowMillis bucketMillis
    rw [Int.mul_right_comm, ← count]
    rfl
  have quotient : moment / config.windowMillis = k := by
    rw [Int.ediv_eq_iff_of_pos positive]
    constructor
    · rwa [Int.mul_comm]
    · rwa [Int.mul_comm]
  rw [utcDay, utcDay, day, ← Int.ediv_ediv_of_nonneg positive.le, quotient,
    Int.mul_ediv_mul_of_pos _ _ positive]

namespace Chronicle

variable {source : String} {config : Config} {chronicle : Chronicle} {origin : Int}

/-- What a call does to the current window, the closed ones and the last reset, once there is a
window. -/
inductive Turn (config : Config) (chronicle : Chronicle) (arrival : Arrival) (span : Span)
    (after : Chronicle) : Prop where
  | stayed (current : after.tracker.window.span = some span)
      (closed : after.closed = chronicle.closed) (lastReset : after.lastReset = chronicle.lastReset)
  | moved (past : span.stop ≤ arrival.moment)
      (current : after.tracker.window.span = some (.around config.windowMillis arrival.moment))
      (closed : after.closed = chronicle.closed ++ [span.start])
      (lastReset : after.lastReset = chronicle.lastReset)
  | reset (past : span.stop ≤ arrival.moment)
      (wrote : (chronicle.tracker.deliver arrival).entries ≠ [])
      (current : after.tracker.window.span = some (.around config.windowMillis arrival.moment))
      (closed : after.closed = []) (lastReset : after.lastReset = some arrival)

theorem Sound.turn (sound : chronicle.Sound source config) (accepted : config.Accepted)
    {span : Span} (placed : chronicle.tracker.window.span = some span) (arrival : Arrival) :
    Turn config chronicle arrival span (chronicle.next arrival) := by
  have before := sound.noted arrival.moment
  obtain ⟨brought, advance, entries, -, -, span_eq⟩ :=
    (Tallies.deliver sound accepted arrival).1.brought
  have closed := chronicle.closed_next arrival
  have lastReset := chronicle.lastReset_next arrival
  cases advance with
  | unstarted inactive | opened inactive => rw [noted, placed] at inactive; cases inactive
  | stayed =>
    have silent : chronicle.tracker.resetEntry ∉ (chronicle.tracker.deliver arrival).entries := by
      rw [entries]
      exact List.not_mem_nil
    have same :
        chronicle.tracker.closedWindow? (chronicle.tracker.deliver arrival).state = none := by
      rw [closedWindow?, placed, span_eq]
      exact if_pos placed
    rw [if_neg silent] at closed lastReset
    rw [closedUntil, same, Option.toList_none, List.append_nil] at closed
    exact .stayed (span_eq.trans placed) closed lastReset
  | @moved span' _ placed' past due =>
    obtain rfl : span' = span := Option.some.inj (placed'.symm.trans placed)
    have moved : (chronicle.next arrival).tracker.window.span =
        some (.around config.windowMillis arrival.moment) := span_eq.trans (before.span_of_due due)
    by_cases resets : chronicle.tracker.resetEntry ∈ (chronicle.tracker.deliver arrival).entries
    · rw [if_pos resets] at closed lastReset
      exact .reset past (List.ne_nil_of_mem resets) moved closed lastReset
    · have closing := before.closedWindow?_rolledTo accepted placed past
        (chronicle.tracker.deliver arrival).state
        (span_eq.trans (congrArg Window.span due.window_eq))
      rw [if_neg resets] at closed lastReset
      exact .moved past moved (closed.trans (congrArg (chronicle.closed ++ ·.toList) closing))
        lastReset

/-- An arrival is recorded in the window that is current after its call, or not at all. -/
theorem Sound.recorded_next (sound : chronicle.Sound source config) (accepted : config.Accepted)
    (arrival : Arrival) :
    (chronicle.next arrival).recorded = chronicle.recorded ∨
      (chronicle.next arrival).recorded = chronicle.recorded ++ [arrival] ∧
        ∃ span, (chronicle.next arrival).tracker.window.span = some span ∧
          span.start ≤ arrival.moment := by
  have delivery := (Tallies.deliver sound accepted arrival).1
  unfold next
  generalize chronicle.tracker.deliver arrival = outcome at delivery
  cases delivery with
  | failed => exact .inl rfl
  | @answered brought _ _ answer span advance succeeds placed before inside =>
    cases answer with
    | false => exact .inl rfl
    | true => exact .inr ⟨rfl, span, placed, inside rfl⟩

/-- Where the recorded arrivals of a run are to be found: in the windows since the last reset, or on
the days before it. -/
structure Covers (config : Config) (chronicle : Chronicle) : Prop where
  closed_since : ∀ reset, chronicle.lastReset = some reset →
    ∀ start ∈ chronicle.closed, utcDay reset.moment ≤ utcDay start
  span_since : ∀ reset, chronicle.lastReset = some reset →
    ∀ span, chronicle.tracker.window.span = some span → utcDay reset.moment ≤ utcDay span.start
  found : ∀ arrival ∈ chronicle.recorded, ∀ span, chronicle.tracker.window.span = some span →
    span.start ≤ arrival.moment ∨
      (∃ start ∈ chronicle.closed,
        start ≤ arrival.moment ∧ arrival.moment < start + config.windowMillis) ∨
      ∃ reset, chronicle.lastReset = some reset ∧ utcDay arrival.moment < utcDay reset.moment

/-- What windows that divide a day on UTC add to a report: the window it closes and every arrival
recorded so far lie on days before its own. -/
theorem Started.utcDay_lt (started : chronicle.Started source config origin)
    (accepted : config.Accepted) (utc : config.zone = TimeZone.utc) (divides : config.slots ∣ 144)
    (fine : chronicle.Unbroken config) {event : Arrival} {span : Span} {decision : Decision}
    {time : WallTime}
    (reports : Reports config chronicle.recorded chronicle.closed chronicle.tracker event span
      decision time) :
    config.zone.dayAt event.moment = .ok decision.day ∧
      decision.day = ⟨utcDay event.moment⟩ ∧ utcDay span.start < utcDay event.moment ∧
      ∀ arrival ∈ chronicle.recorded, utcDay arrival.moment ≤ utcDay span.start := by
  obtain ⟨begins, first, last, scheduled, shown, -, answers⟩ := started.scheduled_of_reports reports
  have order : config.zone.DatesInOrder span.start event.moment :=
    utc ▸ TimeZone.utc_datesInOrder _ _
  have earlier := scheduled.localDate_lt fine begins order (Int.le_refl _) reports.past shown
    (answers.symm ▸ reports.emits)
  have current := started.sound.current span reports.placed
  have positive := accepted.windowMillis_pos
  have day : decision.day = ⟨utcDay event.moment⟩ :=
    (TimeZone.dayAt_utc_eq_ok_iff.1 (utc ▸ shown)).2
  refine ⟨shown, day, ?_, ?_⟩
  · rw [day, utc, TimeZone.localDate_utc] at earlier
    exact earlier
  · intro arrival member
    have stop := current.stop_eq
    have before := current.recorded_lt arrival member
    rw [← utcDay_of_within accepted divides current.aligned
      (by omega : span.start ≤ span.stop - 1) (by omega)]
    exact utcDay_mono (by omega)

/-- Every arrival on record was there before a call or lies in the window that is current then. -/
theorem Sound.mem_recorded_next (sound : chronicle.Sound source config)
    (accepted : config.Accepted) {arrival other : Arrival}
    (member : other ∈ (chronicle.next arrival).recorded) :
    other ∈ chronicle.recorded ∨
      ∃ span, (chronicle.next arrival).tracker.window.span = some span ∧
        span.start ≤ other.moment := by
  rcases sound.recorded_next accepted arrival with same | ⟨grown, inside⟩
  · exact .inl (same ▸ member)
  · rw [grown, List.mem_append, List.mem_singleton] at member
    rcases member with earlier | rfl
    · exact .inl earlier
    · exact .inr inside

theorem covers_first (accepted : config.Accepted) (arrival : Arrival) :
    ((begin source config).next arrival).Covers config := by
  have sound : (begin source config).Sound source config := sound_begin
  have silent : ((begin source config).tracker.deliver arrival).entries = [] := by
    by_contra wrote
    obtain ⟨span, decision, time, reports⟩ := Tallies.reports_of_entries sound accepted wrote
    cases reports.placed
  have lastReset : ((begin source config).next arrival).lastReset = none := by
    rw [lastReset_next, silent, if_neg List.not_mem_nil]
    rfl
  refine ⟨?_, ?_, ?_⟩
  · intro reset some
    rw [lastReset] at some
    cases some
  · intro reset some
    rw [lastReset] at some
    cases some
  · intro other member span placed
    rcases sound.mem_recorded_next accepted member with earlier | ⟨span', placed', inside⟩
    · cases earlier
    · obtain rfl : span' = span := Option.some.inj (placed'.symm.trans placed)
      exact .inl inside

section Steps

variable {after : Chronicle} {span : Span} {moment : Int}

private theorem Covers.stayed (covers : chronicle.Covers config)
    (recorded : ∀ other ∈ after.recorded, other ∈ chronicle.recorded ∨
      ∃ span, after.tracker.window.span = some span ∧ span.start ≤ other.moment)
    (same : after.tracker.window.span = chronicle.tracker.window.span)
    (closed : after.closed = chronicle.closed) (lastReset : after.lastReset = chronicle.lastReset) :
    after.Covers config := by
  refine ⟨?_, ?_, ?_⟩
  · rw [lastReset, closed]
    exact covers.closed_since
  · rw [lastReset, same]
    exact covers.span_since
  · intro other member span placed
    rcases recorded other member with earlier | ⟨span', placed', inside⟩
    · rw [closed, lastReset]
      exact covers.found other earlier span (same ▸ placed)
    · obtain rfl : span' = span := Option.some.inj (placed'.symm.trans placed)
      exact .inl inside

/-- What lay in the window that is left is found in the closed ones. -/
private theorem Covers.moved (covers : chronicle.Covers config)
    (recorded : ∀ other ∈ after.recorded, other ∈ chronicle.recorded ∨
      ∃ span, after.tracker.window.span = some span ∧ span.start ≤ other.moment)
    (placed : chronicle.tracker.window.span = some span)
    (current : Current config chronicle.recorded chronicle.closed chronicle.tracker.window span)
    (moved : after.tracker.window.span = some (.around config.windowMillis moment))
    (later : span.start ≤ config.windowStart moment)
    (closed : after.closed = chronicle.closed ++ [span.start])
    (lastReset : after.lastReset = chronicle.lastReset) : after.Covers config := by
  have stop := current.stop_eq
  refine ⟨?_, ?_, ?_⟩
  · intro reset some start member
    rw [lastReset] at some
    rw [closed, List.mem_append, List.mem_singleton] at member
    rcases member with earlier | rfl
    · exact covers.closed_since reset some start earlier
    · exact covers.span_since reset some span placed
  · intro reset some span' placed'
    rw [lastReset] at some
    obtain rfl := Option.some.inj (moved.symm.trans placed')
    exact (covers.span_since reset some span placed).trans (utcDay_mono later)
  · intro other member span' placed'
    rcases recorded other member with earlier | ⟨span'', placed'', inside⟩
    · rw [closed, lastReset]
      refine .inr ?_
      rcases covers.found other earlier span placed with inside | ⟨start, there, inside⟩ | before
      · have high := current.recorded_lt other earlier
        exact .inl ⟨span.start, by simp, inside, by omega⟩
      · exact .inl ⟨start, List.mem_append_left _ there, inside⟩
      · exact .inr before
    · obtain rfl : span'' = span' := Option.some.inj (placed''.symm.trans placed')
      exact .inl inside

/-- After a reset everything that was recorded before lies on earlier days. -/
private theorem covers_reset {arrival : Arrival}
    (recorded : ∀ other ∈ after.recorded, other ∈ chronicle.recorded ∨
      ∃ span, after.tracker.window.span = some span ∧ span.start ≤ other.moment)
    (earlierDays : ∀ other ∈ chronicle.recorded, utcDay other.moment < utcDay arrival.moment)
    (dated : utcDay arrival.moment = utcDay (config.windowStart arrival.moment))
    (moved : after.tracker.window.span = some (.around config.windowMillis arrival.moment))
    (closed : after.closed = []) (lastReset : after.lastReset = some arrival) :
    after.Covers config := by
  refine ⟨?_, ?_, ?_⟩
  · intro reset _ start member
    rw [closed] at member
    cases member
  · intro reset some span placed
    obtain rfl : arrival = reset := Option.some.inj (lastReset.symm.trans some)
    obtain rfl := Option.some.inj (moved.symm.trans placed)
    exact dated.le
  · intro other member span placed
    rcases recorded other member with earlier | ⟨span', placed', inside⟩
    · exact .inr (.inr ⟨arrival, lastReset, earlierDays other earlier⟩)
    · obtain rfl : span' = span := Option.some.inj (placed'.symm.trans placed)
      exact .inl inside

end Steps

theorem utcDay_windowStart (accepted : config.Accepted) (divides : config.slots ∣ 144)
    (moment : Int) : utcDay moment = utcDay (config.windowStart moment) :=
  utcDay_of_within accepted divides (Int.dvd_mul_left ..) (accepted.windowStart_le moment)
    (accepted.lt_windowStart_add moment)

theorem covers_next (covers : chronicle.Covers config)
    (started : chronicle.Started source config origin) (accepted : config.Accepted)
    (utc : config.zone = TimeZone.utc) (divides : config.slots ∣ 144)
    (fine : chronicle.Unbroken config) (arrival : Arrival) :
    (chronicle.next arrival).Covers config := by
  obtain ⟨span, placed, -, -⟩ := started.span
  have sound := started.sound
  have current := sound.current span placed
  have recorded : ∀ other ∈ (chronicle.next arrival).recorded,
      other ∈ chronicle.recorded ∨ ∃ span, (chronicle.next arrival).tracker.window.span =
        some span ∧ span.start ≤ other.moment :=
    fun _ member => sound.mem_recorded_next accepted member
  cases sound.turn accepted placed arrival with
  | stayed same closed lastReset =>
    exact covers.stayed recorded (same.trans placed.symm) closed lastReset
  | moved past moved closed lastReset =>
    have beyond := current.stop_le_windowStart accepted past
    have stop := current.stop_eq
    have positive := accepted.windowMillis_pos
    exact covers.moved recorded placed current moved (by omega) closed lastReset
  | reset past wrote moved closed lastReset =>
    obtain ⟨_, _, _, reports⟩ := Tallies.reports_of_entries sound accepted wrote
    obtain ⟨-, -, later, before⟩ := started.utcDay_lt accepted utc divides fine reports
    exact covers_reset recorded (fun other member => (before other member).trans_lt later)
      (utcDay_windowStart accepted divides arrival.moment) moved closed lastReset

/-! ### Whole runs -/

theorem failures_foldl_next (chronicle : Chronicle) (arrivals : List Arrival) :
    ∃ more, (arrivals.foldl next chronicle).failures = chronicle.failures ++ more := by
  refine foldl_next_induction (motive := fun later =>
    ∃ more, later.failures = chronicle.failures ++ more) ⟨[], (List.append_nil _).symm⟩ ?_ arrivals
  rintro later arrival ⟨more, failures⟩
  exact ⟨more ++ _, by rw [next, failures, List.append_assoc]⟩

/-- What is recorded from some call on lies in its current window or after it. -/
theorem Sound.recorded_foldl_next (sound : chronicle.Sound source config)
    (accepted : config.Accepted) {span : Span}
    (placed : chronicle.tracker.window.span = some span) (arrivals : List Arrival) :
    ∃ later, (arrivals.foldl next chronicle).recorded = chronicle.recorded ++ later ∧
      ∀ arrival ∈ later, span.start ≤ arrival.moment := by
  have run : (arrivals.foldl next chronicle).Sound source config ∧
      (∃ current, (arrivals.foldl next chronicle).tracker.window.span = some current ∧
        span.start ≤ current.start) ∧
      ∃ later, (arrivals.foldl next chronicle).recorded = chronicle.recorded ++ later ∧
        ∀ arrival ∈ later, span.start ≤ arrival.moment := by
    refine foldl_next_induction (motive := fun run => run.Sound source config ∧
      (∃ current, run.tracker.window.span = some current ∧ span.start ≤ current.start) ∧
      ∃ later, run.recorded = chronicle.recorded ++ later ∧
        ∀ arrival ∈ later, span.start ≤ arrival.moment) ?_ ?_ arrivals
    · exact ⟨sound, ⟨span, placed, Int.le_refl _⟩, [], (List.append_nil _).symm, by simp⟩
    · rintro run arrival ⟨sound, ⟨current, placed, low⟩, later, recorded, after⟩
      have moved : ∃ current', (run.next arrival).tracker.window.span = some current' ∧
          span.start ≤ current'.start := by
        have facts := sound.current current placed
        have stop := facts.stop_eq
        have positive := accepted.windowMillis_pos
        cases sound.turn accepted placed arrival with
        | stayed same => exact ⟨current, same, low⟩
        | moved past moved | reset past _ moved =>
          have beyond := facts.stop_le_windowStart accepted past
          refine ⟨_, moved, ?_⟩
          show span.start ≤ config.windowStart arrival.moment
          omega
      refine ⟨sound_next accepted sound arrival, moved, ?_⟩
      rcases sound.recorded_next accepted arrival with same | ⟨grown, inside⟩
      · exact ⟨later, same.trans recorded, after⟩
      · refine ⟨later ++ [arrival], by rw [grown, recorded, List.append_assoc], ?_⟩
        intro other member
        rw [List.mem_append, List.mem_singleton] at member
        rcases member with earlier | rfl
        · exact after other earlier
        · obtain ⟨current', placed', low'⟩ := moved
          obtain ⟨span', placed'', inside⟩ := inside
          obtain rfl : current' = span' := Option.some.inj (placed'.symm.trans placed'')
          omega
  exact run.2.2

theorem covers_ofArrivals (accepted : config.Accepted) (utc : config.zone = TimeZone.utc)
    (divides : config.slots ∣ 144) (first : Arrival) (rest : List Arrival)
    (fine : (ofArrivals source config (first :: rest)).failures = []) :
    (ofArrivals source config (first :: rest)).Covers config := by
  have run : (ofArrivals source config (first :: rest)).Started source config
        (config.windowStart first.moment) ∧
      ((ofArrivals source config (first :: rest)).failures = [] →
        (ofArrivals source config (first :: rest)).Covers config) := by
    refine foldl_next_induction (motive := fun run => run.Started source config
        (config.windowStart first.moment) ∧ (run.failures = [] → run.Covers config))
      ⟨started_first accepted first, fun _ => covers_first accepted first⟩ ?_ rest
    rintro run arrival ⟨started, covers⟩
    refine ⟨started_next accepted started arrival, fun fine => ?_⟩
    have none : run.failures = [] := (List.append_eq_nil_iff.1 fine).1
    exact covers_next (covers none) started accepted utc divides
      (.inr (by rw [none]; exact List.not_mem_nil)) arrival
  exact run.2 fine

/-- The arrivals of the days since the last reset and before a day. -/
def coveredDays (lastReset : Option Arrival) (day : Int) (arrivals : List Arrival) :
    List Arrival :=
  arrivals.filter fun arrival =>
    decide ((∀ reset ∈ lastReset, utcDay reset.moment ≤ utcDay arrival.moment) ∧
      utcDay arrival.moment < day)

theorem coveredDays_append {lastReset : Option Arrival} {day : Int} {earlier later : List Arrival}
    (after : ∀ arrival ∈ later, day ≤ utcDay arrival.moment) :
    coveredDays lastReset day (earlier ++ later) = coveredDays lastReset day earlier := by
  have none : coveredDays lastReset day later = [] := by
    refine List.filter_eq_nil_iff.2 fun arrival member => ?_
    have := after arrival member
    rw [decide_eq_true_eq]
    omega
  rw [coveredDays, List.filter_append, ← coveredDays, ← coveredDays, none, List.append_nil]

/-- The windows closed since the last reset hold the recorded arrivals of the days since then. -/
theorem Covers.inWindows_eq (covers : chronicle.Covers config) (accepted : config.Accepted)
    (divides : config.slots ∣ 144) {span : Span}
    (placed : chronicle.tracker.window.span = some span)
    (current : Current config chronicle.recorded chronicle.closed chronicle.tracker.window span)
    {day : Int} (later : utcDay span.start < day)
    (earlier : ∀ arrival ∈ chronicle.recorded, utcDay arrival.moment ≤ utcDay span.start) :
    inWindows config.windowMillis (chronicle.closed ++ [span.start]) chronicle.recorded =
      coveredDays chronicle.lastReset day chronicle.recorded := by
  refine List.filter_congr fun arrival member => ?_
  rw [Bool.eq_iff_iff, List.any_eq_true, decide_eq_true_eq]
  simp only [decide_eq_true_eq, List.mem_append, List.mem_singleton]
  constructor
  · rintro ⟨start, closing, low, high⟩
    have before := earlier arrival member
    refine ⟨fun reset some => ?_, by omega⟩
    rcases closing with there | rfl
    · rw [utcDay_of_within accepted divides (current.closed_le start there).1 low high]
      exact covers.closed_since reset some start there
    · rw [utcDay_of_within accepted divides current.aligned low high]
      exact covers.span_since reset some span placed
  · rintro ⟨since, -⟩
    rcases covers.found arrival member span placed with
      low | ⟨start, there, inside⟩ | ⟨reset, some, before⟩
    · have high := current.recorded_lt arrival member
      have stop := current.stop_eq
      exact ⟨span.start, .inr rfl, low, by omega⟩
    · exact ⟨start, .inl there, inside⟩
    · have := since reset some
      omega

/-- What is recorded from a reporting call on lies on its day or later. -/
theorem Sound.recorded_after_report (sound : chronicle.Sound source config)
    (accepted : config.Accepted) (divides : config.slots ∣ 144) {event : Arrival} {span : Span}
    {decision : Decision} {time : WallTime}
    (reports : Reports config chronicle.recorded chronicle.closed chronicle.tracker event span
      decision time) (future : List Arrival) :
    ∃ later, (future.foldl next (chronicle.next event)).recorded = chronicle.recorded ++ later ∧
      ∀ arrival ∈ later, utcDay event.moment ≤ utcDay arrival.moment := by
  have dated := utcDay_windowStart accepted divides event.moment
  obtain ⟨later, recorded, after⟩ :=
    (sound_next accepted sound event).recorded_foldl_next accepted reports.moved future
  have laterDays : ∀ arrival ∈ later, utcDay event.moment ≤ utcDay arrival.moment := by
    intro arrival member
    rw [dated]
    exact utcDay_mono (after arrival member)
  rcases sound.recorded_next accepted event with same | ⟨grown, -⟩
  · exact ⟨later, by rw [recorded, same], laterDays⟩
  · refine ⟨event :: later, by rw [recorded, grown, List.append_assoc, List.singleton_append], ?_⟩
    exact List.forall_mem_cons.2 ⟨Int.le_refl _, laterDays⟩

/-- A scheduled report on UTC, where windows divide a day and no call of the run fails, counts
exactly the recorded arrivals of the whole run that lie on the days since the last reset and before
its own, each of them once. It has a line for each size, which shows the source, the last second of
the day before and the statistics of these arrivals. -/
theorem report_covers_whole_days (source : String) (accepted : config.Accepted)
    (utc : config.zone = TimeZone.utc) (divides : config.slots ∣ 144)
    (past : List Arrival) (event : Arrival) (future : List Arrival)
    (fine : (ofArrivals source config (past ++ event :: future)).failures = [])
    (wrote : ((ofArrivals source config past).tracker.deliver event).lines ≠ []) :
    let before := ofArrivals source config past
    let run := ofArrivals source config (past ++ event :: future)
    let outcome := before.tracker.deliver event
    let windows := before.closedUntil outcome.state
    let day := utcDay event.moment
    let covered := coveredDays before.lastReset day run.recorded
    config.zone.dayAt event.moment = .ok ⟨day⟩ ∧
      inWindows config.windowMillis windows before.recorded = covered ∧
      windows.Pairwise (· < ·) ∧
      (∀ reset, before.lastReset = some reset → utcDay reset.moment < day) ∧
      ∃ date, (Day.mk (day - 1)).IsWritten date ∧
        IsReport source (date ++ " 23:59:59")
          (config.sizes.map (Statistics.batch config.slots windows covered)) outcome.lines := by
  intro before run outcome windows day covered
  have sound : before.Sound source config := sound_ofArrivals accepted past
  obtain ⟨span, decision, time, reports⟩ := Tallies.reports_of_lines sound accepted wrote
  have current := sound.current span reports.placed
  have run_eq : run = future.foldl next (before.next event) :=
    (ofArrivals_append past (event :: future)).trans rfl
  obtain ⟨more, failures⟩ := failures_foldl_next (before.next event) future
  rw [← run_eq, fine, eq_comm, List.append_eq_nil_iff] at failures
  obtain ⟨none, failed⟩ := List.append_eq_nil_iff.1 failures.1
  cases past with
  | nil => cases reports.placed
  | cons first rest =>
    have started : before.Started source config (config.windowStart first.moment) :=
      started_ofArrivals accepted first rest
    have covers : before.Covers config := covers_ofArrivals accepted utc divides first rest none
    have unbroken : before.Unbroken config := .inr (by rw [none]; exact List.not_mem_nil)
    obtain ⟨shown, day_eq, later, earlier⟩ :=
      started.utcDay_lt accepted utc divides unbroken reports
    have windows_eq : windows = before.closed ++ [span.start] :=
      closedUntil_of_closing reports.closing
    obtain ⟨more, recorded, after⟩ := sound.recorded_after_report accepted divides reports future
    have covered_eq : covered = coveredDays before.lastReset day before.recorded := by
      show coveredDays _ _ run.recorded = _
      rw [run_eq, recorded, coveredDays_append after]
    have counted : inWindows config.windowMillis windows before.recorded = covered := by
      rw [windows_eq, covered_eq]
      exact covers.inWindows_eq accepted divides reports.placed current later earlier
    obtain ⟨date, written, report⟩ := reports.isReport (by simpa using failed)
    rw [day_eq] at written shown
    refine ⟨shown, counted, ?_, ?_, date, written, ?_⟩
    · rw [windows_eq]
      exact current.ordered_concat accepted
    · intro reset some
      have since := covers.span_since reset some span reports.placed
      omega
    · have same : ∀ size, Statistics.batch config.slots windows covered size =
          Statistics.batch config.slots (before.closed ++ [span.start]) before.recorded size := by
        intro size
        rw [← counted, windows_eq]
        exact Statistics.batch_inWindows before.recorded
      rw [List.map_congr_left fun size _ => same size, ← sound.source_eq]
      exact report

def everyDay : Config := { Config.standard with frequency := .days 1 }

/-- The second report of a run covers the second day of 1970. -/
theorem report_covers_second_day :
    let past : List Arrival := [⟨"a", 0, false⟩, ⟨"b", 86000000, false⟩, ⟨"c", 90000000, false⟩,
      ⟨"d", 170000000, true⟩]
    let event : Arrival := ⟨"e", 180000000, false⟩
    let covered : List Arrival := [⟨"c", 90000000, false⟩, ⟨"d", 170000000, true⟩]
    let before := ofArrivals "gate" everyDay past
    let outcome := before.tracker.deliver event
    let windows := before.closedUntil outcome.state
    everyDay.Accepted ∧ everyDay.slots ∣ 144 ∧
      (ofArrivals "gate" everyDay (past ++ event :: [⟨"f", 180000001, false⟩])).failures = [] ∧
      outcome.lines ≠ [] ∧ before.lastReset = some ⟨"c", 90000000, false⟩ ∧
      inWindows everyDay.windowMillis windows before.recorded = covered ∧
      (∃ date, (Day.mk 1).IsWritten date ∧ IsReport "gate" (date ++ " 23:59:59")
        (everyDay.sizes.map (Statistics.batch everyDay.slots windows covered)) outcome.lines) ∧
      outcome.lines[4]? = some ("gate, 01/02/1970 23:59:59, IntervalSize=12, " ++
        "msg1UMIDAvgCount=0.50, msg2UMIDAvgCount=0.50, msg1UMIDCount=1, msg2UMIDCount=1, " ++
        "numOfIntervals=2, msg1UMIDStdDev=0.50, msg1UMIDMin=1, msg1UMIDMax=1, " ++
        "zeroCountIntervals=1, msg1TotalCount=1, msg2TotalCount=1") := by
  intro past event covered before outcome windows
  have accepted : everyDay.Accepted := ⟨by decide, rfl⟩
  have divides : everyDay.slots ∣ 144 := by decide
  have fine : (ofArrivals "gate" everyDay
      (past ++ event :: [⟨"f", 180000001, false⟩])).failures = [] := by decide +kernel
  have wrote : outcome.lines ≠ [] := by decide +kernel
  obtain ⟨-, counted, -, -, report⟩ :=
    report_covers_whole_days "gate" accepted rfl divides past event _ fine wrote
  have same : coveredDays before.lastReset (utcDay event.moment) (ofArrivals "gate" everyDay
      (past ++ event :: [⟨"f", 180000001, false⟩])).recorded = covered := by decide +kernel
  rw [same] at counted report
  exact ⟨accepted, divides, fine, wrote, by decide +kernel, counted, report, by decide +kernel⟩

end Chronicle

end ArrivalRates
