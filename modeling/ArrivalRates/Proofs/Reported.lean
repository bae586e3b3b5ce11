import ArrivalRates.Proofs.Conservation
import ArrivalRates.Proofs.Coverage
import ArrivalRates.Proofs.ServiceRuns

/-!
# Every recorded event is reported, or still in the open window

A reset throws statistics away only after all of their lines were written, so a recorded arrival is
in the current window, or in a closed window that the statistics still count, or counted in a line
that was written: `Ledger.Found`. The final report of a service turns the second case into the
third. It never looks at a current window, and it ends at the first tracker whose report fails.
-/

namespace ArrivalRates

open Arrivals Chronicle

/-! ### Stamps -/

namespace Tracker

/-- What a report out of schedule shows for its time: the clock of the zone at the last arrival, or
that there was none. -/
def LastSeen (tracker : Tracker) (stamp : String) : Prop :=
  match tracker.window.lastEvent with
  | none => stamp = "EndOfFile_No_Date"
  | some moment => tracker.config.zone.Displays moment stamp

/-- The stamp of what a call writes. An arrival brings a report under the last second of the day
before the one for which the schedule decides. -/
def Stamps (tracker : Tracker) (stamp : String) : Call → Prop
  | .arrive arrival => ∃ decision date,
      tracker.schedule.decisionAt arrival.moment = .ok decision ∧
        (Day.mk (decision.day.index - 1)).IsWritten date ∧ stamp = date ++ " 23:59:59"
  | .startLogger _ => False
  | .report none => tracker.LastSeen stamp
  | .report (some own) => stamp = own

variable {tracker : Tracker} {stamp : String}

theorem lastSeen_of_stamped (stamped : tracker.lastEventStamp = .ok stamp) :
    tracker.LastSeen stamp := by
  unfold lastEventStamp at stamped
  unfold LastSeen
  cases last : tracker.window.lastEvent with
  | none =>
    rw [last] at stamped
    exact (Except.ok.inj stamped).symm
  | some moment =>
    rw [last] at stamped
    obtain ⟨time, shown, rfl⟩ := map_eq_ok stamped
    exact TimeZone.displays_stamp shown

theorem isReport_report (whole : (tracker.report none).result = .ok ()) :
    ∃ stamp, tracker.lastEventStamp = .ok stamp ∧
      IsReport tracker.source stamp tracker.statistics (tracker.report none).lines := by
  unfold report at *
  cases stamped : tracker.lastEventStamp with
  | error failure =>
    rw [stamped] at whole
    cases whole
  | ok stamp =>
    rw [stamped] at whole
    refine ⟨stamp, rfl, ?_⟩
    dsimp only
    rw [writeReport, Outcome.lines, Entry.filterMap_line?]
    exact isReport_reportLines whole

end Tracker

/-! ### Lines that count an arrival -/

namespace Ledger

/-- The windows that have been closed since the last reset when a call writes. -/
def closedBy (ledger : Ledger) (call : Call) : List Int :=
  ledger.closedUntil (ledger.tracker.perform call).state

/-- A call writes a whole report on the windows closed since the last reset, with what was recorded
in them until then. -/
structure WritesReport (config : Config) (key : String) (ledger : Ledger) (call : Call)
    (stamp : String) : Prop where
  ordered : (ledger.closedBy call).Pairwise (· < ·)
  aligned : ∀ start ∈ ledger.closedBy call, config.windowMillis ∣ start
  stamped : ledger.tracker.Stamps stamp call
  report : IsReport key stamp
    (config.sizes.map (Statistics.batch config.slots (ledger.closedBy call) ledger.recorded))
    (ledger.tracker.perform call).lines

end Ledger

/-- One of some calls wrote a line in a whole report, and the arrival is among those that it
counts. -/
def Config.CountedIn (config : Config) (key : String) (calls : List Call) (arrival : Arrival)
    (line : String) : Prop :=
  ∃ earlier call stamp size, earlier ++ [call] <+: calls ∧
    let before := Ledger.ofCalls key config earlier
    before.WritesReport config key call stamp ∧
      arrival ∈ inWindows config.windowMillis (before.closedBy call) before.recorded ∧
      size ∈ config.sizes ∧ line ∈ (before.tracker.perform call).lines ∧
      (Statistics.batch config.slots (before.closedBy call) before.recorded size).ShownIn key stamp
        line

theorem Config.CountedIn.mono {config : Config} {key line : String} {arrival : Arrival}
    {calls later : List Call} (counted : config.CountedIn key calls arrival line)
    (grown : calls <+: later) : config.CountedIn key later arrival line := by
  obtain ⟨earlier, call, stamp, size, before, rest⟩ := counted
  exact ⟨earlier, call, stamp, size, before.trans grown, rest⟩

theorem Config.Accepted.sizes_ne_nil {config : Config} (accepted : config.Accepted) :
    config.sizes ≠ [] := by
  intro none
  have layout := accepted.layout
  rw [none] at layout
  cases layout

theorem IsReport.exists_shownIn {source stamp : String} {statistics : List Statistics}
    {lines : List String} (report : IsReport source stamp statistics lines) {stats : Statistics}
    (member : stats ∈ statistics) : ∃ line ∈ lines, stats.ShownIn source stamp line := by
  obtain ⟨i, inside, rfl⟩ := List.getElem_of_mem member
  have written : i < lines.length := report.length_eq ▸ inside
  exact ⟨_, List.getElem_mem written, report.get inside written⟩

namespace Ledger

variable {key : String} {config : Config} {ledger : Ledger} {calls : List Call}

/-- Whoever reports on closed windows without breaking off counts each of their arrivals. -/
theorem WritesReport.exists_countedIn {call : Call} {stamp : String} {arrival : Arrival}
    (writes : (ofCalls key config calls).WritesReport config key call stamp)
    (accepted : config.Accepted)
    (inside : arrival ∈ inWindows config.windowMillis ((ofCalls key config calls).closedBy call)
      (ofCalls key config calls).recorded) :
    ∃ line ∈ ((ofCalls key config calls).tracker.perform call).lines,
      config.CountedIn key (calls ++ [call]) arrival line := by
  obtain ⟨size, member⟩ := List.exists_mem_of_ne_nil _ accepted.sizes_ne_nil
  obtain ⟨line, written, shown⟩ := writes.report.exists_shownIn (List.mem_map_of_mem member)
  exact ⟨line, written, calls, call, stamp, size, List.prefix_refl _, writes, inside, member,
    written, shown⟩

/-- A reset follows a whole report, in which the current window is closed. -/
theorem writesReport_of_reset (accepted : config.Accepted) (sound : ledger.Sound key config)
    {arrival : Arrival}
    (resets : ledger.tracker.resetEntry ∈ (ledger.tracker.deliver arrival).entries) :
    ∃ span stamp, ledger.tracker.window.span = some span ∧
      ledger.closedBy (.arrive arrival) = ledger.closed ++ [span.start] ∧
      ledger.WritesReport config key (.arrive arrival) stamp := by
  obtain ⟨span, decision, time, reports, fine, -⟩ :=
    Tracker.Tallies.reports_of_reset sound accepted resets
  have closed : ledger.closedBy (.arrive arrival) = ledger.closed ++ [span.start] :=
    closedUntil_of_closing reports.closing
  obtain ⟨ordered, aligned⟩ :=
    (Tracker.Tallies.rolledTo sound accepted reports.placed reports.past).closed_spec
  obtain ⟨date, written, report⟩ := reports.isReport fine
  rw [sound.source_eq] at report
  rw [← closed] at ordered aligned report
  exact ⟨span, _, reports.placed, closed, ordered, aligned,
    ⟨decision, date, reports.decided, written, rfl⟩, report⟩

/-- A report out of schedule that does not fail is whole, and no window is closed in it. -/
theorem writesReport_of_ok (sound : ledger.Sound key config)
    (whole : (ledger.tracker.report none).result = .ok ()) :
    ∃ stamp, ledger.closedBy (.report none) = ledger.closed ∧
      ledger.WritesReport config key (.report none) stamp := by
  have unscheduled : Call.arrival? (.report none) = none := rfl
  obtain ⟨⟨_, _, state⟩, -⟩ := ledger.tracker.noticed_perform unscheduled
  have closed : ledger.closedBy (.report none) = ledger.closed := by
    unfold closedBy closedUntil Tracker.closedWindow?
    rw [state]
    cases placed : ledger.tracker.window.span <;> simp [Tracker.withNotices, placed]
  obtain ⟨ordered, aligned⟩ := Tracker.Tallies.closed_spec sound
  obtain ⟨stamp, stamped, report⟩ := Tracker.isReport_report whole
  rw [sound.source_eq, sound.statistics_eq] at report
  rw [← closed] at ordered aligned report
  refine ⟨stamp, closed, ordered, aligned, Tracker.lastSeen_of_stamped stamped, ?_⟩
  rw [Tracker.perform_report]
  exact report

/-! ### One tracker -/

/-- Where the arrivals are to be found that some calls have recorded. -/
def Found (config : Config) (key : String) (calls : List Call) : Prop :=
  ∀ arrival ∈ (ofCalls key config calls).recorded,
    (∃ span, (ofCalls key config calls).tracker.window.span = some span ∧
      span.start ≤ arrival.moment) ∨
    (∃ start ∈ (ofCalls key config calls).closed,
      start ≤ arrival.moment ∧ arrival.moment < start + config.windowMillis) ∨
    ∃ line ∈ (ofCalls key config calls).lines, config.CountedIn key calls arrival line

/-- When the statistics start anew, every arrival recorded so far has been written. -/
theorem Found.reset (found : Found config key calls) (accepted : config.Accepted)
    {arrival : Arrival}
    (resets : (ofCalls key config calls).tracker.resetEntry ∈
      ((ofCalls key config calls).tracker.deliver arrival).entries) :
    ∀ other ∈ (ofCalls key config calls).recorded,
      ∃ line ∈ (ofCalls key config (calls ++ [.arrive arrival])).lines,
        config.CountedIn key (calls ++ [.arrive arrival]) other line := by
  have sound : (ofCalls key config calls).Sound key config := sound_ofCalls accepted calls
  obtain ⟨span, stamp, placed, closed, writes⟩ := writesReport_of_reset accepted sound resets
  have current := sound.current span placed
  rw [ofCalls_concat]
  have counted : ∀ other,
      other ∈ inWindows config.windowMillis ((ofCalls key config calls).closed ++ [span.start])
        (ofCalls key config calls).recorded →
      ∃ line ∈ ((ofCalls key config calls).perform (.arrive arrival)).lines,
        config.CountedIn key (calls ++ [.arrive arrival]) other line := by
    intro other inside
    rw [← closed] at inside
    obtain ⟨line, member, counts⟩ := writes.exists_countedIn accepted inside
    exact ⟨line, List.mem_append_right _ member, counts⟩
  intro other member
  rcases found other member with ⟨span', placed', low⟩ | ⟨start, closing, inside⟩ |
    ⟨line, there, counts⟩
  · obtain rfl := Option.some.inj (placed.symm.trans placed')
    have high := current.recorded_lt other member
    rw [current.stop_eq] at high
    exact counted other (mem_inWindows.2 ⟨member, span.start, by simp, low, high⟩)
  · exact counted other (mem_inWindows.2 ⟨member, start, List.mem_append_left _ closing, inside⟩)
  · exact ⟨line, List.mem_append_left _ there, counts.mono (List.prefix_append ..)⟩

/-- Without a reset, an arrival stays in its window, open or closed by the call. -/
theorem Found.kept (found : Found config key calls) (accepted : config.Accepted)
    {arrival : Arrival}
    (kept : (ofCalls key config calls).tracker.resetEntry ∉
      ((ofCalls key config calls).tracker.deliver arrival).entries) :
    let after := (ofCalls key config calls).perform (.arrive arrival)
    ∀ other ∈ (ofCalls key config calls).recorded,
      (∃ span, after.tracker.window.span = some span ∧ span.start ≤ other.moment) ∨
      (∃ start ∈ after.closed,
        start ≤ other.moment ∧ other.moment < start + config.windowMillis) ∨
      ∃ line ∈ (ofCalls key config calls).lines, config.CountedIn key calls other line := by
  intro after
  have sound : (ofCalls key config calls).Sound key config := sound_ofCalls accepted calls
  have closed : after.closed = (ofCalls key config calls).closedUntil after.tracker :=
    ((ofCalls key config calls).closed_next arrival).trans (if_neg kept)
  rw [closed, closedUntil]
  intro other member
  rcases found other member with ⟨span, placed, low⟩ | ⟨start, earlier, inside⟩ | written
  · by_cases same : after.tracker.window.span = some span
    · exact .inl ⟨span, same, low⟩
    · have current := sound.current span placed
      have high := current.recorded_lt other member
      rw [current.stop_eq] at high
      refine .inr (.inl ⟨span.start, List.mem_append_right _ ?_, low, high⟩)
      simp [Tracker.closedWindow?, placed, same]
  · exact .inr (.inl ⟨start, List.mem_append_left _ earlier, inside⟩)
  · exact .inr (.inr written)

theorem found_arrive (found : Found config key calls) (accepted : config.Accepted)
    (arrival : Arrival) : Found config key (calls ++ [.arrive arrival]) := by
  have sound : (ofCalls key config calls).Sound key config := sound_ofCalls accepted calls
  have next := Chronicle.Sound.recorded_next sound accepted arrival
  intro other member
  by_cases earlier : other ∈ (ofCalls key config calls).recorded
  · by_cases resets : (ofCalls key config calls).tracker.resetEntry ∈
      ((ofCalls key config calls).tracker.deliver arrival).entries
    · exact .inr (.inr (found.reset accepted resets other earlier))
    · rw [ofCalls_concat]
      rcases found.kept accepted resets other earlier with
        current | closed | ⟨line, written, counts⟩
      · exact .inl current
      · exact .inr (.inl closed)
      · exact .inr (.inr ⟨line, List.mem_append_left _ written,
          counts.mono (List.prefix_append ..)⟩)
  · rw [ofCalls_concat] at member ⊢
    rcases next with same | ⟨longer, span, placed, low⟩
    · exact absurd (same ▸ member) earlier
    · have added : other ∈ (ofCalls key config calls).recorded ++ [arrival] := longer ▸ member
      obtain rfl := List.mem_singleton.1 ((List.mem_append.1 added).resolve_left earlier)
      exact .inl ⟨span, placed, low⟩

theorem found_other (found : Found config key calls) {call : Call}
    (other : call.arrival? = none) : Found config key (calls ++ [call]) := by
  obtain ⟨_, _, tracker⟩ := (ofCalls key config calls).tracker_other other
  unfold Found
  rw [ofCalls_concat, tracker, recorded_other _ other, closed_other _ other]
  intro arrival member
  rcases found arrival member with current | closed | ⟨line, written, counts⟩
  · exact .inl current
  · exact .inr (.inl closed)
  · exact .inr (.inr ⟨line, List.mem_append_left _ written, counts.mono (List.prefix_append ..)⟩)

theorem found_ofCalls (accepted : config.Accepted) (calls : List Call) :
    Found config key calls := by
  induction calls using List.reverseRecOn with
  | nil =>
    intro _ member
    cases member
  | append_singleton calls call ih =>
    rcases call.arrive_or_other with ⟨arrival, rfl⟩ | other
    · exact found_arrive ih accepted arrival
    · exact found_other ih other

/-- A report out of schedule that does not fail leaves only the current window out. -/
theorem Found.report (found : Found config key calls) (accepted : config.Accepted)
    (whole : ((ofCalls key config calls).tracker.report none).result = .ok ()) :
    ∀ arrival ∈ (ofCalls key config calls).recorded,
      (∃ span, (ofCalls key config calls).tracker.window.span = some span ∧
        span.start ≤ arrival.moment ∧ arrival.moment < span.stop) ∨
      ∃ line ∈ (ofCalls key config calls).lines ++
          ((ofCalls key config calls).tracker.report none).lines,
        config.CountedIn key (calls ++ [.report none]) arrival line := by
  have sound : (ofCalls key config calls).Sound key config := sound_ofCalls accepted calls
  intro arrival member
  rcases found arrival member with ⟨span, placed, low⟩ | ⟨start, closing, inside⟩ |
    ⟨line, written, counts⟩
  · have current := sound.current span placed
    exact .inl ⟨span, placed, low, current.recorded_lt arrival member⟩
  · obtain ⟨stamp, closed, writes⟩ := writesReport_of_ok sound whole
    rw [← closed] at closing
    obtain ⟨line, written, counts⟩ :=
      writes.exists_countedIn accepted (mem_inWindows.2 ⟨member, start, closing, inside⟩)
    rw [Tracker.perform_report] at written
    exact .inr ⟨line, List.mem_append_right _ written, counts⟩
  · exact .inr ⟨line, List.mem_append_left _ written, counts.mono (List.prefix_append ..)⟩

end Ledger

/-! ### The registry -/

namespace Registry

theorem lines_reportEach_cons (registry : Registry) {tracker : Tracker}
    (whole : (tracker.report none).result = .ok ()) (rest : List Tracker) :
    (registry.reportEach (tracker :: rest)).lines = (tracker.report none).lines ++
      ((registry.put (tracker.report none).state).reportEach rest).lines := by
  rw [registry.reportEach_cons whole, Outcome.lines, List.filterMap_append]
  rfl

/-- Unless one of them fails, the reports up to that of a tracker are written. -/
theorem lines_reportEach (registry : Registry) (earlier : List Tracker) (tracker : Tracker)
    (later : List Tracker) :
    (∃ other ∈ earlier ++ [tracker], ∃ failure, (other.report none).result = .error failure) ∨
      (tracker.report none).result = .ok () ∧ (tracker.report none).lines ⊆
        (registry.reportEach (earlier ++ tracker :: later)).lines := by
  induction earlier generalizing registry with
  | nil =>
    cases result : (tracker.report none).result with
    | error failure => exact .inl ⟨tracker, by simp, failure, result⟩
    | ok =>
      refine .inr ⟨rfl, ?_⟩
      rw [List.nil_append, registry.lines_reportEach_cons result]
      exact List.subset_append_left ..
  | cons first rest ih =>
    cases result : (first.report none).result with
    | error failure => exact .inl ⟨first, by simp, failure, result⟩
    | ok =>
      rw [List.cons_append, List.cons_append, registry.lines_reportEach_cons result]
      rcases ih (registry.put (first.report none).state) with
        ⟨other, member, fails⟩ | ⟨whole, shown⟩
      · exact .inl ⟨other, List.mem_cons_of_mem _ member, fails⟩
      · exact .inr ⟨whole, List.subset_append_of_subset_right _ shown⟩

theorem lines_requestReport_all (registry : Registry) :
    (registry.requestReport everySource).lines = (registry.reportEach registry.trackers).lines := by
  rw [requestReport, if_pos rfl, Outcome.andThen_done]
  rfl

end Registry

/-! ### The service -/

namespace Diary

variable {config : Config} {service : Service}

/-- When a service whose queues are empty ends, every event that was recorded is counted in a line
that was written, the final report included: a line of a whole report on the windows that its
tracker had closed until then. Two things can keep it from that: the window it lies in is still
open, or the final report failed at the tracker of the event or at one before it. -/
theorem recorded_reported (wide : 1 ≤ config.slots) (created : Service.create config = .ok service)
    (assignment : Assignment) (steps : List Service.Step)
    (drained : (ofSteps assignment service steps).service.Drained) :
    let run := ofSteps assignment service steps
    let final := run.service.shutdown
    run.service.totals.recorded = run.recorded.length ∧
    ∀ event ∈ run.recorded, ∃ earlier tracker later calls,
      run.service.registry.trackers = earlier ++ tracker :: later ∧
      tracker.source = config.keyOf event.source ∧
      (Ledger.ofCalls tracker.source config calls).tracker = tracker ∧
      (Ledger.ofCalls tracker.source config calls).recorded =
        config.arrivalsOf tracker.source run.recorded ∧
      ((∃ span, tracker.window.span = some span ∧ span.start ≤ event.arrival ∧
          event.arrival < span.stop) ∨
        (∃ line ∈ run.lines ++ final.lines,
          config.CountedIn tracker.source (calls ++ [.report none]) event.toArrival line) ∨
        ∃ other ∈ earlier ++ [tracker], ∃ failure,
          (other.report none).result = .error failure) := by
  intro run final
  have accepted : config.Accepted := ⟨wide, (Service.create_eq created).1⟩
  obtain ⟨count, history, traced⟩ : run.Traced config := traced_ofSteps wide created steps
  refine ⟨count, ?_⟩
  intro event member
  obtain ⟨recorded, there⟩ := traced.ledger_of_mem member
  generalize config.keyOf event.source = key at *
  obtain ⟨earlier, later, split⟩ := List.append_of_mem there
  have lines : final.lines =
      (run.service.registry.reportEach
        (earlier ++ (config.ledger history key).tracker :: later)).lines := by
    rw [← split, ← Registry.lines_requestReport_all]
    show run.service.shutdown.lines = _
    rw [Service.shutdown_of_drained drained]
    rfl
  have source := config.source_ledger accepted history key
  refine ⟨earlier, _, later, history key, split, source, ?_, ?_, ?_⟩
  · rw [source]
    rfl
  · rw [source]
    exact traced.recorded_eq key
  -- the final report reaches the tracker of the event unless it fails there or before
  rcases run.service.registry.lines_reportEach earlier (config.ledger history key).tracker
    later with failed | ⟨whole, shown⟩
  · exact .inr (.inr failed)
  · have found := (Ledger.found_ofCalls accepted (history key)).report accepted whole
      event.toArrival recorded
    rcases found with current | ⟨line, written, counted⟩
    · exact .inl current
    · refine .inr (.inl ⟨line, ?_, ?_⟩)
      · rcases List.mem_append.1 written with before | now
        · exact List.mem_append_left _ (traced.lines_subset key before)
        · exact List.mem_append_right _ (lines ▸ shown now)
      · rw [source]
        exact counted

def twoHours : Config := { Config.standard with sizes := [12] }

def idleService (config : Config) : Service :=
  { registry := .create config, queues := List.replicate Service.workers {} }

/-- The final report leaves the open window out: an event that was recorded is in no line. -/
theorem open_window_unreported :
    let run := ofSteps (fun _ => 0) (idleService twoHours)
      [.publish [⟨"gate", "a", 0, false, false⟩], .work 0 Service.batchSize]
    let final := run.service.shutdown
    1 ≤ twoHours.slots ∧ Service.create twoHours = .ok (idleService twoHours) ∧
      run.service.Drained ∧ run.recorded = [⟨"gate", "a", 0, false, false⟩] ∧
      final.result = .ok 1 ∧
      run.lines ++ final.lines =
        ["gate, 01/01/1970 00:00:00, IntervalSize=12, msg1UMIDAvgCount=0.00, " ++
          "msg2UMIDAvgCount=0.00, msg1UMIDCount=0, msg2UMIDCount=0, numOfIntervals=0, " ++
          "msg1UMIDStdDev=0.00, msg1UMIDMin=9223372036854775807, msg1UMIDMax=0, " ++
          "zeroCountIntervals=0, msg1TotalCount=0, msg2TotalCount=0"] := by
  refine ⟨by decide, rfl, ?_⟩
  decide +kernel

theorem recorded_reported_gate :
    let events : List Event :=
      [⟨"gate", "a", 0, false, false⟩, ⟨"gate", "b", 7200000, false, false⟩]
    let run := ofSteps (fun _ => 0) (idleService twoHours)
      [.publish events, .work 0 Service.batchSize]
    let text := "gate, 01/01/1970 02:00:00, IntervalSize=12, msg1UMIDAvgCount=1.00, " ++
      "msg2UMIDAvgCount=0.00, msg1UMIDCount=1, msg2UMIDCount=0, numOfIntervals=1, " ++
      "msg1UMIDStdDev=0.00, msg1UMIDMin=1, msg1UMIDMax=1, zeroCountIntervals=0, " ++
      "msg1TotalCount=1, msg2TotalCount=0"
    1 ≤ twoHours.slots ∧ Service.create twoHours = .ok (idleService twoHours) ∧
      run.service.Drained ∧ run.recorded = events ∧
      run.lines ++ run.service.shutdown.lines = [text] ∧
      ∃ calls, (Ledger.ofCalls "gate" twoHours calls).recorded = events.map Event.toArrival ∧
        twoHours.CountedIn "gate" (calls ++ [.report none]) ⟨"a", 0, false⟩ text := by
  intro events run text
  have wide : 1 ≤ twoHours.slots := by decide
  have created : Service.create twoHours = .ok (idleService twoHours) := rfl
  have drained : run.service.Drained := by decide +kernel
  have recorded : run.recorded = events := by decide +kernel
  have lines : run.lines ++ run.service.shutdown.lines = [text] := by decide +kernel
  have known : ∀ tracker ∈ run.service.registry.trackers,
      tracker.window.span = some ⟨7200000, 14400000⟩ ∧ (tracker.report none).result = .ok () := by
    decide +kernel
  refine ⟨wide, created, drained, recorded, lines, ?_⟩
  obtain ⟨-, reported⟩ := recorded_reported wide created (fun _ => 0) _ drained
  obtain ⟨earlier, tracker, later, calls, split, source, -, arrivals, cases⟩ :=
    reported ⟨"gate", "a", 0, false, false⟩ (recorded.symm ▸ List.mem_cons_self)
  have here : tracker ∈ run.service.registry.trackers := split.symm ▸ by simp
  rcases cases with ⟨span, placed, low, -⟩ | ⟨line, written, counted⟩ | ⟨other, before, _, fails⟩
  · obtain rfl := Option.some.inj ((known tracker here).1.symm.trans placed)
    exact absurd low (by decide)
  · have key : tracker.source = "gate" := source
    rw [key] at counted arrivals
    have this : line = text := List.mem_singleton.1 (lines ▸ written)
    refine ⟨calls, arrivals.trans ?_, this ▸ counted⟩
    rw [recorded]
    rfl
  · have among : other ∈ run.service.registry.trackers := by
      rw [show run.service.registry.trackers = (earlier ++ [tracker]) ++ later by simpa using split]
      exact List.mem_append_left _ before
    cases (known other among).2.symm.trans fails

end Diary

end ArrivalRates
