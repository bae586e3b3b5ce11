import ArrivalRates.Proofs.Reported

/-!
# Reports of all trackers

A report out of schedule is stamped with the last arrival of its tracker, and a tracker keeps the
arrival of a call that failed. If the calendar does not reach that arrival, the tracker cannot
report, and the reports of all trackers end there, in the order in which trackers were made. So a
source whose arrivals are past the calendar silences every source that came after it.
-/

namespace ArrivalRates

namespace Tracker

variable {source : String} {config : Config} {recorded : List Arrival} {closed : List Int}
  {tracker : Tracker} {stamp : String} {failure : Failure}

/-- There was no arrival yet, or the calendar reaches the last one. -/
def Dated (tracker : Tracker) : Prop :=
  ∀ moment ∈ tracker.window.lastEvent, tracker.config.zone.Shows moment

instance (tracker : Tracker) : Decidable tracker.Dated :=
  inferInstanceAs (Decidable (∀ moment ∈ tracker.window.lastEvent, _))

theorem dated_iff : tracker.Dated ↔ ∃ stamp, tracker.lastEventStamp = .ok stamp := by
  unfold Dated lastEventStamp
  cases tracker.window.lastEvent with
  | none => simp
  | some moment =>
    simp only [Option.mem_some_iff, forall_eq', TimeZone.shows_iff]
    cases tracker.config.zone.atMillis moment <;> simp [Except.map]

theorem report_of_stamp (stamped : tracker.lastEventStamp = .ok stamp) :
    tracker.report none = tracker.writeReport stamp := by
  simp only [report, stamped]

theorem report_of_not_dated (undated : ¬tracker.Dated) :
    ∃ failure, tracker.report none = .failed tracker failure := by
  cases unstamped : tracker.lastEventStamp with
  | error failure => exact ⟨failure, by simp only [report, unstamped]⟩
  | ok stamp => exact absurd (dated_iff.2 ⟨stamp, unstamped⟩) undated

/-- A report out of schedule has one line for each of the statistics, stamped with the last
arrival. -/
def WritesWhole (tracker : Tracker) : Prop :=
  (tracker.report none).result = .ok () ∧ ∃ stamp, tracker.lastEventStamp = .ok stamp ∧
    tracker.LastSeen stamp ∧
    IsReport tracker.source stamp tracker.statistics (tracker.report none).lines

theorem WritesWhole.dated (whole : tracker.WritesWhole) : tracker.Dated := by
  obtain ⟨-, stamp, stamped, -⟩ := whole
  exact dated_iff.2 ⟨stamp, stamped⟩

theorem writesWhole_of_ok (succeeds : (tracker.report none).result = .ok ()) :
    tracker.WritesWhole := by
  obtain ⟨stamp, stamped, report⟩ := isReport_report succeeds
  exact ⟨succeeds, stamp, stamped, lastSeen_of_stamped stamped, report⟩

theorem WritesWhole.lines_ne_nil (whole : tracker.WritesWhole) (sized : tracker.statistics ≠ []) :
    (tracker.report none).lines ≠ [] := by
  obtain ⟨-, stamp, -, -, report⟩ := whole
  intro none
  rw [none] at report
  exact sized (List.forall₂_nil_right_iff.1 report)

/-- Only with room for more ids than there are 64-bit integers can a report break off that has its
stamp. -/
theorem Tallies.report_of_dated (tallies : Tallies source config recorded closed tracker)
    (accepted : config.Accepted) (dated : tracker.Dated) :
    tracker.WritesWhole ∨ noMinimum < config.maxMessages ∧
      (tracker.report none).result = .error .quotientTooLarge := by
  obtain ⟨stamp, stamped⟩ := dated_iff.1 dated
  cases written : reportLines tracker.source stamp tracker.statistics with
  | mk lines result =>
    cases result with
    | ok =>
      refine .inl (writesWhole_of_ok ?_)
      rw [report_of_stamp stamped]
      exact congrArg Prod.snd written
    | error failure =>
      obtain rfl := reportLines_error_eq written
      refine .inr ⟨?_, ?_⟩
      · by_contra bounded
        have whole := tallies.reportLines_ok accepted (not_lt.1 bounded) tracker.source stamp
        rw [written] at whole
        cases whole
      · rw [report_of_stamp stamped]
        exact congrArg Prod.snd written

end Tracker

/-! ### One report after the other -/

namespace Registry

def linesOf (trackers : List Tracker) : List String :=
  trackers.flatMap fun tracker => (tracker.report none).lines

/-- How reports go: all of them are written, or they end at the first one that fails. -/
inductive Reporting : List Tracker → Except Failure Unit → List String → Prop where
  | all {trackers : List Tracker} (whole : ∀ tracker ∈ trackers, tracker.WritesWhole) :
      Reporting trackers (.ok ()) (linesOf trackers)
  | broken {reported later : List Tracker} {broken : Tracker} {failure : Failure}
      (whole : ∀ tracker ∈ reported, tracker.WritesWhole)
      (fails : (broken.report none).result = .error failure) :
      Reporting (reported ++ broken :: later) (.error failure) (linesOf (reported ++ [broken]))

theorem Reporting.cons {tracker : Tracker} {trackers : List Tracker} {result : Except Failure Unit}
    {lines : List String} (reporting : Reporting trackers result lines)
    (first : tracker.WritesWhole) :
    Reporting (tracker :: trackers) result ((tracker.report none).lines ++ lines) := by
  cases reporting with
  | all whole => exact .all (List.forall_mem_cons.2 ⟨first, whole⟩)
  | broken whole fails =>
    have longer := List.forall_mem_cons.2 ⟨first, whole⟩
    exact .broken longer fails

theorem reporting_reportEach (registry : Registry) (trackers : List Tracker) :
    Reporting trackers (registry.reportEach trackers).result
      (registry.reportEach trackers).lines := by
  induction trackers generalizing registry with
  | nil => exact .all fun _ member => by cases member
  | cons tracker rest ih =>
    cases result : (tracker.report none).result with
    | error failure =>
      have broken :
          Reporting ([] ++ tracker :: rest) (.error failure) (linesOf ([] ++ [tracker])) :=
        .broken (fun _ member => by cases member) result
      rw [List.nil_append, linesOf, List.nil_append, List.flatMap_singleton] at broken
      rw [registry.reportEach_cons_of_error result]
      exact broken
    | ok =>
      rw [registry.reportEach_cons result, Outcome.lines, List.filterMap_append]
      exact (ih _).cons (Tracker.writesWhole_of_ok result)

theorem result_requestReport_all (registry : Registry) :
    (registry.requestReport everySource).result =
      (registry.reportEach registry.trackers).result.map fun _ =>
        (registry.reportEach registry.trackers).state.trackers.length := by
  rw [requestReport, if_pos rfl, Outcome.andThen_done]

theorem pairwise_around {P : Tracker → Prop} {before after : List Tracker} {tracker : Tracker}
    (holds : ∀ other ∈ before, P other) (fails : ¬P tracker) :
    (before ++ tracker :: after).Pairwise (fun earlier later => P later → P earlier) ↔
      ∀ other ∈ after, ¬P other := by
  rw [List.pairwise_append, List.pairwise_cons]
  constructor
  · rintro ⟨-, ⟨first, -⟩, -⟩ other member here
    exact fails (first other member here)
  · intro none
    refine ⟨List.pairwise_of_forall_mem_list fun earlier member _ _ _ => holds earlier member,
      ⟨fun other member here => absurd here (none other member),
        List.pairwise_of_forall_mem_list fun _ _ later member here =>
          absurd here (none later member)⟩,
      fun earlier member _ _ _ => holds earlier member⟩

/-- Reports end at the first tracker without a date, so all others are written exactly if none of
them was made after such a tracker. -/
theorem Reporting.lines_eq_iff {trackers : List Tracker} {result : Except Failure Unit}
    {lines : List String} (reporting : Reporting trackers result lines)
    (sized : ∀ tracker ∈ trackers, tracker.statistics ≠ [])
    (shown : ∀ tracker ∈ trackers, tracker.Dated → tracker.WritesWhole) :
    lines = linesOf (trackers.filter (·.Dated)) ↔
      trackers.Pairwise fun earlier later => later.Dated → earlier.Dated := by
  cases reporting with
  | all whole =>
    have all : trackers.filter (·.Dated) = trackers :=
      List.filter_eq_self.2 fun tracker member => decide_eq_true (whole tracker member).dated
    rw [all]
    refine iff_of_true rfl (List.pairwise_of_forall_mem_list ?_)
    intro earlier member _ _ _
    exact (whole earlier member).dated
  | @broken reported later broken failure whole fails =>
    have dated : ∀ tracker ∈ reported, tracker.Dated :=
      fun tracker member => (whole tracker member).dated
    have undated : ¬broken.Dated := by
      intro here
      have succeeds := (shown broken (by simp) here).1
      rw [fails] at succeeds
      cases succeeds
    have silent : (broken.report none).lines = [] := by
      obtain ⟨failure, same⟩ := Tracker.report_of_not_dated undated
      rw [same]
      rfl
    have kept : (reported ++ broken :: later).filter (·.Dated) =
        reported ++ later.filter (·.Dated) := by
      rw [List.filter_append, List.filter_cons_of_neg (by simpa using undated),
        List.filter_eq_self.2 fun tracker member => decide_eq_true (dated tracker member)]
    rw [pairwise_around dated undated, kept, linesOf, linesOf, List.flatMap_append,
      List.flatMap_append, List.flatMap_singleton, silent, List.append_cancel_left_eq, eq_comm,
      List.flatMap_eq_nil_iff]
    refine forall_congr' fun tracker => ?_
    rw [List.mem_filter, decide_eq_true_eq, and_imp]
    refine forall_congr' fun member => imp_congr_right fun here => ?_
    have there : tracker ∈ reported ++ broken :: later := by simp [member]
    exact iff_of_false ((shown tracker there here).lines_ne_nil (sized tracker there)) id

/-! ### After any events -/

variable {config : Config} {history : History} {registry : Registry} {tracker : Tracker}

theorem Follows.tallies_of_mem (follows : registry.Follows config history)
    (accepted : config.Accepted) (member : tracker ∈ registry.trackers) :
    ∃ key recorded closed, tracker.Tallies key config recorded closed := by
  rw [follows.trackers_eq, List.mem_map] at member
  obtain ⟨key, -, rfl⟩ := member
  exact ⟨key, _, _, config.sound_ledger accepted history key⟩

/-- After any events, whether their delivery failed or not, a tracker whose last arrival the
calendar reaches can report by itself, and one with another last arrival cannot. Asked together, the
trackers report in the order in which they were made, up to the first one that cannot: so all that
can report do, exactly if none of them was made after one that cannot. The same goes for the end of
the service. -/
theorem reports_until_undated (accepted : config.Accepted) (events : List Event) :
    let registry := (Service.consumeAll (.create config) events).state
    let outcome := registry.requestReport everySource
    (∀ tracker ∈ registry.trackers, tracker.Dated → tracker.WritesWhole ∨
        noMinimum < config.maxMessages ∧
          (tracker.report none).result = .error .quotientTooLarge) ∧
      (∀ tracker ∈ registry.trackers, ¬tracker.Dated →
        ∃ failure, tracker.report none = .failed tracker failure) ∧
      Reporting registry.trackers (outcome.result.map fun _ => ()) outcome.lines ∧
      (config.maxMessages ≤ noMinimum →
        (outcome.lines = linesOf (registry.trackers.filter (·.Dated)) ↔
          registry.trackers.Pairwise fun earlier later => later.Dated → earlier.Dated)) ∧
      ∀ service : Service, service.Drained → service.registry = registry →
        service.shutdown.result = outcome.result ∧ service.shutdown.lines = outcome.lines := by
  intro registry outcome
  obtain ⟨history, traced⟩ : ∃ history, registry.Traced config history _ _ :=
    (traced_create config).consumeAll accepted events
  have shown : ∀ tracker ∈ registry.trackers, tracker.Dated → tracker.WritesWhole ∨
      noMinimum < config.maxMessages ∧
        (tracker.report none).result = .error .quotientTooLarge := by
    intro tracker member dated
    obtain ⟨_, _, _, tallies⟩ := traced.tallies_of_mem accepted member
    exact tallies.report_of_dated accepted dated
  have sized : ∀ tracker ∈ registry.trackers, tracker.statistics ≠ [] := by
    intro tracker member
    obtain ⟨_, _, _, tallies⟩ := traced.tallies_of_mem accepted member
    rw [tallies.statistics_eq, ne_eq, List.map_eq_nil_iff]
    exact accepted.sizes_ne_nil
  have reporting : Reporting registry.trackers (outcome.result.map fun _ => ()) outcome.lines := by
    have each := registry.reporting_reportEach registry.trackers
    rw [← lines_requestReport_all] at each
    have result : outcome.result.map (fun _ => ()) =
        (registry.reportEach registry.trackers).result := by
      rw [result_requestReport_all]
      cases (registry.reportEach registry.trackers).result <;> rfl
    rwa [result]
  refine ⟨shown, fun _ _ => Tracker.report_of_not_dated, reporting, ?_, ?_⟩
  · intro bounded
    refine reporting.lines_eq_iff sized fun tracker member dated => ?_
    exact (shown tracker member dated).resolve_right fun more => absurd more.1 (not_lt.2 bounded)
  · intro service drained same
    rw [Service.shutdown_of_drained drained, same]
    exact ⟨rfl, rfl⟩

/-- A clock that is ahead of UTC, so its calendar ends before that of the events. -/
def kiritimati : Config :=
  { Config.standard with sizes := [12], zone := .pacificKiritimati }

/-- The source that reached the end of the calendar was there first, and nothing is reported of the
other one. -/
theorem dated_tracker_silenced :
    let registry := (Service.consumeAll (.create kiritimati)
      [⟨"late", "x", 253402300799000, false, false⟩, ⟨"gate", "a", 0, false, false⟩,
        ⟨"gate", "b", 7200000, false, false⟩]).state
    let outcome := registry.requestReport everySource
    kiritimati.Accepted ∧ registry.trackers.map (·.source) = ["late", "gate"] ∧
      outcome.result = .error .dateOutOfRange ∧ outcome.lines = [] ∧
      ∃ tracker ∈ registry.trackers, tracker.Dated ∧ tracker.source = "gate" ∧
        (tracker.report none).lines =
          ["gate, 12/31/1969 15:20:00, IntervalSize=12, msg1UMIDAvgCount=1.00, " ++
            "msg2UMIDAvgCount=0.00, msg1UMIDCount=1, msg2UMIDCount=0, numOfIntervals=1, " ++
            "msg1UMIDStdDev=0.00, msg1UMIDMin=1, msg1UMIDMax=1, zeroCountIntervals=0, " ++
            "msg1TotalCount=1, msg2TotalCount=0"] := by
  refine ⟨⟨by decide, rfl⟩, ?_⟩
  decide +kernel

theorem reports_until_undated_last :
    let registry := (Service.consumeAll (.create kiritimati)
      [⟨"gate", "a", 0, false, false⟩, ⟨"gate", "b", 7200000, false, false⟩,
        ⟨"late", "x", 253402300799000, false, false⟩]).state
    let outcome := registry.requestReport everySource
    kiritimati.Accepted ∧ kiritimati.maxMessages ≤ noMinimum ∧
      registry.trackers.map (fun tracker => decide tracker.Dated) = [true, false] ∧
      outcome.lines = linesOf (registry.trackers.filter (·.Dated)) ∧ outcome.lines.length = 1 := by
  intro registry outcome
  have accepted : kiritimati.Accepted := ⟨by decide, rfl⟩
  have bounded : kiritimati.maxMessages ≤ noMinimum := by decide
  obtain ⟨-, -, -, all, -⟩ := reports_until_undated accepted
    [⟨"gate", "a", 0, false, false⟩, ⟨"gate", "b", 7200000, false, false⟩,
      ⟨"late", "x", 253402300799000, false, false⟩]
  have written : outcome.lines = linesOf (registry.trackers.filter (·.Dated)) :=
    (all bounded).2 (by decide +kernel)
  refine ⟨accepted, bounded, by decide +kernel, written, ?_⟩
  rw [written]
  decide +kernel

end Registry

end ArrivalRates
