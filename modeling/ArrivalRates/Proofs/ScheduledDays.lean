import ArrivalRates.Proofs.FailedCalls

/-!
# The days of scheduled reports

A report is due on a later day than that of the last one, whatever the order of the arrivals and
however the clock of the zone is set, since the schedule compares days and remembers the last one.
`Agenda` keeps the decisions on which reports were written; their days increase, and with a
frequency in days those on which the statistics start anew are that far apart.
-/

namespace ArrivalRates

/-! ### Reports on schedule -/

namespace Tracker

/-- The decision of the schedule, when an arrival closes a window and a report is due. -/
def emission? (tracker : Tracker) (arrival : Arrival) : Option Decision :=
  match tracker.window.span with
  | none => none
  | some span =>
    if arrival.moment < span.stop then none
    else (tracker.schedule.decisionAt arrival.moment).toOption.filter (·.emit)

/-- A call that reports on schedule: one line for each size, with the statistics after the rollover,
all under the source and the last second of the day before. -/
structure ReportsOn (config : Config) (tracker : Tracker) (arrival : Arrival) (decision : Decision)
    (outcome : Outcome Tracker Bool) : Prop where
  dated : config.zone.dayAt arrival.moment = .ok decision.day
  sizes_eq : tracker.rollover.state.statistics.map (·.size) = config.sizes
  report : ∃ date, (Day.mk (decision.day.index - 1)).IsWritten date ∧
    IsReport tracker.source (date ++ " 23:59:59") tracker.rollover.state.statistics outcome.lines
  reset_iff : tracker.resetEntry ∈ outcome.entries ↔ decision.reset = true
  statistics_eq : outcome.state.statistics =
    if decision.reset then freshStatistics config else tracker.rollover.state.statistics

/-- What a call that does not fail has to do with the schedule. -/
inductive OnSchedule (config : Config) (tracker : Tracker) (arrival : Arrival)
    (outcome : Outcome Tracker Bool) : Option Decision → Prop where
  | opened {day : Day} (inactive : tracker.window.span = none)
      (started : outcome.state.schedule = tracker.schedule.startOn day)
      (silent : outcome.entries = []) (kept : outcome.state.statistics = tracker.statistics) :
      OnSchedule config tracker arrival outcome none
  | quiet (active : tracker.window.span ≠ none)
      (same : outcome.state.schedule = tracker.schedule) (silent : outcome.entries = [])
      (kept : outcome.state.statistics = tracker.statistics ∨
        outcome.state.statistics = tracker.rollover.state.statistics) :
      OnSchedule config tracker arrival outcome none
  | reported {decision : Decision} (active : tracker.window.span ≠ none)
      (decided : tracker.schedule.decisionAt arrival.moment = .ok decision)
      (emits : decision.emit = true)
      (marked : outcome.state.schedule = tracker.schedule.markReported decision.day)
      (reports : ReportsOn config tracker arrival decision outcome) :
      OnSchedule config tracker arrival outcome (some decision)

variable {source : String} {config : Config} {recorded : List Arrival} {closed : List Int}
  {tracker : Tracker} {arrival : Arrival}

theorem afterReport_statistics (tracker : Tracker) (decision : Decision) :
    (tracker.afterReport decision).statistics =
      if decision.reset then freshStatistics tracker.config else tracker.statistics := by
  unfold afterReport
  split <;> rfl

theorem emission?_of_lt {span : Span} (placed : tracker.window.span = some span)
    (before : arrival.moment < span.stop) : tracker.emission? arrival = none := by
  simp only [emission?, placed, if_pos before]

theorem emission?_of_le {span : Span} (placed : tracker.window.span = some span)
    (past : span.stop ≤ arrival.moment) {decision : Decision}
    (decided : tracker.schedule.decisionAt arrival.moment = .ok decision) :
    tracker.emission? arrival = if decision.emit then some decision else none := by
  simp only [emission?, placed, if_neg (not_lt.2 past), decided, Except.toOption, Option.filter]

/-- Reports on schedule, and nothing else, are written by calls that count an arrival. -/
theorem Tallies.onSchedule (tallies : Tallies source config recorded closed tracker)
    (accepted : config.Accepted) (fine : (tracker.deliver arrival).failure? = none)
    (begun : tracker.window.span ≠ none → ∃ last start,
      tracker.schedule.lastReport = some last ∧ tracker.schedule.processingStart = some start) :
    OnSchedule config tracker arrival (tracker.deliver arrival) (tracker.emission? arrival) := by
  have noted := tallies.noted arrival.moment
  -- noting the moment of an arrival changes nothing that a rollover reads
  have thrown : tracker.rollover.state.statistics =
      ((tracker.noted arrival.moment).rolledTo arrival.moment).statistics :=
    statistics_rollover (tallies.wellPlaced accepted) arrival.moment
  have delivery := (tallies.deliver accepted arrival).1
  generalize tracker.deliver arrival = outcome at *
  cases delivery with
  | failed advance fails => cases fine
  | @answered brought _ _ _ _ advance succeeds =>
    cases advance with
    | unstarted => cases succeeds
    | opened inactive started =>
      have unplaced : tracker.window.span = none := inactive
      have none : tracker.emission? arrival = none := by simp only [emission?, unplaced]
      rw [none]
      exact .opened unplaced rfl rfl rfl
    | @stayed span placed before =>
      have here : tracker.window.span = some span := placed
      rw [emission?_of_lt here before]
      exact .quiet (by simp [here]) rfl rfl (.inl rfl)
    | @moved span _ placed past due =>
      have here : tracker.window.span = some span := placed
      have active : tracker.window.span ≠ none := by simp [here]
      obtain ⟨last, start, reported, started⟩ := begun active
      have rolled := noted.rolledTo accepted placed past
      cases due with
      | undecided | unstamped | unwritten => cases succeeds
      | @quiet decision decided silent =>
        have asked : tracker.schedule.decisionAt arrival.moment = .ok decision := decided
        rw [emission?_of_le here past asked, if_neg (by simp [silent])]
        exact .quiet active rfl rfl (.inr thrown.symm)
      | @reported decision time lines decided emits stamped written =>
        have asked : tracker.schedule.decisionAt arrival.moment = .ok decision := decided
        obtain ⟨shown, -⟩ := Schedule.decisionAt_day reported started asked
        rw [tallies.zone_eq] at shown
        rw [emission?_of_le here past asked, if_pos emits]
        obtain ⟨date, dated, text⟩ := exists_isWritten_endOfPreviousDay stamped
        refine .reported active asked emits (afterReport_schedule ..)
          ⟨shown, ?_, ⟨date, dated, ?_⟩, ?_, ?_⟩
        · rw [thrown, rolled.statistics_eq, List.map_map]
          exact List.map_id config.sizes
        · have report := isReport_reportLines (congrArg Prod.snd written)
          rw [written, text] at report
          rw [Outcome.lines, filterMap_line?_reported, thrown]
          exact report
        · exact tracker.resetEntry_mem_reported lines decision.reset
        · rw [thrown, ← rolled.config_eq]
          exact afterReport_statistics _ decision

end Tracker

/-! ### Runs -/

/-- A ledger and the decisions on which scheduled reports were written. -/
structure Agenda extends Ledger where
  emissions : List Decision := []

namespace Agenda

def perform (agenda : Agenda) (call : Call) : Agenda where
  toLedger := agenda.toLedger.perform call
  emissions := agenda.emissions ++ (call.arrival?.bind agenda.tracker.emission?).toList

def ofCalls (source : String) (config : Config) (calls : List Call) : Agenda :=
  calls.foldl perform { toLedger := .begin source config }

variable {source : String} {config : Config} {agenda : Agenda} {start last : Day}

theorem ofCalls_concat (calls : List Call) (call : Call) :
    ofCalls source config (calls ++ [call]) = (ofCalls source config calls).perform call :=
  List.foldl_concat ..

theorem toLedger_ofCalls (calls : List Call) :
    (ofCalls source config calls).toLedger = .ofCalls source config calls := by
  induction calls using List.reverseRecOn with
  | nil => rfl
  | append_singleton calls call ih => rw [ofCalls_concat, Ledger.ofCalls_concat, ← ih, perform]

def days (agenda : Agenda) : List Day := agenda.emissions.map (·.day)

/-- The days on which the statistics started anew. -/
def resetDays (agenda : Agenda) : List Day := (agenda.emissions.filter (·.reset)).map (·.day)

/-- The days of the reports, after the day on which the schedule was started. -/
structure Begun (config : Config) (agenda : Agenda) (start last : Day) : Prop where
  started : agenda.tracker.schedule.processingStart = some start
  reported : agenda.tracker.schedule.lastReport = some last
  upTo : ∀ day ∈ start :: agenda.days, day.index ≤ last.index
  increasing : (start :: agenda.days).Pairwise (·.index < ·.index)
  spaced : ∀ count, config.frequency = .days count →
    (start :: agenda.resetDays).Pairwise fun earlier later => count ≤ later.daysSince earlier

/-- No report came before the first window, and since then the schedule remembers the last one. -/
def Paced (config : Config) (agenda : Agenda) : Prop :=
  (agenda.tracker.window.span = none ∧ agenda.emissions = []) ∨
    agenda.tracker.window.span ≠ none ∧ ∃ start last, agenda.Begun config start last

theorem resetDays_subset (agenda : Agenda) : agenda.resetDays ⊆ agenda.days :=
  List.map_subset _ (List.filter_subset_self _)

theorem Begun.first {schedule : Schedule} {day : Day}
    (started : agenda.tracker.schedule = schedule.startOn day) (none : agenda.emissions = []) :
    agenda.Begun config day day := by
  have days : agenda.days = [] := by rw [Agenda.days, none, List.map_nil]
  have resetDays : agenda.resetDays = [] :=
    List.eq_nil_of_subset_nil (days ▸ agenda.resetDays_subset)
  constructor
  · rw [started]
    rfl
  · rw [started]
    rfl
  · simp [days]
  · simp [days]
  · simp [resetDays]

theorem Begun.keep {after : Agenda} (begun : agenda.Begun config start last)
    (schedule : after.tracker.schedule = agenda.tracker.schedule)
    (emissions : after.emissions = agenda.emissions) : after.Begun config start last := by
  have days : after.days = agenda.days := by rw [Agenda.days, emissions, Agenda.days]
  have resetDays : after.resetDays = agenda.resetDays := by
    rw [Agenda.resetDays, emissions, Agenda.resetDays]
  constructor
  · rw [schedule]
    exact begun.started
  · rw [schedule]
    exact begun.reported
  · rw [days]
    exact begun.upTo
  · rw [days]
    exact begun.increasing
  · rw [resetDays]
    exact begun.spaced

/-- A report is due on a later day than all before it. -/
theorem Begun.report {after : Agenda} (begun : agenda.Begun config start last) {decision : Decision}
    (answers : Schedule.answer config.frequency last start decision.day = decision)
    (emits : decision.emit = true)
    (marked : after.tracker.schedule = agenda.tracker.schedule.markReported decision.day)
    (emissions : after.emissions = agenda.emissions ++ [decision]) :
    after.Begun config start decision.day := by
  have later : last.index < decision.day.index := by
    apply Schedule.lt_of_answer_emit
    rw [answers]
    exact emits
  have days : after.days = agenda.days ++ [decision.day] := by
    rw [Agenda.days, emissions, List.map_append]
    rfl
  constructor
  · rw [marked]
    exact begun.started
  · rw [marked]
    rfl
  · intro day member
    rw [days, ← List.cons_append, List.mem_append, List.mem_singleton] at member
    rcases member with earlier | rfl
    · exact (begun.upTo day earlier).trans later.le
    · exact le_rfl
  · rw [days, ← List.cons_append, List.pairwise_append]
    refine ⟨begun.increasing, List.pairwise_singleton .., fun day earlier day' here => ?_⟩
    rw [List.mem_singleton.1 here]
    exact (begun.upTo day earlier).trans_lt later
  · intro count frequency
    have spaced := begun.spaced count frequency
    cases reset : decision.reset with
    | false =>
      have resetDays : after.resetDays = agenda.resetDays := by
        simp [Agenda.resetDays, emissions, reset]
      rwa [resetDays]
    | true =>
      have resetDays : after.resetDays = agenda.resetDays ++ [decision.day] := by
        simp [Agenda.resetDays, emissions, reset]
      rw [resetDays, ← List.cons_append, List.pairwise_append]
      refine ⟨spaced, List.pairwise_singleton .., fun day earlier day' here => ?_⟩
      -- counted from the last report, which is no earlier than the last fresh start
      have since : count ≤ decision.day.daysSince last := by
        apply Schedule.le_of_answer_reset
        rw [← frequency, answers]
        exact reset
      have known := begun.upTo day (List.cons_subset_cons start agenda.resetDays_subset earlier)
      rw [List.mem_singleton.1 here]
      unfold Day.daysSince at *
      omega

theorem Paced.begun (paced : agenda.Paced config) (placed : agenda.tracker.window.span ≠ none) :
    ∃ last start, agenda.tracker.schedule.lastReport = some last ∧
      agenda.tracker.schedule.processingStart = some start := by
  rcases paced with ⟨inactive, -⟩ | ⟨-, start, last, begun⟩
  · exact absurd inactive placed
  · exact ⟨last, start, begun.reported, begun.started⟩

theorem Paced.increasing (paced : agenda.Paced config) :
    agenda.days.Pairwise (·.index < ·.index) := by
  rcases paced with ⟨-, none⟩ | ⟨-, start, last, begun⟩
  · simp [days, none]
  · exact (List.pairwise_cons.1 begun.increasing).2

theorem Paced.spaced (paced : agenda.Paced config) (count : Int)
    (frequency : config.frequency = .days count) :
    agenda.resetDays.Pairwise (fun earlier later => count ≤ later.daysSince earlier) ∧
      ∀ day ∈ agenda.resetDays, ∃ start, agenda.tracker.schedule.processingStart = some start ∧
        count ≤ day.daysSince start := by
  rcases paced with ⟨-, none⟩ | ⟨-, start, last, begun⟩
  · simp [resetDays, none]
  · obtain ⟨first, later⟩ := List.pairwise_cons.1 (begun.spaced count frequency)
    exact ⟨later, fun day member => ⟨start, begun.started, first day member⟩⟩

theorem paced_perform (paced : agenda.Paced config) (accepted : config.Accepted)
    (sound : agenda.Sound source config) {call : Call}
    (fine : ∀ arrival, call = .arrive arrival →
      (agenda.tracker.deliver arrival).failure? = none) : (agenda.perform call).Paced config := by
  rcases call.arrive_or_other with ⟨arrival, rfl⟩ | other
  · have succeeds := fine arrival rfl
    have active : (agenda.tracker.deliver arrival).state.window.span ≠ none :=
      (Tracker.Tallies.deliver sound accepted arrival).1.active
    have grown : (agenda.perform (.arrive arrival)).emissions =
        agenda.emissions ++ (agenda.tracker.emission? arrival).toList := rfl
    have step := Tracker.Tallies.onSchedule sound accepted succeeds paced.begun
    generalize agenda.tracker.emission? arrival = emission at step grown
    right
    refine ⟨active, ?_⟩
    rcases paced with ⟨inactive, none⟩ | ⟨placed, start, last, begun⟩
    · cases step with
      | @opened day _ started =>
        rw [none] at grown
        exact ⟨day, day, .first started grown⟩
      | quiet placed | reported placed => exact absurd inactive placed
    · cases step with
      | opened inactive => exact absurd inactive placed
      | quiet _ same => exact ⟨start, last, begun.keep same (by simp [grown])⟩
      | @reported decision _ decided emits marked =>
        obtain ⟨-, answers⟩ := Schedule.decisionAt_day begun.reported begun.started decided
        rw [sound.frequency_eq] at answers
        exact ⟨start, _, begun.report answers emits marked grown⟩
  · obtain ⟨_, _, tracker⟩ := agenda.toLedger.tracker_other other
    have same : (agenda.perform call).emissions = agenda.emissions := by
      simp [perform, other]
    have kept : (agenda.perform call).tracker = agenda.tracker.withNotices _ _ := tracker
    unfold Paced
    rw [kept, same]
    refine paced.imp id fun ⟨placed, start, last, begun⟩ => ⟨placed, start, last, ?_⟩
    exact begun.keep (by rw [kept]; rfl) same

end Agenda

/-- No call that counts an arrival fails. -/
def Config.Unfailing (config : Config) (source : String) (calls : List Call) : Prop :=
  ∀ (n : Nat) (arrival : Arrival), calls[n]? = some (.arrive arrival) →
    ((Ledger.ofCalls source config (calls.take n)).tracker.deliver arrival).failure? = none

namespace Config.Unfailing

variable {source : String} {config : Config} {earlier later : List Call}

theorem of_append (fine : config.Unfailing source (earlier ++ later)) :
    config.Unfailing source earlier := by
  intro n arrival there
  have inside : n < earlier.length := (List.getElem?_eq_some_iff.1 there).1
  have whole := fine n arrival (by rw [List.getElem?_append_left inside, there])
  rwa [List.take_append_of_le_length inside.le] at whole

theorem of_concat {arrival : Arrival}
    (fine : config.Unfailing source (earlier ++ [.arrive arrival])) :
    ((Ledger.ofCalls source config earlier).tracker.deliver arrival).failure? = none := by
  have whole := fine earlier.length arrival List.getElem?_concat_length
  rwa [List.take_left] at whole

end Config.Unfailing

namespace Agenda

variable {source : String} {config : Config}

theorem paced_ofCalls (accepted : config.Accepted) (calls : List Call)
    (fine : config.Unfailing source calls) : (ofCalls source config calls).Paced config := by
  induction calls using List.reverseRecOn with
  | nil => exact .inl ⟨rfl, rfl⟩
  | append_singleton calls call ih =>
    rw [ofCalls_concat]
    have sound : (Ledger.ofCalls source config calls).Sound source config :=
      Ledger.sound_ofCalls accepted calls
    rw [← toLedger_ofCalls] at sound
    refine paced_perform (ih fine.of_append) accepted sound ?_
    rintro arrival rfl
    have succeeds := fine.of_concat
    rwa [← toLedger_ofCalls] at succeeds

/-- Scheduled reports are written on later and later local days, each with one line for each size
under the last second of the day before; the statistics start anew with some of them and at no other
time, with a frequency in days at least that many days after the start and after one another. -/
theorem reports_on_later_days (source : String) (accepted : config.Accepted) (calls : List Call)
    (fine : config.Unfailing source calls) :
    let run := ofCalls source config calls
    run.days.Pairwise (·.index < ·.index) ∧
    (∀ count, config.frequency = .days count →
      run.resetDays.Pairwise (fun earlier later => count ≤ later.daysSince earlier) ∧
      ∀ day ∈ run.resetDays, ∃ start, run.tracker.schedule.processingStart = some start ∧
        count ≤ day.daysSince start) ∧
    (∀ (n : Nat) (arrival : Arrival), calls[n]? = some (.arrive arrival) →
      let tracker := (ofCalls source config (calls.take n)).tracker
      let outcome := tracker.deliver arrival
      (∀ decision, tracker.emission? arrival = some decision →
        tracker.ReportsOn config arrival decision outcome) ∧
      (tracker.emission? arrival = none → outcome.entries = [] ∧
        (outcome.state.statistics = tracker.statistics ∨
          outcome.state.statistics = tracker.rollover.state.statistics))) ∧
    ∀ (n : Nat) (call : Call), calls[n]? = some call → call.arrival? = none →
      let tracker := (ofCalls source config (calls.take n)).tracker
      let outcome := tracker.perform call
      tracker.resetEntry ∉ outcome.entries ∧ outcome.state.statistics = tracker.statistics := by
  intro run
  have paced : run.Paced config := paced_ofCalls accepted calls fine
  refine ⟨paced.increasing, paced.spaced, ?_, ?_⟩
  · intro n arrival there tracker outcome
    have before : config.Unfailing source (calls.take n) := by
      rw [← List.take_append_drop n calls] at fine
      exact fine.of_append
    have sound : (Ledger.ofCalls source config (calls.take n)).Sound source config :=
      Ledger.sound_ofCalls accepted (calls.take n)
    have succeeds := fine n arrival there
    rw [← toLedger_ofCalls] at sound succeeds
    have step := Tracker.Tallies.onSchedule sound accepted succeeds
      (paced_ofCalls accepted _ before).begun
    generalize tracker.emission? arrival = emission at step
    cases step with
    | opened _ _ silent kept => exact ⟨by simp, fun _ => ⟨silent, .inl kept⟩⟩
    | quiet _ _ silent kept => exact ⟨by simp, fun _ => ⟨silent, kept⟩⟩
    | reported _ _ _ _ reports => exact ⟨fun _ emits => Option.some.inj emits ▸ reports, by simp⟩
  · intro n call _ other tracker outcome
    obtain ⟨⟨_, _, state⟩, lines, entries⟩ := tracker.noticed_perform other
    have entries_eq : outcome.entries = lines.map .line := entries
    have state_eq : outcome.state = tracker.withNotices _ _ := state
    rw [entries_eq, state_eq]
    exact ⟨tracker.resetEntry_not_mem lines, rfl⟩

/-- Reports on the second, fourth and sixth day, with reports out of schedule and an arrival from an
earlier day in between. -/
theorem reports_on_later_days_gate :
    let config : Config := { Config.standard with frequency := .days 2 }
    let calls : List Call :=
      [.arrive ⟨"a", 0, false⟩, .report none, .arrive ⟨"a", 86400000, false⟩,
        .arrive ⟨"b", 50000000, true⟩, .arrive ⟨"a", 259200000, false⟩, .report (some "now"),
        .arrive ⟨"c", 432000000, false⟩]
    let run := ofCalls "gate" config calls
    let before := (ofCalls "gate" config (calls.take 4)).tracker
    config.Accepted ∧ config.Unfailing "gate" calls ∧
      run.days = [⟨1⟩, ⟨3⟩, ⟨5⟩] ∧ run.days.Pairwise (·.index < ·.index) ∧
      run.resetDays = [⟨3⟩, ⟨5⟩] ∧ (∀ day ∈ run.resetDays, 2 ≤ day.daysSince ⟨0⟩) ∧
      before.ReportsOn config ⟨"a", 259200000, false⟩ ⟨true, true, ⟨3⟩⟩
        (before.deliver ⟨"a", 259200000, false⟩) ∧
      (before.deliver ⟨"a", 259200000, false⟩).lines[4]? =
        some ("gate, 01/03/1970 23:59:59, IntervalSize=12, msg1UMIDAvgCount=1.00, " ++
          "msg2UMIDAvgCount=0.00, msg1UMIDCount=2, msg2UMIDCount=0, numOfIntervals=2, " ++
          "msg1UMIDStdDev=0.00, msg1UMIDMin=1, msg1UMIDMax=1, zeroCountIntervals=0, " ++
          "msg1TotalCount=2, msg2TotalCount=0") := by
  intro config calls run before
  have accepted : config.Accepted := ⟨by decide, rfl⟩
  have fine : config.Unfailing "gate" calls := by
    intro n arrival there
    match n with
    | 0 | 2 | 3 | 4 | 6 =>
      obtain rfl := Call.arrive.inj (Option.some.inj there)
      decide +kernel
    | 1 | 5 => cases there
    | n + 7 => simp [calls] at there
  obtain ⟨increasing, spaced, reports, -⟩ := reports_on_later_days "gate" accepted calls fine
  refine ⟨accepted, fine, by decide +kernel, increasing, by decide +kernel, ?_, ?_,
    by decide +kernel⟩
  · intro day member
    obtain ⟨start, started, far⟩ := (spaced 2 rfl).2 day member
    have first : run.tracker.schedule.processingStart = some ⟨0⟩ := by decide +kernel
    obtain rfl := Option.some.inj (first.symm.trans started)
    exact far
  · exact (reports 4 _ rfl).1 _ (by decide +kernel)

end Agenda

end ArrivalRates
