import ArrivalRates.Proofs.Gaps

/-!
# Lines against the numbers of what was written

A tracker counts the reports and the notices it has written. A report counts when all of its lines
are written, a notice already before its line is made, and the three times of a notice may be past
the calendar. So the lines fall behind the numbers by one for each gap that was counted and could
not be shown. Neither an arrival nor a report without a time makes them differ.
-/

namespace ArrivalRates

namespace Outcome

def torn (outcome : Outcome σ α) : List String :=
  match outcome.result with
  | .ok _ => []
  | .error _ => outcome.lines

theorem torn_of_ok {outcome : Outcome σ α} {value : α} (succeeds : outcome.result = .ok value) :
    outcome.torn = [] := by
  rw [torn, succeeds]

theorem torn_of_error {outcome : Outcome σ α} {failure : Failure}
    (fails : outcome.result = .error failure) : outcome.torn = outcome.lines := by
  rw [torn, fails]

theorem torn_map (outcome : Outcome σ α) (f : α → β) :
    torn ⟨outcome.state, outcome.result.map f, outcome.entries⟩ = outcome.torn := by
  unfold torn
  cases outcome.result <;> rfl

end Outcome

theorem length_reportLines {source stamp : String} {statistics : List Statistics}
    {lines : List String} (written : reportLines source stamp statistics = (lines, .ok ())) :
    lines.length = statistics.length := by
  have report := isReport_reportLines (congrArg Prod.snd written)
  rw [written] at report
  exact report.length_eq.symm

/-- The calendar reaches the three times of a notice. -/
def Gap.Shown (zone : TimeZone) (gap : Gap) : Prop :=
  zone.Shows gap.previous ∧ zone.Shows gap.start ∧ zone.Shows gap.stop

instance (zone : TimeZone) (gap : Gap) : Decidable (gap.Shown zone) :=
  inferInstanceAs (Decidable (_ ∧ _ ∧ _))

/-- The arrival that a logger is to start with. -/
def Call.next? : Call → Option Int
  | .startLogger next => some next
  | _ => none

namespace Tracker

variable {source : String} {config : Config} {recorded : List Arrival} {closed : List Int}
  {tracker : Tracker} {arrival : Arrival} {moment next : Int} {gap : Gap}

/-! ### Gaps that cannot be shown -/

theorem gapNotice_ok_iff :
    (∃ line, tracker.gapNotice gap = .ok line) ↔ gap.Shown tracker.config.zone := by
  simp only [Gap.Shown, TimeZone.shows_iff, gapNotice, bind, Except.bind, pure, Except.pure]
  cases tracker.config.zone.atMillis gap.previous with
  | error => simp
  | ok =>
    cases tracker.config.zone.atMillis gap.start with
    | error => simp
    | ok => cases tracker.config.zone.atMillis gap.stop <;> simp

/-- The gap before a logger that starts again, if its notice cannot be shown. -/
def hiddenGap? (tracker : Tracker) (next : Int) : Option Gap :=
  match tracker.window.gapBefore next with
  | .error _ => none
  | .ok gap => gap.filter fun gap => !decide (gap.Shown tracker.config.zone)

theorem hiddenGap?_eq_some_iff :
    tracker.hiddenGap? next = some gap ↔
      tracker.window.gapBefore next = .ok (some gap) ∧ ¬gap.Shown tracker.config.zone := by
  unfold hiddenGap?
  cases tracker.window.gapBefore next with
  | error => simp
  | ok found => simp [Option.filter_eq_some_iff]

/-! ### One call -/

/-- How many lines the numbers of a tracker stand for. -/
def linesNumbered (tracker : Tracker) : Nat :=
  tracker.gapNotices + tracker.reportsEmitted * tracker.config.sizes.length

/-- The lines of an operation are those that it numbered, less the hidden gap and with what was
torn. -/
def Balances (tracker : Tracker) (hidden : Option Gap) (outcome : Outcome Tracker α) : Prop :=
  outcome.lines.length + hidden.toList.length + tracker.linesNumbered =
    outcome.state.linesNumbered + outcome.torn.length

theorem balances_of_ok {outcome : Outcome Tracker α} {value : α}
    (succeeds : outcome.result = .ok value)
    (numbered : outcome.state.linesNumbered = tracker.linesNumbered + outcome.lines.length) :
    tracker.Balances none outcome := by
  rw [Balances, Outcome.torn_of_ok succeeds, numbered, Nat.add_comm tracker.linesNumbered]
  rfl

theorem balances_of_error {outcome : Outcome Tracker α} {failure : Failure}
    (fails : outcome.result = .error failure)
    (same : outcome.state.linesNumbered = tracker.linesNumbered) :
    tracker.Balances none outcome := by
  rw [Balances, Outcome.torn_of_error fails, same, Nat.add_comm tracker.linesNumbered]
  rfl

theorem Balances.map {hidden : Option Gap} {outcome : Outcome Tracker α}
    (balances : tracker.Balances hidden outcome) (f : α → β) :
    tracker.Balances hidden ⟨outcome.state, outcome.result.map f, outcome.entries⟩ := by
  rw [Balances, Outcome.torn_map]
  exact balances

/-- One more report stands for one more line of each size. -/
theorem linesNumbered_reported (tracker : Tracker) :
    ({ tracker with reportsEmitted := tracker.reportsEmitted + 1 } : Tracker).linesNumbered =
      tracker.linesNumbered + tracker.config.sizes.length := by
  simp only [linesNumbered, Nat.succ_mul]
  omega

theorem balances_writeReport (sized : tracker.statistics.length = tracker.config.sizes.length)
    (stamp : String) : tracker.Balances none (tracker.writeReport stamp) := by
  unfold writeReport
  cases written : reportLines tracker.source stamp tracker.statistics with
  | mk lines result =>
    cases result with
    | error failure => exact balances_of_error rfl rfl
    | ok =>
      refine balances_of_ok rfl ?_
      rw [Outcome.lines, Entry.filterMap_line?, length_reportLines written, sized]
      exact linesNumbered_reported tracker

theorem balances_report (sized : tracker.statistics.length = tracker.config.sizes.length)
    (stamp : Option String) : tracker.Balances none (tracker.report stamp) := by
  unfold report
  split
  · exact balances_writeReport sized _
  · split
    · exact balances_of_error rfl rfl
    · exact balances_writeReport sized _

theorem markLoggerStarting_of_gap (found : tracker.window.gapBefore next = .ok (some gap)) :
    tracker.markLoggerStarting next =
      ⟨{ tracker with gapNotices := tracker.gapNotices + 1 },
        (tracker.gapNotice gap).map fun _ => (),
        ((tracker.gapNotice gap).toOption.map Entry.line).toList⟩ := by
  have notice : ({ tracker with gapNotices := tracker.gapNotices + 1 } : Tracker).gapNotice gap =
      tracker.gapNotice gap := rfl
  simp only [markLoggerStarting, found, notice]
  cases tracker.gapNotice gap <;> rfl

theorem markLoggerStarting_error_iff (buckets : tracker.window.bucket = bucketMillis) :
    (∃ failure, (tracker.markLoggerStarting next).result = .error failure) ↔
      ∃ gap, tracker.hiddenGap? next = some gap := by
  have answered := Window.gapBefore_eq buckets next
  generalize tracker.window.lastEvent.bind _ = answer at answered
  simp only [hiddenGap?_eq_some_iff, answered, Except.ok.injEq]
  cases answer with
  | none => simp [markLoggerStarting, answered, Outcome.done]
  | some gap =>
    rw [markLoggerStarting_of_gap answered]
    simp only [Option.some.injEq, exists_eq_left', ← gapNotice_ok_iff]
    cases tracker.gapNotice gap <;> simp [Except.map]

/-- A gap whose notice cannot be shown is numbered all the same. -/
theorem balances_markLoggerStarting (tracker : Tracker) (next : Int) :
    tracker.Balances (tracker.hiddenGap? next) (tracker.markLoggerStarting next) := by
  cases answered : tracker.window.gapBefore next with
  | error =>
    simp only [hiddenGap?, markLoggerStarting, answered]
    exact balances_of_error rfl rfl
  | ok answer =>
    cases answer with
    | none =>
      simp only [hiddenGap?, markLoggerStarting, answered]
      exact balances_of_ok rfl rfl
    | some gap =>
      have numbered : ({ tracker with gapNotices := tracker.gapNotices + 1 } :
          Tracker).linesNumbered = tracker.linesNumbered + 1 := Nat.add_right_comm ..
      rw [markLoggerStarting_of_gap answered]
      by_cases shown : gap.Shown tracker.config.zone
      · obtain ⟨line, notice⟩ := gapNotice_ok_iff.2 shown
        have none : tracker.hiddenGap? next = none := by simp [hiddenGap?, answered, shown]
        rw [none, notice]
        exact balances_of_ok rfl numbered
      · have hidden : tracker.hiddenGap? next = some gap :=
          hiddenGap?_eq_some_iff.2 ⟨answered, shown⟩
        rw [hidden, Balances, numbered]
        cases notice : tracker.gapNotice gap with
        | error failure => exact Nat.add_comm ..
        | ok line => exact absurd (gapNotice_ok_iff.1 ⟨line, notice⟩) shown

theorem Due.balances {outcome : Outcome Tracker Unit} (due : Due tracker moment outcome)
    (sized : tracker.statistics.length = tracker.config.sizes.length) :
    tracker.Balances none outcome := by
  cases due with
  | undecided | unstamped | unwritten => exact balances_of_error rfl rfl
  | quiet => exact balances_of_ok rfl rfl
  | @reported decision time lines _ _ _ written =>
    refine balances_of_ok rfl ?_
    have numbered : (tracker.afterReport decision).linesNumbered =
        tracker.linesNumbered + tracker.config.sizes.length := by
      rw [← linesNumbered_reported, afterReport]
      split <;> rfl
    rw [Outcome.lines, filterMap_line?_reported, length_reportLines written, sized, numbered]

namespace Tallies

theorem length_statistics (tallies : Tallies source config recorded closed tracker) :
    tracker.statistics.length = tracker.config.sizes.length := by
  rw [tallies.statistics_eq, tallies.config_eq, List.length_map]

theorem balances_advance (tallies : Tallies source config recorded closed tracker)
    (accepted : config.Accepted) {outcome : Outcome Tracker Unit}
    (advance : Advance tracker moment outcome) : tracker.Balances none outcome := by
  cases advance with
  | unstarted => exact balances_of_error rfl rfl
  | opened | stayed => exact balances_of_ok rfl rfl
  | moved placed past due =>
    exact due.balances (tallies.rolledTo accepted placed past).length_statistics

theorem balances_deliver (tallies : Tallies source config recorded closed tracker)
    (accepted : config.Accepted) (arrival : Arrival) :
    tracker.Balances none (tracker.deliver arrival) := by
  have delivery := (tallies.deliver accepted arrival).1
  have noted := tallies.noted arrival.moment
  generalize tracker.deliver arrival = outcome at delivery
  cases delivery with
  | @failed brought failure advance fails =>
    have balances := noted.balances_advance accepted advance
    rw [Balances, Outcome.torn_of_error fails] at balances
    exact balances
  | answered advance succeeds =>
    have balances := noted.balances_advance accepted advance
    rw [Balances, Outcome.torn_of_ok succeeds] at balances
    exact balances

theorem balances_perform (tallies : Tallies source config recorded closed tracker)
    (accepted : config.Accepted) (call : Call) :
    tracker.Balances (call.next?.bind tracker.hiddenGap?) (tracker.perform call) := by
  cases call with
  | arrive arrival => exact tallies.balances_deliver accepted arrival
  | startLogger next =>
    rw [perform_startLogger]
    exact (balances_markLoggerStarting tracker next).map _
  | report stamp =>
    rw [perform_report]
    exact (balances_report tallies.length_statistics stamp).map _

end Tallies

/-! ### What is torn -/

theorem Due.torn_eq_nil {outcome : Outcome Tracker Unit} (due : Due tracker moment outcome)
    (shown : ∀ stamp, (reportLines tracker.source stamp tracker.statistics).2 = .ok ()) :
    outcome.torn = [] := by
  cases due with
  | undecided | quiet | unstamped | reported => rfl
  | @unwritten _ time _ _ _ _ _ written =>
    have whole := shown time.stamp
    rw [written] at whole
    cases whole

theorem torn_markLoggerStarting (tracker : Tracker) (next : Int) :
    (tracker.markLoggerStarting next).torn = [] := by
  unfold markLoggerStarting
  split
  · rfl
  · rfl
  · dsimp only
    split <;> rfl

namespace Tallies

theorem torn_advance (tallies : Tallies source config recorded closed tracker)
    (accepted : config.Accepted) (bounded : config.maxMessages ≤ noMinimum)
    {outcome : Outcome Tracker Unit} (advance : Advance tracker moment outcome) :
    outcome.torn = [] := by
  cases advance with
  | unstarted | opened | stayed => rfl
  | moved placed past due =>
    have whole := (tallies.rolledTo accepted placed past).reportLines_ok accepted bounded
    exact due.torn_eq_nil (whole _)

theorem torn_report (tallies : Tallies source config recorded closed tracker)
    (accepted : config.Accepted) (bounded : config.maxMessages ≤ noMinimum)
    (stamp : Option String) : (tracker.report stamp).torn = [] := by
  have whole (stamp : String) : (tracker.writeReport stamp).torn = [] :=
    Outcome.torn_of_ok (tallies.reportLines_ok accepted bounded tracker.source stamp)
  unfold report
  split
  · exact whole _
  · split
    · rfl
    · exact whole _

theorem torn_perform (tallies : Tallies source config recorded closed tracker)
    (accepted : config.Accepted) (bounded : config.maxMessages ≤ noMinimum) (call : Call) :
    (tracker.perform call).torn = [] := by
  cases call with
  | arrive arrival =>
    have delivery := (tallies.deliver accepted arrival).1
    have noted := tallies.noted arrival.moment
    show (tracker.deliver arrival).torn = []
    generalize tracker.deliver arrival = outcome at delivery
    cases delivery with
    | failed advance fails =>
      exact (Outcome.torn_of_error fails).symm.trans (noted.torn_advance accepted bounded advance)
    | answered => rfl
  | startLogger next =>
    rw [perform_startLogger, Outcome.torn_map]
    exact torn_markLoggerStarting tracker next
  | report stamp =>
    rw [perform_report, Outcome.torn_map]
    exact tallies.torn_report accepted bounded stamp

end Tallies

end Tracker

/-! ### Runs -/

/-- A ledger and what its lines differ by from the numbers of its tracker. -/
structure Account extends Ledger where
  /-- The gaps that were numbered though their notices could not be shown. -/
  hidden : List Gap := []
  torn : List String := []

namespace Account

def perform (account : Account) (call : Call) : Account where
  toLedger := account.toLedger.perform call
  hidden := account.hidden ++ (call.next?.bind account.tracker.hiddenGap?).toList
  torn := account.torn ++ (account.tracker.perform call).torn

def ofCalls (source : String) (config : Config) (calls : List Call) : Account :=
  calls.foldl perform { toLedger := .begin source config }

variable {source : String} {config : Config}

theorem ofCalls_concat (calls : List Call) (call : Call) :
    ofCalls source config (calls ++ [call]) = (ofCalls source config calls).perform call :=
  List.foldl_concat ..

theorem toLedger_ofCalls (calls : List Call) :
    (ofCalls source config calls).toLedger = .ofCalls source config calls := by
  induction calls using List.reverseRecOn with
  | nil => rfl
  | append_singleton calls call ih => rw [ofCalls_concat, Ledger.ofCalls_concat, ← ih, perform]

theorem sound_ofCalls (accepted : config.Accepted) (calls : List Call) :
    (ofCalls source config calls).Sound source config := by
  rw [toLedger_ofCalls]
  exact Ledger.sound_ofCalls accepted calls

theorem balanced_ofCalls (source : String) (accepted : config.Accepted) (calls : List Call) :
    (ofCalls source config calls).lines.length + (ofCalls source config calls).hidden.length =
      (ofCalls source config calls).tracker.linesNumbered +
        (ofCalls source config calls).torn.length := by
  induction calls using List.reverseRecOn with
  | nil => simp [ofCalls, Ledger.begin, Chronicle.begin, Tracker.fresh, Tracker.linesNumbered]
  | append_singleton calls call ih =>
    have sound : (ofCalls source config calls).Sound source config := sound_ofCalls accepted calls
    have balances := sound.balances_perform accepted call
    have tracker : ((ofCalls source config calls).perform call).tracker =
        ((ofCalls source config calls).tracker.perform call).state :=
      (ofCalls source config calls).tracker_perform call
    unfold Tracker.Balances at balances
    rw [ofCalls_concat, tracker]
    simp only [perform, Ledger.perform, List.length_append]
    omega

theorem torn_ofCalls (accepted : config.Accepted) (bounded : config.maxMessages ≤ noMinimum)
    (calls : List Call) : (ofCalls source config calls).torn = [] := by
  induction calls using List.reverseRecOn with
  | nil => rfl
  | append_singleton calls call ih =>
    have sound : (ofCalls source config calls).Sound source config := sound_ofCalls accepted calls
    have whole := sound.torn_perform accepted bounded call
    rw [ofCalls_concat, perform, ih, whole]
    rfl

/-- The lines that were written and the gaps that could not be shown are together as many as the
numbers of notices and reports say, unless a report broke off, which takes more ids than there are
64-bit integers. So the lines agree with the numbers exactly if every gap could be shown. A logger
whose gap cannot be shown is the only one whose start fails. -/
theorem lines_of_numbers (source : String) (accepted : config.Accepted) (calls : List Call) :
    let account := ofCalls source config calls
    let tracker := account.tracker
    let numbered := tracker.gapNotices + tracker.reportsEmitted * config.sizes.length
    account.toLedger = .ofCalls source config calls ∧
      account.lines.length + account.hidden.length = numbered + account.torn.length ∧
      (config.maxMessages ≤ noMinimum →
        account.torn = [] ∧ (account.lines.length = numbered ↔ account.hidden = [])) ∧
      ∀ next, (∃ failure, (tracker.markLoggerStarting next).result = .error failure) ↔
        ∃ gap, tracker.window.gapBefore next = .ok (some gap) ∧ ¬gap.Shown config.zone := by
  intro account tracker numbered
  have sound : account.Sound source config := sound_ofCalls accepted calls
  have balanced : account.lines.length + account.hidden.length =
      numbered + account.torn.length := by
    have balanced := balanced_ofCalls source accepted calls
    rw [Tracker.linesNumbered, sound.config_eq] at balanced
    exact balanced
  refine ⟨toLedger_ofCalls calls, balanced, ?_, ?_⟩
  · intro bounded
    have whole : account.torn = [] := torn_ofCalls accepted bounded calls
    refine ⟨whole, ?_⟩
    rw [whole, List.length_nil] at balanced
    rw [← List.length_eq_zero_iff]
    omega
  · intro next
    rw [← sound.config_eq, Tracker.markLoggerStarting_error_iff sound.bucket_eq]
    exact exists_congr fun gap => Tracker.hiddenGap?_eq_some_iff

/-- A logger that starts after the calendar: its notice is numbered, its line is not there. -/
theorem notice_numbered_unwritten :
    let run := Ledger.ofCalls "gate" Config.standard
      [.arrive ⟨"a", 0, false⟩, .startLogger 253402300800000]
    Config.standard.Accepted ∧ run.failures = [.yearOutOfRange 10000] ∧ run.lines = [] ∧
      run.tracker.gapNotices = 1 ∧ run.tracker.reportsEmitted = 0 ∧
      run.lines.length ≠ run.tracker.gapNotices +
        run.tracker.reportsEmitted * Config.standard.sizes.length := by
  refine ⟨⟨by decide, rfl⟩, ?_⟩
  decide +kernel

/-- A notice, a report of all sizes, and a logger that starts after the calendar. -/
theorem lines_of_numbers_gate :
    let calls : List Call :=
      [.arrive ⟨"a", 0, false⟩, .startLogger 1800000, .report none, .startLogger 253402300800000]
    let account := ofCalls "gate" Config.standard calls
    Config.standard.Accepted ∧ Config.standard.maxMessages ≤ noMinimum ∧
      account.hidden = [⟨422337168, 0, 0, 253402300800000⟩] ∧
      account.tracker.gapNotices = 2 ∧ account.tracker.reportsEmitted = 1 ∧
      account.lines.length = 6 := by
  intro calls account
  have accepted : Config.standard.Accepted := ⟨by decide, rfl⟩
  have bounded : Config.standard.maxMessages ≤ noMinimum := by decide
  have hidden : account.hidden = [⟨422337168, 0, 0, 253402300800000⟩] := by decide +kernel
  have notices : account.tracker.gapNotices = 2 := by decide +kernel
  have reports : account.tracker.reportsEmitted = 1 := by decide +kernel
  obtain ⟨-, balanced, whole, -⟩ := lines_of_numbers "gate" accepted calls
  refine ⟨accepted, bounded, hidden, notices, reports, ?_⟩
  have torn : account.torn = [] := (whole bounded).1
  have sizes : Config.standard.sizes.length = 5 := rfl
  change account.lines.length + account.hidden.length = account.tracker.gapNotices +
    account.tracker.reportsEmitted * Config.standard.sizes.length + account.torn.length at balanced
  rw [hidden, notices, reports, torn, sizes] at balanced
  simp only [List.length_cons, List.length_nil] at balanced
  omega

end Account

end ArrivalRates
