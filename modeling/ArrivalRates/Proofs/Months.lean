import ArrivalRates.Proofs.Cadence
import Mathlib.Data.Prod.Lex

/-!
# Reports by months

With a monthly frequency the schedule asks whether the month of the day differs from that of the
last report, and not whether it is later. Both come to the same because it asks on no day up to that
of the last report, and because the last report lies in the latest month of which a day was asked:
a day past it in a new month is reported itself. `Logbook.Monthly` is this invariant.
-/

namespace ArrivalRates

/-! ### Calendar months -/

namespace Day

/-- The year and the month, in the order of time. -/
def calendarMonth (day : Day) : Int ×ₗ Nat := toLex (day.year, day.month)

theorem sameMonth_iff {a b : Day} : a.sameMonth b = true ↔ a.calendarMonth = b.calendarMonth := by
  rw [sameMonth, Bool.and_eq_true, decide_eq_true_iff, decide_eq_true_iff, and_comm, calendarMonth,
    calendarMonth, toLex_inj, Prod.mk.injEq]

theorem year_mono {a b : Day} (order : a.index ≤ b.index) : a.year ≤ b.year := by
  refine le_year_iff.2 (a.year_spec.1.trans ?_)
  unfold ordinal
  omega

/-- Within a year, later days lie in later months. -/
theorem month_mono {a b : Day} (same : a.year = b.year) (order : a.index ≤ b.index) :
    a.month ≤ b.month := by
  have later : a.dayOfYear ≤ b.dayOfYear := by
    unfold dayOfYear ordinal
    rw [same]
    omega
  refine List.Sublist.length_le (List.monotone_filter_right _ fun m begun => ?_)
  rw [decide_eq_true_iff] at begun ⊢
  exact same ▸ begun.trans later

theorem calendarMonth_mono {a b : Day} (order : a.index ≤ b.index) :
    a.calendarMonth ≤ b.calendarMonth := by
  refine Prod.Lex.toLex_le_toLex.2 ?_
  rcases (year_mono order).lt_or_eq with earlier | same
  · exact .inl earlier
  · exact .inr ⟨same, month_mono same order⟩

end Day

/-! ### One answer -/

namespace Schedule

variable {last start day : Day}

/-- A new month is a later one, since the day is past that of the last report. -/
theorem answer_monthly_reset_iff :
    (answer .monthly last start day).reset = true ↔ last.calendarMonth < day.calendarMonth := by
  unfold answer
  split
  next early =>
    have order : day.index ≤ last.index := by
      unfold Day.daysSince at early
      omega
    simp [(Day.calendarMonth_mono order).not_gt]
  next late =>
    have order : last.index ≤ day.index := by
      unfold Day.daysSince at late
      omega
    rw [(Day.calendarMonth_mono order).lt_iff_ne, ne_eq, ← Day.sameMonth_iff]
    cases last.sameMonth day <;> simp

/-- In the month of the start, every day past the last report has its report. -/
theorem answer_monthly_daily_iff (begun : start.index ≤ last.index) :
    (answer .monthly last start day).emit = true ∧ (answer .monthly last start day).reset = false ↔
      day.calendarMonth = start.calendarMonth ∧ last.index < day.index := by
  constructor
  · rintro ⟨emits, keeps⟩
    have later := lt_of_answer_emit emits
    refine ⟨?_, later⟩
    rw [Bool.eq_false_iff, ne_eq, answer_monthly_reset_iff] at keeps
    have same := (Day.calendarMonth_mono later.le).eq_of_not_lt keeps
    unfold answer at emits
    rw [if_neg (by unfold Day.daysSince; omega)] at emits
    simp only [Day.sameMonth_iff.2 same, Bool.not_true, Bool.false_eq_true, if_false] at emits
    exact (Day.sameMonth_iff.1 emits).symm
  · rintro ⟨first, later⟩
    -- the last report lies between the start and the day, hence in their month
    have same : last.calendarMonth = day.calendarMonth :=
      (Day.calendarMonth_mono later.le).antisymm (first ▸ Day.calendarMonth_mono begun)
    unfold answer
    rw [if_neg (by unfold Day.daysSince; omega)]
    simp [Day.sameMonth_iff.2 same, Day.sameMonth_iff.2 first.symm]

end Schedule

/-! ### Runs -/

/-- A schedule and the decisions that it has made. -/
structure Logbook where
  schedule : Schedule
  decisions : List Decision := []

namespace Logbook

/-- Asks for a decision and heeds it. Where none can be made, nothing changes. -/
def ask (book : Logbook) (moment : Int) : Logbook :=
  match book.schedule.decisionAt moment with
  | .ok decision => ⟨book.schedule.heed decision, book.decisions ++ [decision]⟩
  | .error _ => book

/-- A schedule that was asked at some moments. -/
def ofMoments (schedule : Schedule) (moments : List Int) : Logbook :=
  moments.foldl ask { schedule }

theorem ofMoments_concat (schedule : Schedule) (moments : List Int) (moment : Int) :
    ofMoments schedule (moments ++ [moment]) = (ofMoments schedule moments).ask moment :=
  List.foldl_concat ..

end Logbook

/-- The day of the last report that was written, or else the start. -/
def lastReported (start : Day) (decisions : List Decision) : Day :=
  ((decisions.filter (·.emit)).getLast?.map (·.day)).getD start

/-- What is due by months after some decisions. -/
structure Decision.DueByMonth (start : Day) (earlier : List Decision) (decision : Decision) :
    Prop where
  reset_iff : decision.reset = true ↔
    ∀ day ∈ start :: earlier.map (·.day), day.calendarMonth < decision.day.calendarMonth
  daily_iff : decision.emit = true ∧ decision.reset = false ↔
    decision.day.calendarMonth = start.calendarMonth ∧
      (lastReported start earlier).index < decision.day.index
  emit_of_reset : decision.reset = true → decision.emit = true

theorem lastReported_concat (start : Day) (earlier : List Decision) (decision : Decision) :
    lastReported start (earlier ++ [decision]) =
      if decision.emit then decision.day else lastReported start earlier := by
  unfold lastReported
  rw [List.filter_append, List.filter_singleton]
  cases decision.emit <;> simp

namespace Logbook

variable {zone : TimeZone} {start : Day} {book : Logbook} {moment : Int}

/-- The last report lies in the latest month of which a day was asked. -/
structure Monthly (zone : TimeZone) (start : Day) (book : Logbook) : Prop where
  schedule_eq : book.schedule =
    Schedule.running .monthly zone start (lastReported start book.decisions)
  start_le : start.index ≤ (lastReported start book.decisions).index
  latest : ∀ day ∈ start :: book.decisions.map (·.day),
    day.calendarMonth ≤ (lastReported start book.decisions).calendarMonth
  last_mem : lastReported start book.decisions ∈ start :: book.decisions.map (·.day)

/-- A month is later than all of which a day was asked if it is later than that of the last
report. -/
theorem Monthly.lt_iff (monthly : book.Monthly zone start) {day : Day} :
    (∀ earlier ∈ start :: book.decisions.map (·.day),
        earlier.calendarMonth < day.calendarMonth) ↔
      (lastReported start book.decisions).calendarMonth < day.calendarMonth :=
  ⟨fun all => all _ monthly.last_mem,
    fun later earlier member => (monthly.latest earlier member).trans_lt later⟩

theorem Monthly.dueByMonth (monthly : book.Monthly zone start) (day : Day) :
    (Schedule.answer .monthly (lastReported start book.decisions) start day).DueByMonth start
      book.decisions where
  reset_iff := by
    rw [Schedule.answer_day, monthly.lt_iff]
    exact Schedule.answer_monthly_reset_iff
  daily_iff := by
    rw [Schedule.answer_day]
    exact Schedule.answer_monthly_daily_iff monthly.start_le
  emit_of_reset := Schedule.emit_of_answer_reset

theorem Monthly.ask_ok (monthly : book.Monthly zone start) {day : Day}
    (shown : zone.dayAt moment = .ok day) :
    let decision := Schedule.answer .monthly (lastReported start book.decisions) start day
    book.ask moment = ⟨book.schedule.heed decision, book.decisions ++ [decision]⟩ := by
  intro decision
  have decided : book.schedule.decisionAt moment = .ok decision := by
    rw [monthly.schedule_eq]
    exact (Schedule.decisionAt_eq_ok_iff rfl rfl).2 ⟨day, shown, rfl⟩
  rw [ask, decided]

theorem Monthly.ask_error (monthly : book.Monthly zone start) {failure : Failure}
    (unshown : zone.dayAt moment = .error failure) : book.ask moment = book := by
  have undecided : book.schedule.decisionAt moment = .error failure := by
    rw [monthly.schedule_eq]
    exact (Schedule.decisionAt_eq_error_iff rfl rfl).2 unshown
  rw [ask, undecided]

/-- A report becomes the last one, and a day without a report is in no later month. -/
theorem Monthly.ask (monthly : book.Monthly zone start) (moment : Int) :
    (book.ask moment).Monthly zone start := by
  cases shown : zone.dayAt moment with
  | error failure => exact (monthly.ask_error shown).symm ▸ monthly
  | ok day =>
    have due := monthly.dueByMonth day
    have here := Schedule.answer_day .monthly (lastReported start book.decisions) start day
    rw [monthly.ask_ok shown]
    generalize answered : Schedule.answer .monthly (lastReported start book.decisions) start day =
      decision at due here
    subst here
    have days : (book.decisions ++ [decision]).map (·.day) =
        book.decisions.map (·.day) ++ [decision.day] := List.map_append
    cases emits : decision.emit with
    | true =>
      have later : (lastReported start book.decisions).index < decision.day.index :=
        Schedule.lt_of_answer_emit (answered.symm ▸ emits)
      have last : lastReported start (book.decisions ++ [decision]) = decision.day := by
        rw [lastReported_concat, if_pos emits]
      constructor
      · rw [last, Schedule.heed, if_pos emits, monthly.schedule_eq]
        rfl
      · rw [last]
        exact monthly.start_le.trans later.le
      · rw [last, days, ← List.cons_append]
        intro day member
        rcases List.mem_append.1 member with earlier | new
        · exact (monthly.latest day earlier).trans (Day.calendarMonth_mono later.le)
        · rw [List.mem_singleton.1 new]
      · rw [last, days, ← List.cons_append]
        exact List.mem_concat_self
    | false =>
      have last : lastReported start (book.decisions ++ [decision]) =
          lastReported start book.decisions := by
        rw [lastReported_concat, if_neg (by simp [emits])]
      have keeps : ¬decision.reset = true := mt due.emit_of_reset (by simp [emits])
      rw [due.reset_iff, monthly.lt_iff, not_lt] at keeps
      constructor
      · rw [last, Schedule.heed, if_neg (by simp [emits]), monthly.schedule_eq]
      · rw [last]
        exact monthly.start_le
      · rw [last, days, ← List.cons_append]
        intro day member
        rcases List.mem_append.1 member with earlier | new
        · exact monthly.latest day earlier
        · rw [List.mem_singleton.1 new]
          exact keeps
      · rw [last, days, ← List.cons_append]
        exact List.mem_append_left _ monthly.last_mem

/-- What a schedule by months has decided: once for each moment that has a local day, and each time
as it was due. -/
structure Complete (zone : TimeZone) (start : Day) (moments : List Int) (book : Logbook) : Prop
    extends book.Monthly zone start where
  days_eq : book.decisions.map (·.day) =
    moments.filterMap fun moment => (zone.dayAt moment).toOption
  due : ∀ (n : Nat) (decision : Decision), book.decisions[n]? = some decision →
    decision.DueByMonth start (book.decisions.take n)
  resets : ((book.decisions.filter (·.reset)).map (·.day.calendarMonth)).Pairwise (· < ·)

theorem complete_start (zone : TimeZone) (start : Day) :
    Complete zone start [] { schedule := .running .monthly zone start start } where
  schedule_eq := rfl
  start_le := le_rfl
  latest := by
    intro day member
    rw [List.mem_singleton.1 member]
    rfl
  last_mem := List.mem_cons_self
  days_eq := rfl
  due := by simp
  resets := .nil

theorem Complete.ask {moments : List Int} (complete : book.Complete zone start moments)
    (moment : Int) : (book.ask moment).Complete zone start (moments ++ [moment]) := by
  have monthly := complete.toMonthly.ask moment
  cases shown : zone.dayAt moment with
  | error failure =>
    have same := complete.ask_error shown
    refine ⟨monthly, ?_, same.symm ▸ complete.due, same.symm ▸ complete.resets⟩
    rw [same, complete.days_eq, List.filterMap_append]
    simp [shown, Except.toOption]
  | ok day =>
    have due := complete.dueByMonth day
    have here := Schedule.answer_day .monthly (lastReported start book.decisions) start day
    have asked := complete.ask_ok shown
    generalize Schedule.answer .monthly (lastReported start book.decisions) start day = decision
      at due here asked
    refine ⟨monthly, ?_, ?_, ?_⟩
    · rw [asked, List.map_append, complete.days_eq, List.filterMap_append, List.map_singleton, here]
      simp [shown, Except.toOption]
    · intro n other there
      rw [asked] at there ⊢
      rcases lt_trichotomy n book.decisions.length with inside | rfl | beyond
      · rw [List.getElem?_append_left inside] at there
        rw [List.take_append_of_le_length inside.le]
        exact complete.due n other there
      · rw [List.getElem?_concat_length] at there
        obtain rfl := Option.some.inj there
        rwa [List.take_left]
      · have length : (book.decisions ++ [decision]).length = book.decisions.length + 1 :=
          List.length_append
        rw [List.getElem?_eq_none (length.trans_le beyond)] at there
        cases there
    · rw [asked, List.filter_append, List.filter_singleton]
      cases resets : decision.reset with
      | false => simpa using complete.resets
      | true =>
        rw [cond_true, List.map_append, List.map_singleton, List.pairwise_append]
        refine ⟨complete.resets, List.pairwise_singleton .., fun month earlier month' new => ?_⟩
        obtain ⟨reset, member, rfl⟩ := List.mem_map.1 earlier
        have known := List.mem_map_of_mem (f := Decision.day) (List.mem_filter.1 member).1
        rw [List.mem_singleton.1 new]
        exact due.reset_iff.1 resets _ (List.mem_cons_of_mem _ known)

theorem complete_ofMoments (zone : TimeZone) (start : Day) (moments : List Int) :
    (ofMoments (.running .monthly zone start start) moments).Complete zone start moments := by
  induction moments using List.reverseRecOn with
  | nil => exact complete_start zone start
  | append_singleton moments moment ih =>
    rw [ofMoments_concat]
    exact ih.ask moment

/-- By months, the statistics start anew on the first day that is asked of each month after that of
the start, in whatever order the days come: exactly on those whose month is later than all months
asked before. In the month of the start a report without a reset is due on every day past that of
the last report, and on no other day. Every moment that has a local day gets its decision. -/
theorem decisions_by_month (zone : TimeZone) {first : Int} {start : Day}
    (begins : zone.dayAt first = .ok start) (moments : List Int) :
    ∃ schedule, ({ frequency := .monthly, zone } : Schedule).start first = .ok schedule ∧
      let decisions := (ofMoments schedule moments).decisions
      decisions.map (·.day) = moments.filterMap (fun moment => (zone.dayAt moment).toOption) ∧
        (∀ (n : Nat) (decision : Decision), decisions[n]? = some decision →
          decision.DueByMonth start (decisions.take n)) ∧
        ((decisions.filter (·.reset)).map (·.day.calendarMonth)).Pairwise (· < ·) := by
  have started : ({ frequency := .monthly, zone } : Schedule).start first =
      .ok (.running .monthly zone start start) := by
    rw [Schedule.start, begins]
    rfl
  have complete := complete_ofMoments zone start moments
  exact ⟨_, started, complete.days_eq, complete.due, complete.resets⟩

/-- From a day of November in New York, over the end of the year, back to November, to a moment past
the calendar and over a year without a question. -/
theorem decisions_by_month_new_york :
    let zone := TimeZone.americaNewYork
    let moments : List Int :=
      [1700100000000, 1700110000000, 1701500000000, 1700500000000, 253402300800000,
        1702500000000, 1704200000000, 1738500000000]
    zone.dayAt 1700000000000 = .ok ⟨19675⟩ ∧
      ∃ schedule, ({ frequency := .monthly, zone } : Schedule).start 1700000000000 = .ok schedule ∧
        let decisions := (ofMoments schedule moments).decisions
        decisions = [⟨true, false, ⟨19676⟩⟩, .silent ⟨19676⟩, ⟨true, true, ⟨19693⟩⟩,
          .silent ⟨19681⟩, .silent ⟨19704⟩, ⟨true, true, ⟨19724⟩⟩, ⟨true, true, ⟨20121⟩⟩] ∧
        ((decisions.filter (·.reset)).map (·.day.calendarMonth)).Pairwise (· < ·) := by
  intro zone moments
  have begins : zone.dayAt 1700000000000 = .ok ⟨19675⟩ := by decide +kernel
  obtain ⟨schedule, started, -, -, resets⟩ := decisions_by_month zone begins moments
  refine ⟨begins, schedule, started, ?_, resets⟩
  rw [Schedule.start, begins] at started
  obtain rfl := Except.ok.inj started
  decide +kernel

end Logbook

end ArrivalRates
