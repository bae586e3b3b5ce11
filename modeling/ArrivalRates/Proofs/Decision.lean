import ArrivalRates.Proofs.CivilDates
import ArrivalRates.Schedule

/-!
# When a report is due

The schedule only looks at calendar days. A report is due on no day up to that of the last one, so
the answer for a day stays silent once it was given, whether it was silent from the start or the
report was written. What lies between two arrivals is dated between them unless the clock of the
zone is set back across midnight: `TimeZone.DatesInOrder`.
-/

namespace ArrivalRates

namespace Schedule

variable {schedule : Schedule} {day last start : Day} {decision : Decision}

/-- What a schedule that was started answers on a day. -/
def answer (frequency : Frequency) (last start day : Day) : Decision :=
  if day.daysSince last < 1 then ⟨false, false, day⟩
  else
    match frequency with
    | .monthly =>
      if !last.sameMonth day then ⟨true, true, day⟩ else ⟨start.sameMonth day, false, day⟩
    | .days count =>
      if count ≤ day.daysSince last then ⟨true, true, day⟩
      else ⟨decide (day.daysSince start ≤ count), false, day⟩

theorem decisionOn_eq_answer (reported : schedule.lastReport = some last)
    (started : schedule.processingStart = some start) (day : Day) :
    schedule.decisionOn day = .ok (answer schedule.frequency last start day) := by
  obtain ⟨frequency, zone, lastReport, processingStart⟩ := schedule
  obtain rfl : lastReport = some last := reported
  obtain rfl : processingStart = some start := started
  unfold answer
  have opened : ∀ frequency, (Schedule.mk frequency zone (some last) (some start)).decisionOn day =
      if day.daysSince last < 1 then .ok ⟨false, false, day⟩
      else
        match frequency with
        | .monthly =>
          if !last.sameMonth day then .ok ⟨true, true, day⟩
          else .ok ⟨start.sameMonth day, false, day⟩
        | .days count =>
          if count ≤ day.daysSince last then .ok ⟨true, true, day⟩
          else .ok ⟨decide (day.daysSince start ≤ count), false, day⟩ := by
    intro frequency
    cases frequency <;> rfl
  rw [opened]
  split
  · rfl
  · cases frequency with
    | monthly => simp only; split <;> rfl
    | days count => simp only; split <;> rfl

theorem decisionOn_of_none (unstarted : schedule.lastReport = none) (day : Day) :
    schedule.decisionOn day = .error .scheduleNotStarted := by
  obtain ⟨frequency, zone, lastReport, processingStart⟩ := schedule
  obtain rfl : lastReport = none := unstarted
  rfl

theorem decisionAt_of_none (unstarted : schedule.lastReport = none) {millis : Int} :
    schedule.decisionAt millis ≠ .ok decision := by
  intro decided
  unfold decisionAt at decided
  cases day : schedule.zone.dayAt millis with
  | error failure => rw [day] at decided; cases decided
  | ok day' =>
    rw [day] at decided
    simp only [bind, Except.bind, decisionOn_of_none unstarted] at decided
    cases decided

/-- Once it was started, a schedule answers whenever there is a local day. -/
theorem decisionAt_eq_ok_iff (reported : schedule.lastReport = some last)
    (started : schedule.processingStart = some start) {millis : Int} :
    schedule.decisionAt millis = .ok decision ↔
      ∃ day, schedule.zone.dayAt millis = .ok day ∧
        answer schedule.frequency last start day = decision := by
  unfold decisionAt
  cases schedule.zone.dayAt millis with
  | error failure =>
    constructor
    · intro decided
      cases decided
    · rintro ⟨day, shown, -⟩
      cases shown
  | ok day =>
    simp only [bind, Except.bind, decisionOn_eq_answer reported started, Except.ok.injEq,
      exists_eq_left']

/-- It has no other failures than the missing of a local day. -/
theorem decisionAt_eq_error_iff (reported : schedule.lastReport = some last)
    (started : schedule.processingStart = some start) {millis : Int} {failure : Failure} :
    schedule.decisionAt millis = .error failure ↔ schedule.zone.dayAt millis = .error failure := by
  unfold decisionAt
  cases schedule.zone.dayAt millis with
  | error cause => simp [bind, Except.bind]
  | ok day => simp [bind, Except.bind, decisionOn_eq_answer reported started]

variable {frequency : Frequency}

@[simp] theorem answer_day (frequency : Frequency) (last start day : Day) :
    (answer frequency last start day).day = day := by
  unfold answer
  split
  · rfl
  · split <;> split <;> rfl

/-- The decision at a moment is the one for its local day. -/
theorem decisionAt_day (reported : schedule.lastReport = some last)
    (started : schedule.processingStart = some start) {millis : Int}
    (decided : schedule.decisionAt millis = .ok decision) :
    schedule.zone.dayAt millis = .ok decision.day ∧
      answer schedule.frequency last start decision.day = decision := by
  obtain ⟨day, shown, rfl⟩ := (decisionAt_eq_ok_iff reported started).1 decided
  rw [answer_day]
  exact ⟨shown, rfl⟩

theorem lt_of_answer_emit (emits : (answer frequency last start day).emit = true) :
    last.index < day.index := by
  unfold answer at emits
  split at emits
  · cases emits
  next late =>
    unfold Day.daysSince at late
    omega

theorem answer_emit_of_le (early : day.index ≤ last.index) :
    (answer frequency last start day).emit = false := by
  rw [Bool.eq_false_iff]
  intro emits
  have late := lt_of_answer_emit emits
  omega

theorem le_of_answer_reset {count : Int}
    (resets : (answer (.days count) last start day).reset = true) :
    count ≤ day.daysSince last := by
  unfold answer at resets
  split at resets
  · cases resets
  · simp only at resets
    split at resets
    next late => exact late
    · cases resets

end Schedule

/-! ### The order of local dates -/

namespace TimeZone

/-- Whether local dates only go forward from one moment to another. A clock that is set back across
midnight between them shows a date a second time. -/
def DatesInOrder (zone : TimeZone) (first last : Int) : Prop :=
  ∀ s t, first ≤ s → s ≤ t → t ≤ last → (zone.localDate s).index ≤ (zone.localDate t).index

theorem utc_datesInOrder (first last : Int) : utc.DatesInOrder first last := by
  intro s t _ order _
  rw [localDate_utc, localDate_utc]
  show s / 86400000 ≤ t / 86400000
  omega

variable {zone : TimeZone} {a b c : Int} {first last : Day}

theorem localDate_eq_of_dayAt (shown : zone.dayAt a = .ok first) : zone.localDate a = first :=
  (dayAt_eq_ok_iff.1 shown).2.2.symm

theorem isSupported_of_dayAt (shown : zone.dayAt a = .ok first) : first.isSupported :=
  (dayAt_eq_ok_iff.1 shown).2.1

/-- Between two moments with local days a moment has one if the calendar reaches its local date. -/
theorem dayAt_between (early : a ≤ b) (late : b ≤ c) (begins : zone.dayAt a = .ok first)
    (ends : zone.dayAt c = .ok last) (here : (zone.localDate b).isSupported) :
    zone.dayAt b = .ok (zone.localDate b) := by
  have low := (dayAt_eq_ok_iff.1 begins).1
  have high := (dayAt_eq_ok_iff.1 ends).1
  rw [Day.isSupported_iff] at low high
  simp only at low high
  refine dayAt_eq_ok_iff.2 ⟨Day.isSupported_iff.2 ?_, here, rfl⟩
  simp only
  omega

end TimeZone

end ArrivalRates
