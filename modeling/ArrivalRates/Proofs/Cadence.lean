import ArrivalRates.Proofs.Decision

/-!
# How often a schedule reports

A schedule that remembers each report that was due answers once a day: asked again on the same day,
it stays silent. With a frequency of several days it reports daily in the first period, and each of
these reports puts off the fresh start, which is counted from the last one. So the statistics start
anew after two periods and then after each one, and there is silence in between.
-/

namespace ArrivalRates

namespace Day

def later (day : Day) (days : Int) : Day := ⟨day.index + days⟩

@[simp] theorem later_zero (day : Day) : day.later 0 = day := by simp [later]

@[simp] theorem daysSince_later (day : Day) (m n : Int) :
    (day.later m).daysSince (day.later n) = m - n := by
  simp only [daysSince, later]
  omega

@[simp] theorem later_daysSince (day : Day) (n : Int) : (day.later n).daysSince day = n := by
  simp only [daysSince, later]
  omega

end Day

def Decision.silent (day : Day) : Decision := ⟨false, false, day⟩

namespace Schedule

/-! ### Asking again and again -/

/-- The schedule after a decision: a report that is due is remembered. -/
def heed (schedule : Schedule) (decision : Decision) : Schedule :=
  if decision.emit then schedule.markReported decision.day else schedule

/-- The decisions at some moments, each of them heeded before the next one. -/
def decisions (schedule : Schedule) : List Int → Except Failure (List Decision)
  | [] => .ok []
  | moment :: rest => do
    let decision ← schedule.decisionAt moment
    let others ← (schedule.heed decision).decisions rest
    return decision :: others

def running (frequency : Frequency) (zone : TimeZone) (start last : Day) : Schedule :=
  ⟨frequency, zone, some last, some start⟩

variable {frequency : Frequency} {zone : TimeZone} {start last day : Day} {moments rest : List Int}
  {others : List Decision}

theorem decisions_cons {moment : Int} (shown : zone.dayAt moment = .ok day)
    (after : (running frequency zone start
      (if (answer frequency last start day).emit then day else last)).decisions rest = .ok others) :
    (running frequency zone start last).decisions (moment :: rest) =
      .ok (answer frequency last start day :: others) := by
  have decided : (running frequency zone start last).decisionAt moment =
      .ok (answer frequency last start day) :=
    (decisionAt_eq_ok_iff rfl rfl).2 ⟨day, shown, rfl⟩
  have heeded : (running frequency zone start last).heed (answer frequency last start day) =
      running frequency zone start
        (if (answer frequency last start day).emit then day else last) := by
    unfold heed
    split
    · rw [answer_day]
      rfl
    · rfl
  rw [decisions, decided]
  simp only [bind, Except.bind, heeded, after]
  rfl

/-- The statistics only start anew after a report. -/
theorem emit_of_answer_reset (resets : (answer frequency last start day).reset = true) :
    (answer frequency last start day).emit = true := by
  unfold answer at *
  split at resets
  · cases resets
  next late =>
    rw [if_neg late]
    cases frequency with
    | monthly =>
      dsimp only at resets ⊢
      split at resets
      next changed => rw [if_pos changed]
      · cases resets
    | days count =>
      dsimp only at resets ⊢
      split at resets
      next many => rw [if_pos many]
      · cases resets

theorem answer_eq_silent (quiet : (answer frequency last start day).emit = false) :
    answer frequency last start day = .silent day := by
  have resets := mt emit_of_answer_reset (Bool.eq_false_iff.1 quiet)
  have here := answer_day frequency last start day
  generalize answer frequency last start day = decision at *
  cases decision
  simp_all [Decision.silent]

/-- The second answer of a day is silent, whether the first one was or not. -/
theorem answer_again (frequency : Frequency) (last start day : Day) :
    answer frequency (if (answer frequency last start day).emit then day else last) start day =
      .silent day := by
  apply answer_eq_silent
  split
  · exact answer_emit_of_le le_rfl
  next quiet => simpa using quiet

theorem decisions_of_silent (silent : answer frequency last start day = .silent day)
    (shown : ∀ moment ∈ moments, zone.dayAt moment = .ok day)
    (after : (running frequency zone start last).decisions rest = .ok others) :
    (running frequency zone start last).decisions (moments ++ rest) =
      .ok (List.replicate moments.length (.silent day) ++ others) := by
  induction moments with
  | nil => exact after
  | cons moment later ih =>
    obtain ⟨here, there⟩ := List.forall_mem_cons.1 shown
    have unchanged : (if (answer frequency last start day).emit then day else last) = last := by
      rw [silent]
      rfl
    rw [List.length_cons, List.replicate_succ, List.cons_append, List.cons_append]
    nth_rewrite 1 [← silent]
    exact decisions_cons here (unchanged.symm ▸ ih there)

/-- All questions of one day: nothing is due after the first. -/
theorem decisions_of_day (asked : moments ≠ [])
    (shown : ∀ moment ∈ moments, zone.dayAt moment = .ok day)
    (after : (running frequency zone start
      (if (answer frequency last start day).emit then day else last)).decisions rest = .ok others) :
    (running frequency zone start last).decisions (moments ++ rest) =
      .ok (answer frequency last start day ::
        List.replicate (moments.length - 1) (.silent day) ++ others) := by
  obtain ⟨moment, later, rfl⟩ := List.exists_cons_of_ne_nil asked
  obtain ⟨here, there⟩ := List.forall_mem_cons.1 shown
  exact decisions_cons here (decisions_of_silent (answer_again ..) there after)

/-! ### A frequency in days -/

/-- The first decision on the `k`-th day after the start, with a frequency in days. -/
def planned (count : Int) (start : Day) (k : Int) : Decision :=
  let resets := decide (count = 1 ∨ 2 * count ≤ k ∧ count ∣ k)
  ⟨decide (k ≤ count) || resets, resets, start.later k⟩

/-- All decisions of the `k`-th day, for a number of questions. -/
def plannedDay (count : Int) (start : Day) (k : Int) (questions : Nat) : List Decision :=
  planned count start k :: List.replicate (questions - 1) (.silent (start.later k))

/-- The day of the last report when `k` days have passed, counted from the start. -/
def lastReportAfter (count k : Int) : Int := if k ≤ count then k else k - k % count

theorem lastReportAfter_of_le {count k : Int} (late : count ≤ k) :
    lastReportAfter count k = k - k % count := by
  unfold lastReportAfter
  split
  next early =>
    obtain rfl : k = count := by omega
    rw [Int.emod_self]
    omega
  · rfl

theorem emod_succ {count : Int} (positive : 1 ≤ count) (k : Int) :
    (k + 1) % count = if k % count + 1 = count then 0 else k % count + 1 := by
  have low := Int.emod_nonneg k (show count ≠ 0 by omega)
  have high := Int.emod_lt_of_pos k (show 0 < count by omega)
  rw [← Int.emod_add_emod]
  split
  next full => rw [full, Int.emod_self]
  · exact Int.emod_eq_of_lt (by omega) (by omega)

/-- Past the first period, the days with a fresh start are those that end a period. -/
theorem fresh_iff {count k : Int} (positive : 1 ≤ count) (late : count ≤ k) :
    (count = 1 ∨ 2 * count ≤ k + 1 ∧ count ∣ k + 1) ↔ k % count + 1 = count := by
  have low := Int.emod_nonneg k (show count ≠ 0 by omega)
  have high := Int.emod_lt_of_pos k (show 0 < count by omega)
  have step := emod_succ positive k
  constructor
  · rintro (rfl | ⟨-, multiple⟩)
    · omega
    · by_contra partly
      rw [if_neg partly, Int.emod_eq_zero_of_dvd multiple] at step
      omega
  · intro full
    rw [if_pos full] at step
    have multiple : count ∣ k + 1 := Int.dvd_of_emod_eq_zero step
    have rest := Int.le_of_dvd (by omega) (Int.dvd_sub multiple (Int.dvd_refl count))
    exact .inr ⟨by omega, multiple⟩

/-- Every day of the first period has its report, so only one day has passed since the last. -/
theorem answer_first_period (start : Day) {count k : Int} (nonneg : 0 ≤ k) (early : k < count) :
    answer (.days count) (start.later k) start (start.later (k + 1)) =
        planned count start (k + 1) ∧
      (planned count start (k + 1)).emit = true := by
  unfold answer planned
  simp only [Day.daysSince_later, Day.later_daysSince]
  rw [if_neg (by omega)]
  rcases eq_or_ne count 1 with rfl | more
  · simp
  · have none : ¬(count = 1 ∨ 2 * count ≤ k + 1 ∧ count ∣ k + 1) := by omega
    rw [if_neg (by omega)]
    simp [none]
    omega

theorem answer_later_period (start : Day) {count k : Int} (positive : 1 ≤ count)
    (late : count ≤ k) :
    answer (.days count) (start.later (k - k % count)) start (start.later (k + 1)) =
        planned count start (k + 1) ∧
      (planned count start (k + 1)).emit = decide (k % count + 1 = count) := by
  have low := Int.emod_nonneg k (show count ≠ 0 by omega)
  have high := Int.emod_lt_of_pos k (show 0 < count by omega)
  unfold answer planned
  simp only [Day.daysSince_later, Day.later_daysSince, fresh_iff positive late]
  rw [if_neg (by omega)]
  by_cases full : k % count + 1 = count
  · rw [if_pos (by omega)]
    simp [full]
  · rw [if_neg (by omega)]
    simp [full]
    omega

/-- The first decision of a day is as planned, and so is the day of the last report after it. -/
theorem answer_planned (start : Day) {count k : Int} (positive : 1 ≤ count) (nonneg : 0 ≤ k) :
    answer (.days count) (start.later (lastReportAfter count k)) start (start.later (k + 1)) =
        planned count start (k + 1) ∧
      lastReportAfter count (k + 1) =
        if (planned count start (k + 1)).emit then k + 1 else lastReportAfter count k := by
  rcases lt_or_ge k count with early | late
  · obtain ⟨answered, emits⟩ := answer_first_period start nonneg early
    have last : lastReportAfter count k = k := if_pos early.le
    have next : lastReportAfter count (k + 1) = k + 1 := if_pos (by omega)
    rw [last, next, emits]
    exact ⟨answered, rfl⟩
  · obtain ⟨answered, emits⟩ := answer_later_period start positive late
    rw [lastReportAfter_of_le late, lastReportAfter_of_le (late.trans (by omega)), emits,
      emod_succ positive]
    refine ⟨answered, ?_⟩
    simp only [decide_eq_true_eq]
    split <;> omega

theorem decisions_from {count : Int} (positive : 1 ≤ count) (visits : List (List Int)) {k : Int}
    (nonneg : 0 ≤ k)
    (asked : ∀ (i : Nat) (inside : i < visits.length), visits[i] ≠ [] ∧
      ∀ moment ∈ visits[i], zone.dayAt moment = .ok (start.later (k + (i + 1)))) :
    (running (.days count) zone start (start.later (lastReportAfter count k))).decisions
        visits.flatten =
      .ok (visits.mapIdx fun i moments =>
        plannedDay count start (k + (i + 1)) moments.length).flatten := by
  induction visits generalizing k with
  | nil => rfl
  | cons moments others ih =>
    obtain ⟨here, next⟩ := answer_planned start positive nonneg
    obtain ⟨nonempty, shown⟩ := asked 0 (by simp)
    simp only [List.getElem_cons_zero, Nat.cast_zero, zero_add] at nonempty shown
    have moved : (if (planned count start (k + 1)).emit then start.later (k + 1)
        else start.later (lastReportAfter count k)) =
          start.later (lastReportAfter count (k + 1)) := by
      rw [next, apply_ite start.later]
    -- the other days are counted from the day after
    have shift (i : Nat) : k + ((i + 1 : Nat) + 1) = k + 1 + (i + 1) := by omega
    have after := ih (k := k + 1) (by omega) fun i inside => by
      have there := asked (i + 1) (by simpa using inside)
      rwa [List.getElem_cons_succ, shift] at there
    rw [← moved, ← here] at after
    rw [List.flatten_cons, decisions_of_day nonempty shown after, here, List.mapIdx_cons,
      List.flatten_cons]
    simp only [shift, plannedDay, Nat.cast_zero, zero_add, List.cons_append]

/-- A schedule that is asked at least once on each of the days after its start reports the first
time it is asked: on the first `count` days without a reset, on no more days up to twice as many,
and then on every multiple of `count` with a reset. With a frequency of one day every report
resets. -/
theorem decisions_eq_planned {count : Int} (positive : 1 ≤ count) (zone : TimeZone) {first : Int}
    {start : Day} (begins : zone.dayAt first = .ok start) (visits : List (List Int))
    (asked : ∀ (i : Nat) (inside : i < visits.length), visits[i] ≠ [] ∧
      ∀ moment ∈ visits[i], zone.dayAt moment = .ok (start.later (i + 1))) :
    (({ frequency := .days count, zone } : Schedule).start first).bind
        (·.decisions visits.flatten) =
      .ok (visits.mapIdx fun i moments =>
        plannedDay count start (i + 1) moments.length).flatten := by
  have started : ({ frequency := .days count, zone } : Schedule).start first =
      .ok (running (.days count) zone start (start.later (lastReportAfter count 0))) := by
    rw [lastReportAfter, if_pos (by omega), Day.later_zero, Schedule.start, begins]
    rfl
  have answers := decisions_from positive visits le_rfl (by simpa using asked)
  rw [started, Except.bind, answers]
  simp

/-- Every two days from a Saturday in New York, over the Sunday on which the clock is set back. -/
theorem decisions_eq_planned_new_york :
    let zone := TimeZone.americaNewYork
    let visits : List (List Int) :=
      [[1699156800000, 1699232400000, 1699246799999], [1699300000000], [1699340000000],
        [1699420000000, 1699430000000], [1699510000000], [1699599600000]]
    (1 : Int) ≤ 2 ∧ zone.dayAt 1699113600000 = .ok ⟨19665⟩ ∧
      (∀ (i : Nat) (inside : i < visits.length), visits[i] ≠ [] ∧
        ∀ moment ∈ visits[i], zone.dayAt moment = .ok (Day.later ⟨19665⟩ (i + 1))) ∧
      (({ frequency := .days 2, zone } : Schedule).start 1699113600000).bind
          (·.decisions visits.flatten) =
        .ok [⟨true, false, ⟨19666⟩⟩, .silent ⟨19666⟩, .silent ⟨19666⟩, ⟨true, false, ⟨19667⟩⟩,
          .silent ⟨19668⟩, ⟨true, true, ⟨19669⟩⟩, .silent ⟨19669⟩, .silent ⟨19670⟩,
          ⟨true, true, ⟨19671⟩⟩] := by
  intro zone visits
  have begins : zone.dayAt 1699113600000 = .ok ⟨19665⟩ := by decide +kernel
  have asked : ∀ (i : Nat) (inside : i < visits.length), visits[i] ≠ [] ∧
      ∀ moment ∈ visits[i], zone.dayAt moment = .ok (Day.later ⟨19665⟩ (i + 1)) := by
    decide +kernel
  exact ⟨by decide, begins, asked, decisions_eq_planned (by decide) zone begins visits asked⟩

end Schedule

end ArrivalRates
