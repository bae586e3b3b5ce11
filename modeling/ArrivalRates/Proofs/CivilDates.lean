import ArrivalRates.Proofs.LocalDay

/-!
# Dates and times of day

The date of a day is one that exists, and the day is found back from its numbers. A wall time is the
midnight of its day with hours, minutes, seconds and microseconds behind it.
-/

namespace ArrivalRates

/-! ### Dates -/

/-- The number of months that have begun on a day of the year is one of a month that the day lies
in. -/
theorem daysBeforeMonth_spec (leap : Bool) : ∀ n < if leap then 366 else 365,
    let month := ((List.range 12).filter fun m =>
      decide (daysBeforeMonth leap (m + 1) ≤ n)).length
    1 ≤ month ∧ month ≤ 12 ∧ daysBeforeMonth leap month ≤ n ∧
      n - daysBeforeMonth leap month + 1 ≤ daysInMonth leap month := by
  cases leap <;> decide +kernel

theorem daysBeforeYear_succ (year : Int) :
    daysBeforeYear (year + 1) =
      daysBeforeYear year + if isLeapYear year then 366 else 365 := by
  have leap : isLeapYear year = true ↔ year % 4 = 0 ∧ (year % 100 ≠ 0 ∨ year % 400 = 0) := by
    simp only [isLeapYear, Bool.and_eq_true, Bool.or_eq_true, decide_eq_true_eq]
  simp only [daysBeforeYear, leap]
  split <;> omega

namespace Day

variable {day : Day}

theorem dayOfYear_spec (day : Day) :
    daysBeforeYear day.year + day.dayOfYear = day.ordinal ∧
      day.dayOfYear < if isLeapYear day.year then 366 else 365 := by
  obtain ⟨low, high⟩ := day.year_spec
  rw [daysBeforeYear_succ] at high
  refine ⟨by unfold dayOfYear; omega, ?_⟩
  unfold dayOfYear
  by_cases leap : isLeapYear day.year = true
  · rw [if_pos leap] at high ⊢
    omega
  · rw [if_neg leap] at high ⊢
    omega

theorem month_spec (day : Day) : 1 ≤ day.month ∧ day.month ≤ 12 ∧
    daysBeforeMonth (isLeapYear day.year) day.month ≤ day.dayOfYear ∧
    day.dayOfMonth ≤ daysInMonth (isLeapYear day.year) day.month :=
  daysBeforeMonth_spec _ _ day.dayOfYear_spec.2

theorem dayOfMonth_le (day : Day) : day.dayOfMonth ≤ 31 := by
  have inside := day.month_spec.2.2.2
  unfold daysInMonth at inside
  split_ifs at inside <;> omega

theorem civilDay?_eq (supported : day.isSupported) :
    civilDay? day.year.toNat day.month day.dayOfMonth = some day := by
  rw [isSupported, decide_eq_true_eq] at supported
  have year : ((day.year.toNat : Nat) : Int) = day.year := Int.toNat_of_nonneg (by omega)
  obtain ⟨first, last, begun, inside⟩ := day.month_spec
  rw [civilDay?, year, if_pos ⟨by omega, by omega, first, last, Nat.le_add_left .., inside⟩]
  have count := day.dayOfYear_spec.1
  have ordinal : day.ordinal = day.index + epochOrdinal := rfl
  rw [ofCivil, dayOfMonth, Option.some.injEq, Day.mk.injEq]
  omega

end Day

/-! ### Times -/

namespace WallTime

variable {time : WallTime}

theorem secondOfDay_lt (time : WallTime) : time.secondOfDay < 86400 := by
  unfold secondOfDay microsPerDay microsPerSecond
  omega

theorem hour_lt (time : WallTime) : time.hour < 24 := by
  have bound := time.secondOfDay_lt
  unfold hour
  omega

theorem minute_lt (time : WallTime) : time.minute < 60 := Nat.mod_lt _ (by decide)

theorem second_lt (time : WallTime) : time.second < 60 := Nat.mod_lt _ (by decide)

theorem microsecond_lt (time : WallTime) : time.microsecond < 1000000 := by
  unfold microsecond microsPerSecond
  omega

theorem secondOfDay_eq (time : WallTime) :
    (time.hour * 60 + time.minute) * 60 + time.second = time.secondOfDay := by
  unfold hour minute second
  omega

/-- A time is the midnight of its day and what has passed since. -/
theorem midnight_add (time : WallTime) :
    (midnight time.day).micros + (((time.hour * 60 + time.minute) * 60 + time.second) * 1000000
      + time.microsecond : Nat) = time.micros := by
  rw [secondOfDay_eq]
  unfold midnight day secondOfDay microsecond microsPerDay microsPerSecond
  dsimp only
  omega

end WallTime

/-! ### The end of a day -/

/-- The stamp of a scheduled report shows the last second of the day before. -/
theorem endOfPreviousDay_spec {day : Day} {time : WallTime}
    (stamped : endOfPreviousDay day = .ok time) :
    time.isSupported ∧ time.day = ⟨day.index - 1⟩ ∧ time.hour = 23 ∧ time.minute = 59 ∧
      time.second = 59 := by
  simp only [endOfPreviousDay] at stamped
  split at stamped
  next supported =>
    obtain rfl := Except.ok.inj stamped
    refine ⟨supported, ?_⟩
    simp only [WallTime.day, WallTime.hour, WallTime.minute, WallTime.second, WallTime.secondOfDay,
      WallTime.midnight, WallTime.microsPerDay, WallTime.microsPerSecond, Day.mk.injEq]
    omega
  · cases stamped

/-- Every day of the calendar has a day before it, except the first. -/
theorem endOfPreviousDay_of_lt {earlier day : Day} (first : earlier.isSupported)
    (here : day.isSupported) (later : earlier.index < day.index) :
    ∃ time, endOfPreviousDay day = .ok time := by
  rw [Day.isSupported_iff] at first here
  refine ⟨_, if_pos ?_⟩
  rw [WallTime.isSupported, Day.isSupported_iff]
  simp only [WallTime.day, WallTime.midnight, WallTime.microsPerDay, WallTime.microsPerSecond]
  omega

end ArrivalRates
