import ArrivalRates.Clock
import ArrivalRates.Proofs.Rounding

/-!
# The local day of an arrival

The wall time of an arrival goes through a rounded quotient, so its microseconds may be off, but the
second is not: as long as the calendar reaches, the rounding error stays below a millisecond and a
whole second is exact. `TimeZone.dayAt_eq_ok_iff` is the outcome: an arrival has a local day exactly
if the calendar has its UTC day and its local date, and then it is the date of its exact second.
-/

namespace ArrivalRates

/-! ### The calendar -/

theorem daysBeforeYear_lt_iff {a b : Int} : daysBeforeYear a < daysBeforeYear b ↔ a < b := by
  refine (strictMono_int_of_lt_succ fun year => ?_).lt_iff_lt
  unfold daysBeforeYear
  simp only
  omega

namespace Day

variable {day : Day}

theorem index_inj {a b : Day} : a.index = b.index ↔ a = b := by
  rw [Day.mk.injEq]

/-- The year is the one that the day lies in. -/
theorem year_spec (day : Day) :
    daysBeforeYear day.year ≤ day.ordinal ∧ day.ordinal < daysBeforeYear (day.year + 1) := by
  unfold year daysBeforeYear
  simp only
  split
  · omega
  · split <;> omega

theorem le_year_iff {year : Int} : year ≤ day.year ↔ daysBeforeYear year ≤ day.ordinal := by
  obtain ⟨low, high⟩ := day.year_spec
  have first := daysBeforeYear_lt_iff (a := day.year) (b := year)
  have last := daysBeforeYear_lt_iff (a := year) (b := day.year + 1)
  omega

/-- The years of the calendar, counted in days since 1970. -/
theorem isSupported_iff : day.isSupported ↔ -719162 ≤ day.index ∧ day.index < 2932897 := by
  have first : daysBeforeYear 1 = 0 := by decide
  have last : daysBeforeYear 10000 = 3652059 := by decide
  have low : 1 ≤ day.year ↔ _ := le_year_iff
  have high : 10000 ≤ day.year ↔ _ := le_year_iff
  simp only [isSupported, decide_eq_true_eq]
  unfold ordinal epochOrdinal at low high
  omega

end Day

/-! ### The second of an arrival -/

open Binary64

/-- The microseconds that a part of a second is shown with. -/
def microsOf (part : Rat) : Int :=
  nearestInt (((ofRat part).mul (ofInt 1000000)).toRat?.getD 0)

private theorem ofInt_million : (ofInt 1000000).toRat? = some 1000000 := by
  have finite : ofInt 1000000 = finite false 8589934592000000 (-33) := by decide +kernel
  rw [finite, toRat?]
  norm_num

/-- Of two roundings and one nearest integer, only the last one matters to the microseconds. -/
theorem abs_microsOf_sub_le {part : Rat} (small : |part| ≤ 1) :
    |(microsOf part : Rat) - part * 1000000| ≤ 501 / 1000 := by
  have large := two_pow_lt_overflowBound
  have least := leastQuantum_le
  obtain ⟨r, value, near⟩ := ofRat_error (q := part) (by linarith)
  have close : |r - part| ≤ 1 / 2 ^ 50 := by
    rw [slack] at near
    linarith
  have bounded : |r * 1000000| ≤ 2000000 := by
    rw [abs_le] at small close ⊢
    constructor <;> linarith
  obtain ⟨s, product, error⟩ := mul_error value ofInt_million (by linarith)
  have shown : |s - r * 1000000| ≤ 1 / 2 ^ 30 := by
    rw [slack] at error
    linarith
  have whole := abs_nearestInt_sub_le s
  rw [microsOf, product, Option.getD_some]
  rw [abs_le] at close shown whole ⊢
  constructor <;> linarith

theorem microsOf_zero : microsOf 0 = 0 := by decide +kernel

theorem microsOf_of_pos {part : Rat} (low : 9 / 10000 ≤ part) (high : part ≤ 9991 / 10000) :
    0 ≤ microsOf part ∧ microsOf part < 1000000 := by
  have small : |part| ≤ 1 := by rw [abs_le]; constructor <;> linarith
  have close := abs_le.1 (abs_microsOf_sub_le small)
  constructor
  · have : ((0 : Int) : Rat) ≤ microsOf part := by push_cast; linarith
    exact_mod_cast this
  · have : (microsOf part : Rat) < ((1000000 : Int) : Rat) := by push_cast; linarith
    exact_mod_cast this

theorem microsOf_of_neg {part : Rat} (low : -(9991 / 10000) ≤ part) (high : part ≤ -(9 / 10000)) :
    -1000000 ≤ microsOf part ∧ microsOf part < 0 := by
  have small : |part| ≤ 1 := by rw [abs_le]; constructor <;> linarith
  have close := abs_le.1 (abs_microsOf_sub_le small)
  constructor
  · have : ((-1000000 : Int) : Rat) ≤ microsOf part := by push_cast; linarith
    exact_mod_cast this
  · have : (microsOf part : Rat) < ((0 : Int) : Rat) := by push_cast; linarith
    exact_mod_cast this

theorem splitSeconds_of_splitPoint {x : Binary64} {whole : Int} {part : Rat}
    (point : x.splitPoint = (whole, part)) :
    splitSeconds x =
      if 1000000 ≤ microsOf part then (whole + 1, microsOf part - 1000000)
      else if microsOf part < 0 then (whole - 1, microsOf part + 1000000)
      else (whole, microsOf part) := by
  unfold splitSeconds
  rw [point]
  rfl

/-- Near an exact count of milliseconds, the split finds the second that it lies in. -/
theorem splitSeconds_eq {x : Binary64} {value : Rat} {millis : Int} (finite : x.toRat? = some value)
    (near : |value - millis / 1000| ≤ 1 / 10000)
    (exact : millis % 1000 = 0 → value = (millis / 1000 : Int)) :
    ∃ micros, splitSeconds x = (millis / 1000, micros) ∧ 0 ≤ micros ∧ micros < 1000000 := by
  have digits : (millis : Rat) = 1000 * (millis / 1000 : Int) + (millis % 1000 : Int) := by
    exact_mod_cast (Int.mul_ediv_add_emod millis 1000).symm
  have point : x.splitPoint =
      (if value < 0 then value.ceil else value.floor,
        value - (if value < 0 then value.ceil else value.floor : Int)) := by
    rw [splitPoint, finite]
    rfl
  generalize millis / 1000 = k at digits exact ⊢
  rcases Decidable.em (millis % 1000 = 0) with whole | broken
  · have value_eq := exact whole
    refine ⟨0, ?_, by decide, by decide⟩
    rw [splitSeconds_of_splitPoint point, value_eq]
    simp [microsOf_zero]
  -- a broken second is at least a millisecond away from the seconds around it
  · have low : (1 : Rat) ≤ (millis % 1000 : Int) := by
      exact_mod_cast (by omega : 1 ≤ millis % 1000)
    have high : ((millis % 1000 : Int) : Rat) ≤ 999 := by
      exact_mod_cast (by omega : millis % 1000 ≤ 999)
    rw [abs_le] at near
    have above : k + 9 / 10000 ≤ value := by linarith
    have below : value ≤ k + 9991 / 10000 := by linarith
    by_cases negative : value < 0
    · have ceil : value.ceil = k + 1 := by
        have least : value.ceil ≤ k + 1 := by
          rw [Rat.ceil_le_iff]
          push_cast
          linarith
        have greatest : k < value.ceil := by
          rw [Rat.lt_ceil_iff]
          linarith
        omega
      rw [if_pos negative, ceil] at point
      have micros : -1000000 ≤ microsOf (value - (k + 1 : Int)) ∧
          microsOf (value - (k + 1 : Int)) < 0 := by
        apply microsOf_of_neg
        · push_cast; linarith
        · push_cast; linarith
      refine ⟨microsOf (value - (k + 1 : Int)) + 1000000, ?_, by omega, by omega⟩
      rw [splitSeconds_of_splitPoint point, if_neg (by omega), if_pos micros.2, Int.add_sub_cancel]
    · have floor : value.floor = k := by
        have greatest : k ≤ value.floor := by
          rw [Rat.le_floor_iff]
          linarith
        have least : value.floor < k + 1 := by
          rw [Rat.floor_lt_iff]
          push_cast
          linarith
        omega
      rw [if_neg negative, floor] at point
      have micros : 0 ≤ microsOf (value - k) ∧ microsOf (value - k) < 1000000 := by
        apply microsOf_of_pos <;> linarith
      refine ⟨microsOf (value - k), ?_, micros⟩
      rw [splitSeconds_of_splitPoint point, if_neg (by omega), if_neg (by omega)]

theorem splitPoint_spec {x : Binary64} {value : Rat} (finite : x.toRat? = some value) :
    ∃ (whole : Int) (part : Rat),
      x.splitPoint = (whole, part) ∧ value = whole + part ∧ |part| ≤ 1 := by
  rw [splitPoint, finite, Option.getD_some]
  refine ⟨_, _, rfl, (add_sub_cancel _ _).symm, ?_⟩
  split
  · have low := Rat.le_ceil (x := value)
    have high := Rat.ceil_lt (x := value)
    rw [abs_le]
    constructor <;> linarith
  · have low := Rat.floor_le value
    have high := Rat.lt_floor_add_one value
    push_cast at high
    rw [abs_le]
    constructor <;> linarith

theorem abs_splitSeconds_sub_le {x : Binary64} {value : Rat} (finite : x.toRat? = some value) :
    |((splitSeconds x).1 : Rat) - value| ≤ 2 := by
  obtain ⟨whole, part, split, rfl, near⟩ := splitPoint_spec finite
  rw [splitSeconds_of_splitPoint split]
  rw [abs_le] at near ⊢
  split
  · push_cast
    constructor <;> linarith
  · split
    · push_cast
      constructor <;> linarith
    · constructor <;> linarith

/-- Seconds and microseconds together are the datum to the nearest microsecond, but for the
rounding of their product. -/
theorem abs_splitSeconds_micros_sub_le {x : Binary64} {value : Rat}
    (finite : x.toRat? = some value) :
    |((splitSeconds x).1 * 1000000 + (splitSeconds x).2 : Rat) - value * 1000000| ≤
      501 / 1000 := by
  obtain ⟨whole, part, split, rfl, small⟩ := splitPoint_spec finite
  have near := abs_microsOf_sub_le small
  have total : ((splitSeconds x).1 * 1000000 + (splitSeconds x).2 : Rat) =
      whole * 1000000 + microsOf part := by
    rw [splitSeconds_of_splitPoint split]
    split
    · push_cast
      ring
    · split
      · push_cast
        ring
      · rfl
  rw [total]
  convert near using 2
  ring

/-! ### Quotients -/

theorem quotient_eq_ok {a b : Int} (apart : b ≠ 0) {q : Rat}
    (finite : (Binary64.quotient a b).toRat? = some q) :
    ArrivalRates.quotient a b = .ok (Binary64.quotient a b) := by
  rw [ArrivalRates.quotient, if_neg apart]
  split
  next overflow =>
    rw [overflow] at finite
    cases finite
  · rfl

theorem eq_quotient_of_ok {a b : Int} {x : Binary64} (apart : b ≠ 0)
    (divides : ArrivalRates.quotient a b = .ok x) : x = Binary64.quotient a b := by
  rw [ArrivalRates.quotient, if_neg apart] at divides
  split at divides
  · cases divides
  · exact (Except.ok.inj divides).symm

/-- Counts of milliseconds up to a few thousand years before and after the calendar. -/
private def farMillis : Int := 300000000000000

private theorem quotient_thousand {millis : Int} (low : -farMillis ≤ millis)
    (high : millis ≤ farMillis) :
    ∃ x value, ArrivalRates.quotient millis 1000 = .ok x ∧ x.toRat? = some value ∧
      |value - millis / 1000| ≤ 1 / 10000 ∧
      (millis % 1000 = 0 → value = (millis / 1000 : Int)) := by
  have size : |(millis : Rat) / (1000 : Int)| ≤ 300000000000 := by
    have low : ((-300000000000000 : Int) : Rat) ≤ millis := by exact_mod_cast low
    have high : (millis : Rat) ≤ ((300000000000000 : Int) : Rat) := by exact_mod_cast high
    push_cast at low high ⊢
    rw [abs_le]
    constructor <;> linarith
  have large := two_pow_lt_overflowBound
  have error := quotient_error millis (show (0 : Int) < 1000 by decide)
  rcases quotient_cases millis (show (0 : Int) < 1000 by decide) with overflow | finite
  · linarith [overflow.2]
  · generalize value_eq :
      signed (decide (millis < 0)) (rounded |(millis : Rat) / (1000 : Int)|) = value at error finite
    refine ⟨_, value, quotient_eq_ok (by decide) finite, finite, ?_, ?_⟩
    · have least := leastQuantum_le
      rw [slack] at error
      push_cast at error size
      linarith
    · intro whole
      have digits : (millis : Rat) / (1000 : Int) = (millis / 1000 : Int) := by
        rw [div_eq_iff (by norm_num)]
        exact_mod_cast (Int.ediv_mul_cancel (Int.dvd_of_emod_eq_zero whole)).symm
      have bits : (millis / 1000).natAbs < 2 ^ 53 := by
        unfold farMillis at low high
        omega
      have abs_eq : |((millis / 1000 : Int) : Rat)| = (millis / 1000).natAbs := by
        rw [Nat.cast_natAbs, Int.cast_abs]
      have sign : decide (millis < 0) = decide (((millis / 1000 : Int) : Rat) < 0) := by
        rw [decide_eq_decide, Int.cast_lt_zero]
        omega
      rw [← value_eq, digits, abs_eq, rounded_natCast bits, ← abs_eq, sign, signed_abs]

/-! ### The day of an arrival -/

theorem utcMicros_of_isSupported {millis : Int}
    (supported : (Day.mk (millis / 86400000)).isSupported) :
    ∃ micros, utcMicros millis = .ok micros ∧ micros / 1000000 = millis / 1000 := by
  have range := Day.isSupported_iff.1 supported
  simp only at range
  have low : -farMillis ≤ millis := by unfold farMillis; omega
  have high : millis ≤ farMillis := by unfold farMillis; omega
  obtain ⟨x, value, quotient_eq, finite, near, exact⟩ := quotient_thousand low high
  obtain ⟨micros, split, first, last⟩ := splitSeconds_eq finite near exact
  have day : millis / 1000 / 86400 = millis / 86400000 := by omega
  have years := of_decide_eq_true supported
  refine ⟨millis / 1000 * 1000000 + micros, ?_, by omega⟩
  rw [utcMicros, quotient_eq]
  simp only [bind, Except.bind, split, day]
  rw [if_neg (by unfold secondsBound; omega), if_neg (by unfold yearsBound; omega),
    if_neg (by omega)]
  rfl

/-- What has a wall time has a second whose day is in the calendar. -/
theorem of_utcMicros {millis micros : Int} (shown : utcMicros millis = .ok micros) :
    ∃ x, ArrivalRates.quotient millis 1000 = .ok x ∧
      (Day.mk ((splitSeconds x).1 / 86400)).isSupported ∧
      micros = (splitSeconds x).1 * 1000000 + (splitSeconds x).2 := by
  unfold utcMicros at shown
  cases quotient_eq : ArrivalRates.quotient millis 1000 with
  | error failure => rw [quotient_eq] at shown; cases shown
  | ok x =>
    rw [quotient_eq] at shown
    simp only [bind, Except.bind] at shown
    refine ⟨x, rfl, ?_⟩
    split at shown
    · cases shown
    · split at shown
      · cases shown
      · split at shown
        · cases shown
        next years =>
          rw [Day.isSupported, decide_eq_true_eq]
          exact ⟨by omega, (Except.ok.inj shown).symm⟩

theorem isSupported_of_utcMicros {millis micros : Int} (shown : utcMicros millis = .ok micros) :
    (Day.mk (millis / 86400000)).isSupported := by
  obtain ⟨x, quotient_eq, supported, -⟩ := of_utcMicros shown
  have range := Day.isSupported_iff.1 supported
  simp only at range
  -- a second inside the calendar rules out a quotient so large that its rounding could matter
  have near : |(millis : Rat) / (1000 : Int)| ≤ 300000000000 := by
    have error := quotient_error millis (show (0 : Int) < 1000 by decide)
    have least := leastQuantum_le
    rcases quotient_cases millis (show (0 : Int) < 1000 by decide) with ⟨⟨_, overflow⟩, -⟩ | finite
    · rw [ArrivalRates.quotient, if_neg (by decide), overflow] at quotient_eq
      cases quotient_eq
    · rw [← eq_quotient_of_ok (by decide) quotient_eq] at finite
      have close := abs_splitSeconds_sub_le finite
      have low : ((-62135596800 : Int) : Rat) ≤ (splitSeconds x).1 := by
        exact_mod_cast (by omega : -62135596800 ≤ (splitSeconds x).1)
      have high : ((splitSeconds x).1 : Rat) ≤ ((253402300800 : Int) : Rat) := by
        exact_mod_cast (by omega : (splitSeconds x).1 ≤ 253402300800)
      generalize signed (decide (millis < 0)) (rounded |(millis : Rat) / (1000 : Int)|) = value at *
      have triangle := abs_sub_abs_le_abs_sub ((millis : Rat) / (1000 : Int)) value
      have value_abs : |value| ≤ 253402300802 := by
        push_cast at low high
        rw [abs_le] at close ⊢
        constructor <;> linarith
      rw [abs_sub_comm] at triangle
      rw [slack] at error
      linarith
  rw [abs_le] at near
  push_cast at near
  have low : -farMillis ≤ millis := by
    have : ((-300000000000000 : Int) : Rat) ≤ millis := by push_cast; linarith
    exact_mod_cast this
  have high : millis ≤ farMillis := by
    have : (millis : Rat) ≤ ((300000000000000 : Int) : Rat) := by push_cast; linarith
    exact_mod_cast this
  obtain ⟨y, value, quotient_eq', finite, near, exact⟩ := quotient_thousand low high
  obtain rfl : x = y := Except.ok.inj (quotient_eq.symm.trans quotient_eq')
  obtain ⟨micros, split, -⟩ := splitSeconds_eq finite near exact
  have day : millis / 1000 / 86400 = millis / 86400000 := by omega
  rwa [split, day] at supported

/-- The clock of a zone is whole seconds away from UTC, so the second decides the local day. -/
private theorem localTime_day (zone : TimeZone) (micros : Int) :
    ((zone.localTime micros).map fun time => time.wall.day) =
      let day : Day := ⟨(micros / 1000000 + zone.offsetAt (micros / 1000000)) / 86400⟩
      if day.isSupported then .ok day else .error .dateOutOfRange := by
  have shifted : ∀ offset, (WallTime.mk (micros + offset * 1000000)).day =
      ⟨(micros / 1000000 + offset) / 86400⟩ := by
    intro offset
    simp only [WallTime.day, WallTime.microsPerDay, WallTime.microsPerSecond, Day.mk.injEq]
    omega
  simp only [TimeZone.localTime, WallTime.isSupported, WallTime.microsPerSecond, shifted]
  split <;> simp only [Except.map, shifted]

/-- The date on the clock of a zone at the exact second of an arrival, whether or not the calendar
reaches it. -/
def TimeZone.localDate (zone : TimeZone) (millis : Int) : Day :=
  ⟨(millis / 1000 + zone.offsetAt (millis / 1000)) / 86400⟩

/-- An arrival has a local day exactly if the calendar reaches its UTC day and its local date, and
then the day is that date. -/
theorem TimeZone.dayAt_eq_ok_iff {zone : TimeZone} {millis : Int} {day : Day} :
    zone.dayAt millis = .ok day ↔
      (Day.mk (millis / 86400000)).isSupported ∧ day.isSupported ∧ day = zone.localDate millis := by
  have unfolded : zone.dayAt millis =
      ((utcMicros millis).bind zone.localTime).map fun time => time.wall.day := rfl
  rw [unfolded]
  cases micros_eq : utcMicros millis with
  | error failure =>
    constructor
    · intro shown
      cases shown
    · rintro ⟨supported, -⟩
      obtain ⟨micros, exact, -⟩ := utcMicros_of_isSupported supported
      rw [micros_eq] at exact
      cases exact
  | ok micros =>
    have supported := isSupported_of_utcMicros micros_eq
    obtain ⟨same, exact, second⟩ := utcMicros_of_isSupported supported
    obtain rfl : same = micros := Except.ok.inj (exact.symm.trans micros_eq)
    simp only [Except.bind, localTime_day, second, supported, true_and, TimeZone.localDate]
    split
    next here =>
      rw [Except.ok.injEq]
      constructor
      · rintro rfl
        exact ⟨here, rfl⟩
      · rintro ⟨-, rfl⟩
        rfl
    next beyond =>
      constructor
      · intro shown
        cases shown
      · rintro ⟨here, rfl⟩
        exact absurd here beyond

/-- The calendar reaches the UTC day of an arrival and its local date. -/
def TimeZone.Shows (zone : TimeZone) (millis : Int) : Prop :=
  (Day.mk (millis / 86400000)).isSupported ∧ (zone.localDate millis).isSupported

instance (zone : TimeZone) (millis : Int) : Decidable (zone.Shows millis) :=
  inferInstanceAs (Decidable (_ ∧ _))

theorem TimeZone.shows_iff {zone : TimeZone} {millis : Int} :
    zone.Shows millis ↔ ∃ time, zone.atMillis millis = .ok time := by
  have days : zone.Shows millis ↔ ∃ day, zone.dayAt millis = .ok day := by
    simp only [Shows, dayAt_eq_ok_iff]
    constructor
    · rintro ⟨supported, here⟩
      exact ⟨_, supported, here, rfl⟩
    · rintro ⟨_, supported, here, rfl⟩
      exact ⟨supported, here⟩
  rw [days, dayAt]
  cases zone.atMillis millis <;> simp [Except.map]

/-- On UTC the local date is the day since 1970. -/
theorem TimeZone.localDate_utc (millis : Int) :
    TimeZone.utc.localDate millis = ⟨millis / 86400000⟩ := by
  have offset : TimeZone.utc.offsetAt (millis / 1000) = 0 := rfl
  have index : millis / 1000 / 86400 = millis / 86400000 := by omega
  rw [TimeZone.localDate, offset, Int.add_zero, index]

theorem TimeZone.dayAt_utc_eq_ok_iff {millis : Int} {day : Day} :
    TimeZone.utc.dayAt millis = .ok day ↔ day.isSupported ∧ day = ⟨millis / 86400000⟩ := by
  rw [TimeZone.dayAt_eq_ok_iff, TimeZone.localDate_utc]
  constructor
  · rintro ⟨-, here, rfl⟩
    exact ⟨here, rfl⟩
  · rintro ⟨here, rfl⟩
    exact ⟨here, here, rfl⟩

end ArrivalRates
