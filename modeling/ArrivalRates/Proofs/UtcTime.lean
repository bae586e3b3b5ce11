import ArrivalRates.Event
import ArrivalRates.Proofs.LineText

/-!
# Arrivals on the clock of UTC

An arrival becomes a wall time through a quotient that binary64 cannot always hold. Up to 272 years
from 1970 the rounding stays below half a microsecond and the wall time is the exact one; in the
rest of the calendar it is off by at most 15 microseconds, never by so much that another second
begins. So the date and the written time are those of exact arithmetic, and what arrives at a
timestamp is shown at the moment that it means, cut to the millisecond.
-/

namespace ArrivalRates

open Binary64

def WallTime.ofMillis (millis : Int) : WallTime := ⟨1000 * millis⟩

/-- Up to here from 1970, in milliseconds, seconds leave binary64 enough bits for microseconds. -/
def exactMillis : Int := 1000 * 2 ^ 33

namespace WallTime

variable {a b : WallTime}

theorem second_ofMillis (millis : Int) : (ofMillis millis).micros / 1000000 = millis / 1000 := by
  simp only [ofMillis]
  omega

theorem day_ofMillis (millis : Int) : (ofMillis millis).day = ⟨millis / 86400000⟩ := by
  simp only [ofMillis, day, microsPerDay, microsPerSecond, Day.mk.injEq]
  omega

theorem isSupported_ofMillis_iff {millis : Int} :
    (ofMillis millis).isSupported ↔ (Day.mk (millis / 86400000)).isSupported := by
  rw [isSupported, day_ofMillis]

/-- The second decides the day and the time that is written. -/
theorem day_congr (same : a.micros / 1000000 = b.micros / 1000000) : a.day = b.day := by
  simp only [day, microsPerDay, microsPerSecond, Day.mk.injEq]
  omega

theorem stamp_congr (same : a.micros / 1000000 = b.micros / 1000000) : a.stamp = b.stamp := by
  have second : a.secondOfDay = b.secondOfDay := by
    simp only [secondOfDay, microsPerDay, microsPerSecond]
    omega
  simp only [stamp, hour, minute, WallTime.second, day_congr same, second]

end WallTime

/-! ### The error of the quotient -/

/-- The wall time of an arrival whose seconds lie below a power of two is off by the rounding of the
quotient and at most half a microsecond more. -/
theorem abs_utcMicros_sub_le {millis micros : Int} {k : Nat} (shown : utcMicros millis = .ok micros)
    (near : |millis| < 1000 * 2 ^ k) (range : k ≤ 1023) :
    |(micros : Rat) - 1000 * millis| ≤ 1000000 * 2 ^ ((k : Int) - 54) + 501 / 1000 := by
  have thousand : ((1000 : Int) : Rat) = 1000 := rfl
  have small : |(millis : Rat) / 1000| < 2 ^ (k : Int) := by
    have near' : |(millis : Rat)| < 1000 * 2 ^ k := by exact_mod_cast near
    have divisor : (0 : Rat) < 1000 := by norm_num
    rw [abs_div, abs_of_pos divisor, div_lt_iff₀ divisor, mul_comm, zpow_natCast]
    exact near'
  have finite_size : |(millis : Rat) / 1000| < overflowBound := by
    refine small.trans_le ?_
    rw [overflowBound]
    exact zpow_le_zpow_right₀ one_le_two (by omega)
  obtain ⟨x, quotient_eq, -, rfl⟩ := of_utcMicros shown
  obtain ⟨value, finite, close⟩ :
      ∃ value, x.toRat? = some value ∧ |value - millis / 1000| ≤ 2 ^ ((k : Int) - 54) := by
    have error := abs_quotient_sub millis (show (0 : Int) < 1000 by decide)
    have step := abs_rounded_sub_le_of_lt (abs_nonneg ((millis : Rat) / 1000)) small (by omega)
    rcases quotient_cases millis (show (0 : Int) < 1000 by decide) with ⟨-, large⟩ | finite
    · exact absurd finite_size (not_lt.2 large)
    · rw [← eq_quotient_of_ok (by decide) quotient_eq] at finite
      rw [thousand] at error finite
      exact ⟨_, finite, error.trans_le step⟩
  have split := abs_splitSeconds_micros_sub_le finite
  push_cast
  rw [abs_le] at close split ⊢
  constructor <;> linarith

/-- Across the calendar the microseconds are off by 15 at most, and not at all near 1970. -/
theorem utcMicros_spec {millis : Int} (supported : (WallTime.ofMillis millis).isSupported) :
    ∃ micros, utcMicros millis = .ok micros ∧ micros / 1000000 = millis / 1000 ∧
      |micros - 1000 * millis| < 16 ∧ (|millis| < exactMillis → micros = 1000 * millis) := by
  rw [WallTime.isSupported_ofMillis_iff] at supported
  obtain ⟨micros, shown, second⟩ := utcMicros_of_isSupported supported
  refine ⟨micros, shown, second, ?_, fun near => ?_⟩
  · have near : |millis| < 1000 * 2 ^ 38 := by
      have range := Day.isSupported_iff.1 supported
      simp only at range
      rw [abs_lt]
      omega
    have error := abs_utcMicros_sub_le shown near (by decide)
    have step : (1000000 : Rat) * 2 ^ (((38 : Nat) : Int) - 54) + 501 / 1000 < 16 := by norm_num
    exact_mod_cast error.trans_lt step
  · have error := abs_utcMicros_sub_le shown near (by decide)
    have step : (1000000 : Rat) * 2 ^ (((33 : Nat) : Int) - 54) + 501 / 1000 < 1 := by norm_num
    have none : |micros - 1000 * millis| < 1 := by exact_mod_cast error.trans_lt step
    rw [Int.abs_lt_one_iff] at none
    omega

/-! ### Wall times on UTC -/

theorem TimeZone.atMillis_utc_of_utcMicros {millis micros : Int}
    (supported : (WallTime.ofMillis millis).isSupported) (shown : utcMicros millis = .ok micros)
    (second : micros / 1000000 = millis / 1000) :
    utc.atMillis millis = .ok ⟨⟨micros⟩, 0⟩ := by
  have offset : utc.offsetAt (micros / WallTime.microsPerSecond) = 0 := rfl
  have same : (WallTime.mk micros).day = (WallTime.ofMillis millis).day :=
    WallTime.day_congr (second.trans (WallTime.second_ofMillis millis).symm)
  have inside : (WallTime.mk micros).isSupported := by
    rw [WallTime.isSupported, same]
    exact supported
  rw [atMillis, shown]
  simp only [bind, Except.bind, localTime, offset, zero_mul, add_zero, if_pos inside]

namespace Validation

theorem both_eq_ok {a : Checked α} {b : Checked β} {x : α} {y : β} :
    both a b = .ok (x, y) ↔ a = .ok x ∧ b = .ok y := by
  cases a <;> cases b <;> simp [both]

end Validation

/-! ### Timestamps -/

/-- So many microseconds from 1970 is the moment of a timestamp. A wall time without an offset is
one of UTC, and a clock with an offset is ahead of UTC by it. -/
def Timestamp.Means : Timestamp → Int → Prop
  | ⟨wall, none⟩, micros => micros = wall.micros
  | ⟨wall, some offset⟩, micros => micros + offset = wall.micros

theorem Timestamp.means_iff {time : Timestamp} {micros : Int} :
    time.Means micros ↔ micros = time.instant := by
  obtain ⟨wall, _ | offset⟩ := time <;> simp only [Means, instant, Option.getD] <;> omega

/-- Near 1970 the arrival of a moment is shown at this moment, cut to the millisecond. -/
theorem TimeZone.atMillis_utc_arrivalOfInstant {micros : Int}
    (near : |Event.arrivalOfInstant micros| < exactMillis) :
    utc.atMillis (Event.arrivalOfInstant micros) = .ok ⟨⟨micros - micros % 1000⟩, 0⟩ := by
  have supported : (WallTime.ofMillis (Event.arrivalOfInstant micros)).isSupported := by
    rw [WallTime.isSupported_ofMillis_iff, Day.isSupported_iff]
    rw [abs_lt, exactMillis] at near
    simp only
    omega
  obtain ⟨shown, there, second, -, exact⟩ := utcMicros_spec supported
  have cut : shown = micros - micros % 1000 := by
    rw [exact near, Event.arrivalOfInstant]
    omega
  exact cut ▸ atMillis_utc_of_utcMicros supported there second

/-- The arrival of an event that was read is its timestamp, in whole milliseconds. -/
theorem Event.arrival_of_decode {value : Json} {event : Event} (read : decode value = .ok event) :
    ∃ instant, Validation.required value "timestamp" Validation.instant = .ok instant ∧
      event.arrival = arrivalOfInstant instant := by
  unfold decode at read
  split at read
  · simp only [bind, Except.bind] at read
    split at read
    · cases read
    next fields_eq =>
      obtain ⟨-, others⟩ := Validation.both_eq_ok.1 fields_eq
      obtain ⟨-, others⟩ := Validation.both_eq_ok.1 others
      obtain ⟨timestamp, -⟩ := Validation.both_eq_ok.1 others
      exact ⟨_, timestamp, congrArg Event.arrival (Except.ok.inj read).symm⟩
  · cases read

/-- An event that was read is shown at its own timestamp, cut to the millisecond. -/
theorem Event.atMillis_utc_of_decode {value : Json} {event : Event}
    (read : decode value = .ok event) (near : |event.arrival| < exactMillis) :
    ∃ instant, Validation.required value "timestamp" Validation.instant = .ok instant ∧
      TimeZone.utc.atMillis event.arrival = .ok ⟨⟨instant - instant % 1000⟩, 0⟩ := by
  obtain ⟨instant, timestamp, arrival⟩ := arrival_of_decode read
  rw [arrival] at near ⊢
  exact ⟨instant, timestamp, TimeZone.atMillis_utc_arrivalOfInstant near⟩

/-- The wall time of an arrival on UTC, as far as the calendar goes: the second, the date, the
written time and the midnight before it are the exact ones, and the microseconds are as good as
exact, or exact up to 272 years from 1970. So what arrives at a timestamp is shown at the moment
that it means, cut to the millisecond. -/
theorem TimeZone.atMillis_utc :
    (∀ millis : Int, (WallTime.ofMillis millis).isSupported →
      ∃ wall, utc.atMillis millis = .ok ⟨wall, 0⟩ ∧
        wall.micros / WallTime.microsPerSecond = millis / 1000 ∧
        |(wall.microsecond : Int) - 1000 * (millis % 1000)| < 16 ∧
        (|millis| < exactMillis → (wall.microsecond : Int) = 1000 * (millis % 1000)) ∧
        wall.day = (WallTime.ofMillis millis).day ∧
        wall.stamp = (WallTime.ofMillis millis).stamp ∧
        (WallTime.ofMillis millis).IsWritten wall.stamp ∧
        (utc.dayAt millis).map WallTime.midnight = .ok (.midnight ⟨millis / 86400000⟩)) ∧
    ∀ (time : Timestamp) (micros : Int), time.Means micros →
      Event.arrivalOfInstant time.instant = micros / 1000 ∧
        (|micros / 1000| < exactMillis →
          utc.atMillis (Event.arrivalOfInstant time.instant) =
            .ok ⟨⟨micros - micros % 1000⟩, 0⟩) := by
  refine ⟨fun millis supported => ?_, fun time micros means => ?_⟩
  · obtain ⟨micros, shown, second, close, exact⟩ := utcMicros_spec supported
    have microsecond : ((WallTime.mk micros).microsecond : Int) - 1000 * (millis % 1000) =
        micros - 1000 * millis := by
      simp only [WallTime.microsecond, WallTime.microsPerSecond]
      omega
    have same := second.trans (WallTime.second_ofMillis millis).symm
    refine ⟨⟨micros⟩, atMillis_utc_of_utcMicros supported shown second, second, ?_, fun near => ?_,
      WallTime.day_congr same, WallTime.stamp_congr same, ?_, ?_⟩
    · rwa [microsecond]
    · rw [← sub_eq_zero, microsecond, exact near, sub_self]
    · rw [WallTime.stamp_congr same]
      exact WallTime.isWritten_stamp supported
    · rw [WallTime.isSupported_ofMillis_iff] at supported
      rw [dayAt_utc_eq_ok_iff.2 ⟨supported, rfl⟩]
      rfl
  · obtain rfl := Timestamp.means_iff.1 means
    exact ⟨rfl, atMillis_utc_arrivalOfInstant⟩

/-- The last millisecond of the calendar, of which binary64 holds only part, and a timestamp in the
last microsecond before 1970, on a clock that is ahead of UTC by an hour. -/
theorem TimeZone.atMillis_utc_edges :
    let time : Timestamp := ⟨⟨3599999999⟩, some 3600000000⟩
    (WallTime.ofMillis 253402300799999).isSupported ∧
      (∃ wall, utc.atMillis 253402300799999 = .ok ⟨wall, 0⟩ ∧
        wall.stamp = "12/31/9999 23:59:59" ∧ wall.microsecond = 998993) ∧
      time.render = "1970-01-01T00:59:59.999999+01:00" ∧ time.Means (-1) ∧
      Event.arrivalOfInstant time.instant = -1 ∧ utc.atMillis (-1) = .ok ⟨⟨-1000⟩, 0⟩ := by
  intro time
  obtain ⟨times, timestamps⟩ := atMillis_utc
  have supported : (WallTime.ofMillis 253402300799999).isSupported := by decide
  have means : time.Means (-1) := rfl
  obtain ⟨wall, shown, -, -, -, -, stamp, -⟩ := times 253402300799999 supported
  obtain ⟨arrival, cut⟩ := timestamps time (-1) means
  refine ⟨supported, ⟨wall, shown, stamp.trans (by decide +kernel), ?_⟩, by decide +kernel, means,
    arrival, cut (by decide)⟩
  have computed : utc.atMillis 253402300799999 = .ok ⟨⟨253402300799998993⟩, 0⟩ := by
    decide +kernel
  rw [computed, Except.ok.injEq, LocalTime.mk.injEq] at shown
  rw [← shown.1]
  rfl

end ArrivalRates
