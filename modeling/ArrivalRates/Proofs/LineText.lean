import ArrivalRates.Proofs.CivilDates
import ArrivalRates.Report
import Mathlib.Data.List.Forall2

/-!
# The text of a line

What stands in a line, said without the functions that make it: a source with fields behind it, each
after a comma and a blank. Numbers are in decimal digits, a mean or a deviation has two places, and
a time is its date, month first, and the time of day without what is smaller than a second. The
lines of a report and of a notice are of this form.
-/

namespace ArrivalRates

/-! ### Numbers -/

namespace Text

def twoDigits (n : Nat) : String := toString (n / 10) ++ toString (n % 10)

theorem padded_two : ∀ n < 100, padded 2 n = twoDigits n := by decide +kernel

theorem padded_one (n : Nat) : padded 1 n = toString n := by
  rw [padded, Nat.toString_eq_ofList_toDigits, Nat.sub_eq_zero_of_le Nat.length_toDigits_pos]
  rfl

theorem integerText_eq (n : Int) : integerText n = toString n := by
  cases n with
  | ofNat n => exact padded_one n
  | negSucc n =>
    rw [integerText, if_pos (Int.negSucc_lt_zero n), padded_one]
    rfl

end Text

open Text

/-- A text is a number to two places: its sign and the hundredths nearest to its size. -/
def Binary64.IsWritten : Binary64 → String → Prop
  | nan, text => text = "nan"
  | infinity negative, text => text = if negative then "-inf" else "inf"
  | finite negative mantissa exponent, text =>
    ∃ hundredths : Nat, |(hundredths : Rat) - mantissa * 2 ^ exponent * 100| ≤ 1 / 2 ∧
      text = (if negative then "-" else "") ++ toString (hundredths / 100) ++ "." ++
        twoDigits (hundredths % 100)

theorem Binary64.isWritten_toFixed (x : Binary64) : x.IsWritten (x.toFixed 2) := by
  cases x with
  | nan => rfl
  | infinity negative => cases negative <;> rfl
  | finite negative mantissa exponent =>
    have size : (0 : Rat) ≤ mantissa * 2 ^ exponent * 100 := by positivity
    have close := abs_nearestInt_sub_le ((mantissa : Rat) * 2 ^ exponent * 100)
    have whole : ((nearestInt ((mantissa : Rat) * 2 ^ exponent * 100)).toNat : Int) =
        nearestInt ((mantissa : Rat) * 2 ^ exponent * 100) :=
      Int.toNat_of_nonneg (nearestInt_nonneg size)
    refine ⟨(nearestInt ((mantissa : Rat) * 2 ^ exponent * 100)).toNat, ?_, ?_⟩
    · have same : (((nearestInt ((mantissa : Rat) * 2 ^ exponent * 100)).toNat : Nat) : Rat) =
          nearestInt ((mantissa : Rat) * 2 ^ exponent * 100) := by exact_mod_cast whole
      rwa [same]
    · have places : (10 : Rat) ^ 2 = 100 := by norm_num
      have hundred : Nat.pow 10 2 = 100 := rfl
      rw [toFixed, places, hundred, if_neg (by decide), padded_one,
        padded_two _ (Nat.mod_lt _ (by decide))]
      rfl

/-! ### Times -/

/-- A text is the date of a day: the month and the day of the month in two digits each, and the
year. -/
def Day.IsWritten (day : Day) (text : String) : Prop :=
  ∃ year month date : Nat, civilDay? year month date = some day ∧
    text = twoDigits month ++ "/" ++ twoDigits date ++ "/" ++ toString year

/-- A text is a wall time: the date, and the hour, minute and second in two digits each. -/
def WallTime.IsWritten (time : WallTime) (text : String) : Prop :=
  ∃ (day : Day) (date : String) (hour minute second micros : Nat),
    hour < 24 ∧ minute < 60 ∧ second < 60 ∧ micros < 1000000 ∧
      time.micros = day.index * 86400000000 +
        (((hour * 60 + minute) * 60 + second) * 1000000 + micros : Nat) ∧
      day.IsWritten date ∧ text =
        date ++ " " ++ twoDigits hour ++ ":" ++ twoDigits minute ++ ":" ++ twoDigits second

/-- A text is what the clock of a zone shows at a moment. -/
def TimeZone.Displays (zone : TimeZone) (millis : Int) (text : String) : Prop :=
  ∃ time, zone.atMillis millis = .ok time ∧ time.wall.IsWritten text

def Day.dateText (day : Day) : String :=
  twoDigits day.month ++ "/" ++ twoDigits day.dayOfMonth ++ "/" ++ toString day.year

theorem Day.isWritten_dateText {day : Day} (supported : day.isSupported) :
    day.IsWritten day.dateText := by
  refine ⟨day.year.toNat, day.month, day.dayOfMonth, day.civilDay?_eq supported, ?_⟩
  rw [isSupported, decide_eq_true_eq] at supported
  have year : ((day.year.toNat : Nat) : Int) = day.year := Int.toNat_of_nonneg (by omega)
  rw [dateText, ← year]
  rfl

theorem WallTime.stamp_eq (time : WallTime) :
    time.stamp = time.day.dateText ++ " " ++ twoDigits time.hour ++ ":" ++ twoDigits time.minute ++
      ":" ++ twoDigits time.second := by
  have month := time.day.month_spec.2.1
  have dayOfMonth := time.day.dayOfMonth_le
  have hour := time.hour_lt
  have minute := time.minute_lt
  have second := time.second_lt
  rw [stamp, padded_two _ (by omega), padded_two _ (by omega), padded_two _ (by omega),
    padded_two _ (by omega), padded_two _ (by omega), integerText_eq]
  rfl

theorem WallTime.isWritten_stamp {time : WallTime} (supported : time.isSupported) :
    time.IsWritten time.stamp :=
  ⟨time.day, time.day.dateText, time.hour, time.minute, time.second, time.microsecond,
    time.hour_lt, time.minute_lt, time.second_lt, time.microsecond_lt, time.midnight_add.symm,
    Day.isWritten_dateText supported, time.stamp_eq⟩

theorem exists_isWritten_endOfPreviousDay {day : Day} {time : WallTime}
    (stamped : endOfPreviousDay day = .ok time) :
    ∃ date, (Day.mk (day.index - 1)).IsWritten date ∧ time.stamp = date ++ " 23:59:59" := by
  obtain ⟨supported, before, hour, minute, second⟩ := endOfPreviousDay_spec stamped
  refine ⟨time.day.dateText, before ▸ Day.isWritten_dateText supported, ?_⟩
  have fiftyNine : twoDigits 59 = "59" := by decide +kernel
  have twentyThree : twoDigits 23 = "23" := by decide +kernel
  rw [time.stamp_eq, hour, minute, second, fiftyNine, twentyThree]
  simp only [String.append_assoc]
  rfl

theorem TimeZone.displays_stamp {zone : TimeZone} {millis : Int} {time : LocalTime}
    (shown : zone.atMillis millis = .ok time) : zone.Displays millis time.wall.stamp := by
  have dated : zone.dayAt millis = .ok time.wall.day := by
    rw [dayAt, shown]
    rfl
  exact ⟨time, shown, WallTime.isWritten_stamp (dayAt_eq_ok_iff.1 dated).2.1⟩

/-! ### Lines -/

/-- A sequence has a value if its first part has one and, with that one, the rest has. -/
theorem bind_eq_ok {α β : Type} {first : Except Failure α} {rest : α → Except Failure β}
    {value : β} (succeeds : (first >>= rest) = .ok value) :
    ∃ a, first = .ok a ∧ rest a = .ok value := by
  cases first with
  | error failure => cases succeeds
  | ok a => exact ⟨a, rfl, succeeds⟩

theorem map_eq_ok {α β : Type} {first : Except Failure α} {f : α → β} {value : β}
    (mapped : first.map f = .ok value) : ∃ a, first = .ok a ∧ f a = value := by
  cases first with
  | error failure => cases mapped
  | ok a => exact ⟨a, rfl, Except.ok.inj mapped⟩

/-- A text with fields behind it, each after a comma and a blank. -/
def Text.withFields (text : String) (fields : List String) : String :=
  ", ".intercalate (text :: fields)

theorem Text.withFields_concat (text : String) (fields : List String) (field : String) :
    withFields text (fields ++ [field]) = withFields text fields ++ ", " ++ field := by
  rw [withFields, ← List.cons_append,
    String.intercalate_append_of_ne_nil (List.cons_ne_nil _ _) (List.cons_ne_nil _ _),
    String.intercalate_singleton]
  rfl

namespace Statistics

/-- What statistics show, by their labels; the moments are given as texts. -/
def fields (stats : Statistics) (primaryMean secondaryMean deviation : String) : List String :=
  [ "IntervalSize=" ++ toString stats.size,
    "msg1UMIDAvgCount=" ++ primaryMean,
    "msg2UMIDAvgCount=" ++ secondaryMean,
    "msg1UMIDCount=" ++ toString stats.primaryUniqueSum,
    "msg2UMIDCount=" ++ toString stats.secondaryUniqueSum,
    "numOfIntervals=" ++ toString stats.intervals,
    "msg1UMIDStdDev=" ++ deviation,
    "msg1UMIDMin=" ++ toString stats.primaryMin,
    "msg1UMIDMax=" ++ toString stats.primaryMax,
    "zeroCountIntervals=" ++ toString stats.zeroIntervals,
    "msg1TotalCount=" ++ toString stats.primaryTotal,
    "msg2TotalCount=" ++ toString stats.secondaryTotal ]

/-- A line shows statistics under a source and a stamp, the moments to two places. -/
def ShownIn (stats : Statistics) (source stamp line : String) : Prop :=
  ∃ (primaryMean secondaryMean deviation : Binary64) (primary secondary spread : String),
    stats.primaryMean = .ok primaryMean ∧ primaryMean.IsWritten primary ∧
    stats.secondaryMean = .ok secondaryMean ∧ secondaryMean.IsWritten secondary ∧
    stats.primaryDeviation = .ok deviation ∧ deviation.IsWritten spread ∧
    line = withFields source (stamp :: stats.fields primary secondary spread)

/-- The moments of statistics that can be shown. -/
theorem moments_of_render {stats : Statistics} {text : String} (shown : stats.render = .ok text) :
    ∃ primaryMean secondaryMean deviation, stats.primaryMean = .ok primaryMean ∧
      stats.secondaryMean = .ok secondaryMean ∧ stats.primaryDeviation = .ok deviation ∧
      ∀ source stamp : String, reportLine source stamp text = withFields source (stamp ::
        stats.fields (primaryMean.toFixed 2) (secondaryMean.toFixed 2) (deviation.toFixed 2)) := by
  obtain ⟨primaryMean, primary, shown⟩ := bind_eq_ok shown
  obtain ⟨secondaryMean, secondary, shown⟩ := bind_eq_ok shown
  obtain ⟨deviation, spread, shown⟩ := bind_eq_ok shown
  obtain rfl := Except.ok.inj shown
  refine ⟨primaryMean, secondaryMean, deviation, primary, secondary, spread,
    fun source stamp => ?_⟩
  simp only [reportLine, withFields, fields, integerText_eq, String.intercalate_cons_cons,
    String.intercalate_singleton, String.append_assoc]
  rfl

theorem shownIn_reportLine {stats : Statistics} {text : String} (shown : stats.render = .ok text)
    (source stamp : String) : stats.ShownIn source stamp (reportLine source stamp text) := by
  obtain ⟨primaryMean, secondaryMean, deviation, primary, secondary, spread, line⟩ :=
    moments_of_render shown
  exact ⟨primaryMean, secondaryMean, deviation, _, _, _, primary, primaryMean.isWritten_toFixed,
    secondary, secondaryMean.isWritten_toFixed, spread, deviation.isWritten_toFixed,
    line source stamp⟩

theorem ShownIn.totals {stats : Statistics} {source stamp line : String}
    (shown : stats.ShownIn source stamp line) :
    ∃ front, line = front ++ ", msg1TotalCount=" ++ toString stats.primaryTotal ++
      ", msg2TotalCount=" ++ toString stats.secondaryTotal := by
  obtain ⟨_, _, _, primary, secondary, spread, -, -, -, -, -, -, rfl⟩ := shown
  have parts : stamp :: stats.fields primary secondary spread =
      (stamp :: (stats.fields primary secondary spread).take 10) ++
        ["msg1TotalCount=" ++ toString stats.primaryTotal] ++
        ["msg2TotalCount=" ++ toString stats.secondaryTotal] := rfl
  refine ⟨withFields source (stamp :: (stats.fields primary secondary spread).take 10), ?_⟩
  rw [parts, withFields_concat, withFields_concat]
  simp only [String.append_assoc]
  rfl

end Statistics

/-- One line for each of the statistics, all under one source and stamp. -/
def IsReport (source stamp : String) (statistics : List Statistics) (lines : List String) : Prop :=
  List.Forall₂ (fun stats line => stats.ShownIn source stamp line) statistics lines

/-- A report shows the statistics one after the other as far as it goes. -/
theorem isReport_take (source stamp : String) (statistics : List Statistics) :
    IsReport source stamp
      (statistics.take (reportLines source stamp statistics).1.length)
      (reportLines source stamp statistics).1 := by
  induction statistics with
  | nil => exact .nil
  | cons stats rest ih =>
    unfold reportLines
    cases shown : stats.render with
    | error failure => exact .nil
    | ok text => exact .cons (Statistics.shownIn_reportLine shown source stamp) ih

/-- A report that does not break off is whole. -/
theorem isReport_reportLines {source stamp : String} {statistics : List Statistics}
    (whole : (reportLines source stamp statistics).2 = .ok ()) :
    IsReport source stamp statistics (reportLines source stamp statistics).1 := by
  induction statistics with
  | nil => exact .nil
  | cons stats rest ih =>
    unfold reportLines at whole ⊢
    cases shown : stats.render with
    | error failure =>
      rw [shown] at whole
      cases whole
    | ok text =>
      rw [shown] at whole
      exact .cons (Statistics.shownIn_reportLine shown source stamp) (ih whole)

/-- What the notice of a gap shows, by its labels; the times are given as texts. -/
def noticeFields (time : String) (skipped : Int) (start stop : String) : List String :=
  [ time, "Logger Unavailable For (10 min intervals)=" ++ toString skipped,
    "emptyIntervalStart=" ++ start, "emptyIntervalEnd=" ++ stop ]

theorem gapLine_eq (source : String) (time : WallTime) (skipped : Int) (start stop : WallTime) :
    gapLine source time skipped start stop =
      withFields source (noticeFields time.stamp skipped start.stamp stop.stamp) := by
  simp only [gapLine, withFields, noticeFields, integerText_eq, String.intercalate_cons_cons,
    String.intercalate_singleton, String.append_assoc]
  rfl

end ArrivalRates
