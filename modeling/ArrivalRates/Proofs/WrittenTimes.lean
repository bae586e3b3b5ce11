import ArrivalRates.Event
import ArrivalRates.Proofs.LineFields
import ArrivalRates.Proofs.Months
import Mathlib.Data.String.Basic

/-!
# Written times

A timestamp is written in fields of fixed width, the largest unit first. So it is read as the time
that was written, as long as its offset has whole minutes, and of two times with the same offset and
the same fraction of a second the earlier one has the smaller text.
-/

namespace ArrivalRates

/-! ### Digits -/

namespace Text

variable {cs : List Char}

theorem asciiDigit?_of_isDigit {c : Char} (digit : c.isDigit) :
    asciiDigit? c = some (c.toNat - '0'.toNat) := by
  rw [Char.isDigit, Bool.and_eq_true, decide_eq_true_iff, decide_eq_true_iff] at digit
  exact if_pos digit

theorem filterMap_asciiDigit? (digits : ∀ c ∈ cs, c.isDigit) :
    cs.filterMap asciiDigit? = cs.map fun c => c.toNat - '0'.toNat := by
  rw [← List.filterMap_eq_map]
  exact List.filterMap_congr fun c member => asciiDigit?_of_isDigit (digits c member)

theorem ofDigits_asciiDigits (digits : ∀ c ∈ cs, c.isDigit) :
    ofDigits (cs.filterMap asciiDigit?) = Nat.ofDigitChars 10 cs 0 := by
  rw [filterMap_asciiDigit? digits, ofDigits, List.foldl_map, Nat.ofDigitChars]

end Text

theorem length_padded {width n : Nat} (positive : 0 < width) (fits : n < 10 ^ width) :
    (padded width n).toList.length = width := by
  have short := (Nat.length_toDigits_le_iff (by decide) positive).2 fits
  rw [toList_padded, List.length_append, List.length_replicate]
  omega

namespace Text

theorem ofDigitChars_lt {cs : List Char} (digits : ∀ c ∈ cs, c.isDigit) :
    Nat.ofDigitChars 10 cs 0 < 10 ^ cs.length := by
  induction cs with
  | nil => decide
  | cons c cs ih =>
    obtain ⟨digit, others⟩ := List.forall_mem_cons.1 digits
    have small : c.toNat - '0'.toNat ≤ 9 := by
      have range := Char.isDigit_iff_toNat.1 digit
      simp only [Char.reduceToNat] at range ⊢
      omega
    have rest := ih others
    rw [Nat.ofDigitChars_cons, Nat.ofDigitChars_eq_ofDigitChars_zero, List.length_cons, pow_succ]
    calc 10 ^ cs.length * (10 * 0 + (c.toNat - '0'.toNat)) + Nat.ofDigitChars 10 cs 0
        ≤ 10 ^ cs.length * 9 + Nat.ofDigitChars 10 cs 0 := by gcongr; omega
      _ < 10 ^ cs.length * 10 := by omega

/-- As many digits on either side are in the order of their numbers, whatever stands behind. -/
theorem append_lt_of_ofDigitChars_lt {a b s t : List Char} (length : a.length = b.length)
    (digits : ∀ c ∈ a, c.isDigit) (digits' : ∀ c ∈ b, c.isDigit)
    (less : Nat.ofDigitChars 10 a 0 < Nat.ofDigitChars 10 b 0) : a ++ s < b ++ t := by
  induction a generalizing b with
  | nil =>
    obtain rfl := List.length_eq_zero_iff.1 length.symm
    exact absurd less (lt_irrefl _)
  | cons c a ih =>
    obtain _ | ⟨d, b⟩ := b
    · cases length
    rw [List.length_cons, List.length_cons, Nat.add_right_cancel_iff] at length
    rw [List.forall_mem_cons] at digits digits'
    rw [List.cons_append, List.cons_append, List.cons_lt_cons_iff]
    rw [Nat.ofDigitChars_cons, Nat.ofDigitChars_cons, Nat.ofDigitChars_eq_ofDigitChars_zero,
      Nat.ofDigitChars_eq_ofDigitChars_zero (l := b), length, Nat.mul_zero, Nat.zero_add,
      Nat.zero_add] at less
    have range := Char.isDigit_iff_toNat.1 digits.1
    have range' := Char.isDigit_iff_toNat.1 digits'.1
    rcases lt_trichotomy c.toNat d.toNat with before | same | behind
    · exact .inl before
    · obtain rfl := Char.toNat_inj.1 same
      exact .inr ⟨rfl, ih length digits.2 digits'.2 (by omega)⟩
    · -- a smaller first digit is not made up for by the digits behind it
      have bound := ofDigitChars_lt digits'.2
      have step : 10 ^ b.length * (d.toNat - '0'.toNat + 1) ≤
          10 ^ b.length * (c.toNat - '0'.toNat) := Nat.mul_le_mul_left _ (by omega)
      rw [Nat.mul_add, Nat.mul_one] at step
      omega

end Text

/-- Of two digit texts of one width, the one of the smaller number is the smaller one, whatever
stands behind them. -/
theorem padded_append_lt {width m n : Nat} (positive : 0 < width) (fits : m < 10 ^ width)
    (fits' : n < 10 ^ width) {s t : List Char} (less : m < n ∨ m = n ∧ s < t) :
    (padded width m).toList ++ s < (padded width n).toList ++ t := by
  rcases less with less | ⟨rfl, less⟩
  · refine Text.append_lt_of_ofDigitChars_lt ?_ (fun _ => isDigit_of_mem_padded)
      (fun _ => isDigit_of_mem_padded) ?_
    · rw [length_padded positive fits, length_padded positive fits']
    · rwa [ofDigitChars_padded, ofDigitChars_padded]
  · exact List.Lex.append_left _ less _

namespace Timestamp

theorem fixedDigits?_padded {width n : Nat} (positive : 0 < width) (fits : n < 10 ^ width)
    (rest : List Char) :
    fixedDigits? width ((padded width n).toList ++ rest) = some (n, rest) := by
  have length := length_padded positive fits
  have digits : ∀ c ∈ (padded width n).toList, c.isDigit := fun _ => isDigit_of_mem_padded
  rw [fixedDigits?, List.take_left' length, List.drop_left' length,
    Text.ofDigits_asciiDigits digits, ofDigitChars_padded, Text.filterMap_asciiDigit? digits,
    List.length_map]
  exact if_pos length

end Timestamp

/-! ### Reading what was written -/

namespace Timestamp

variable {time : Timestamp}

def ending (time : Timestamp) : List Char :=
  (if time.wall.microsecond = 0 then "" else "." ++ padded 6 time.wall.microsecond).toList ++
    (time.offset.elim "" renderOffset).toList

theorem toList_render (time : Timestamp) :
    time.render.toList =
      (padded 4 time.wall.day.year.toNat).toList ++ '-' :: ((padded 2 time.wall.day.month).toList ++
        '-' :: ((padded 2 time.wall.day.dayOfMonth).toList ++ 'T' ::
          ((padded 2 time.wall.hour).toList ++ ':' :: ((padded 2 time.wall.minute).toList ++
            ':' :: ((padded 2 time.wall.second).toList ++ time.ending))))) := by
  unfold render ending
  cases time.offset <;> simp

/-- The offset is one of whole minutes, less than a day. -/
def HasMinutes (time : Timestamp) : Prop :=
  ∀ offset ∈ time.offset, offset % 60000000 = 0 ∧ offset.natAbs < 86400000000

theorem date?_render (supported : time.wall.isSupported) (rest : List Char) :
    date? ((padded 4 time.wall.day.year.toNat).toList ++ '-' ::
      ((padded 2 time.wall.day.month).toList ++ '-' ::
        ((padded 2 time.wall.day.dayOfMonth).toList ++ rest))) = some (time.wall.day, rest) := by
  have exists_day := Day.civilDay?_eq supported
  have month := time.wall.day.month_spec
  have dayOfMonth := time.wall.day.dayOfMonth_le
  rw [WallTime.isSupported, Day.isSupported, decide_eq_true_eq] at supported
  rw [date?, fixedDigits?_padded (by decide) (by omega)]
  simp only [Option.bind_eq_bind, Option.bind_some, char?, if_pos]
  rw [fixedDigits?_padded (by decide) (by omega)]
  simp only [Option.bind_some, if_pos]
  rw [fixedDigits?_padded (by decide) (by omega)]
  simp only [Option.bind_some, exists_day]

/-- An offset that is written begins with its sign. -/
theorem toList_offset (offset : Option Int) :
    (offset.elim "" renderOffset).toList = [] ∨ ∃ sign rest, (sign = '+' ∨ sign = '-') ∧
      (offset.elim "" renderOffset).toList = sign :: rest := by
  cases offset with
  | none => exact .inl rfl
  | some offset =>
    refine .inr ?_
    simp only [Option.elim_some, renderOffset, String.append_assoc, String.toList_append]
    split
    · exact ⟨'-', _, .inr rfl, rfl⟩
    · exact ⟨'+', _, .inl rfl, rfl⟩

theorem fraction?_padded {micros : Nat} (fits : micros < 10 ^ 6) {rest : List Char}
    (stop : (rest.takeWhile fun c => (Text.asciiDigit? c).isSome) = []) :
    fraction? ('.' :: ((padded 6 micros).toList ++ rest)) = some (micros, rest) := by
  have digits : ∀ c ∈ (padded 6 micros).toList, c.isDigit := fun _ => isDigit_of_mem_padded
  have length := length_padded (by decide) fits
  have value := Text.ofDigits_asciiDigits digits
  rw [ofDigitChars_padded] at value
  have front : (((padded 6 micros).toList ++ rest).takeWhile fun c =>
      (Text.asciiDigit? c).isSome) = (padded 6 micros).toList := by
    rw [List.takeWhile_append_of_pos, stop, List.append_nil]
    intro c member
    rw [Text.asciiDigit?_of_isDigit (digits c member)]
    rfl
  have six : ((padded 6 micros).toList.filterMap Text.asciiDigit?).length = 6 := by
    rw [Text.filterMap_asciiDigit? digits, List.length_map, length]
  have some_digit : (!((padded 6 micros).toList.filterMap Text.asciiDigit?).isEmpty) = true := by
    rw [Bool.not_eq_true', List.isEmpty_eq_false_iff, ← List.length_pos_iff, six]
    decide
  simp only [fraction?, front, true_or, if_true, some_digit, List.take_left' six, value, six,
    List.drop_left' length]

theorem fraction?_ending (time : Timestamp) :
    fraction? time.ending =
      some (time.wall.microsecond, (time.offset.elim "" renderOffset).toList) := by
  have signs := toList_offset time.offset
  rw [ending]
  generalize (time.offset.elim "" renderOffset).toList = offset at signs ⊢
  split
  next whole =>
    rw [whole]
    obtain rfl | ⟨sign, rest, rfl | rfl, rfl⟩ := signs <;> rfl
  next part =>
    rw [String.toList_append, List.append_assoc]
    refine fraction?_padded time.wall.microsecond_lt ?_
    obtain rfl | ⟨sign, rest, rfl | rfl, rfl⟩ := signs <;> rfl

theorem offset?_signed {sign : Char} (signs : sign = '+' ∨ sign = '-') {hours minutes : Nat}
    (day : hours < 24) (hour : minutes < 60) :
    offset? (sign :: ((padded 2 hours).toList ++ ':' :: ((padded 2 minutes).toList ++ []))) =
      some (some (if isMinus sign then -((hours * 60 + minutes) * 60 * WallTime.microsPerSecond)
        else (hours * 60 + minutes) * 60 * WallTime.microsPerSecond)) := by
  have known : sign = '+' ∨ isMinus sign = true := by
    obtain rfl | rfl := signs <;> decide
  rw [offset?]
  · simp only [Bool.or_eq_true, decide_eq_true_eq, if_pos known]
    rw [fixedDigits?_padded (by decide) (by omega)]
    simp only [Option.bind_eq_bind, Option.bind_some, char?, if_true, Option.getD_some]
    rw [fixedDigits?_padded (by decide) (by omega)]
    simp only [Option.bind_some, guard, day, hour, List.isEmpty_nil, and_self, if_true]
    rfl
  · obtain rfl | rfl := signs <;> simp
  · obtain rfl | rfl := signs <;> simp

theorem offset?_renderOffset {offset : Int} (whole : offset % 60000000 = 0)
    (short : offset.natAbs < 86400000000) :
    offset? (renderOffset offset).toList = some (some offset) := by
  have micros : offset.natAbs % 1000000 = 0 := by omega
  have seconds : offset.natAbs / 1000000 % 60 = 0 := by omega
  have text : (renderOffset offset).toList = (if offset < 0 then '-' else '+') ::
      ((padded 2 (offset.natAbs / 1000000 / 3600)).toList ++ ':' ::
        ((padded 2 (offset.natAbs / 1000000 / 60 % 60)).toList ++ [])) := by
    unfold renderOffset
    simp only [micros, seconds, and_self, if_true, String.toList_append]
    split <;> simp
  rw [text, offset?_signed (by split <;> simp) (by omega) (Nat.mod_lt _ (by decide)),
    Option.some.injEq, Option.some.injEq, WallTime.microsPerSecond]
  split
  next negative => rw [if_pos (by decide)]; omega
  next positive => rw [if_neg (by decide)]; omega

theorem offset?_render (minutes : time.HasMinutes) :
    offset? (time.offset.elim "" renderOffset).toList = some time.offset := by
  cases same : time.offset with
  | none => rfl
  | some offset =>
    obtain ⟨whole, short⟩ := minutes offset same
    exact offset?_renderOffset whole short

theorem timeOfDay?_render (time : Timestamp) :
    timeOfDay? ((padded 2 time.wall.hour).toList ++ ':' :: ((padded 2 time.wall.minute).toList ++
        ':' :: ((padded 2 time.wall.second).toList ++ time.ending))) =
      some (((time.wall.hour * 60 + time.wall.minute) * 60 + time.wall.second) * 1000000 +
        time.wall.microsecond, (time.offset.elim "" renderOffset).toList) := by
  have hour := time.wall.hour_lt
  have minute := time.wall.minute_lt
  have second := time.wall.second_lt
  rw [timeOfDay?, fixedDigits?_padded (by decide) (by omega)]
  simp only [Option.bind_eq_bind, Option.bind_some, char?, if_pos]
  rw [fixedDigits?_padded (by decide) (by omega)]
  simp only [Option.bind_some, if_pos, guard, hour, minute, and_self]
  rw [fixedDigits?_padded (by decide) (by omega)]
  simp only [Option.bind_some, if_pos second, fraction?_ending]
  rfl

/-- A time with an offset of whole minutes is read as what was written. -/
theorem parse?_render (supported : time.wall.isSupported) (minutes : time.HasMinutes) :
    parse? time.render = some time := by
  rw [parse?, toList_render, date?_render supported]
  simp only [Option.bind_eq_bind, Option.bind_some]
  rw [timeOfDay?_render]
  simp only [guard, isSeparator, Option.bind_some, offset?_render minutes,
    WallTime.midnight_add]
  rfl

end Timestamp

/-! ### The order of the texts -/

theorem padded_cons_lt {width m n : Nat} (positive : 0 < width) (fits : m < 10 ^ width)
    (fits' : n < 10 ^ width) {separator : Char} {s t : List Char} (less : m < n ∨ m = n ∧ s < t) :
    (padded width m).toList ++ separator :: s < (padded width n).toList ++ separator :: t :=
  padded_append_lt positive fits fits'
    (less.imp_right fun ⟨same, behind⟩ => ⟨same, List.cons_lt_cons_iff.2 (.inr ⟨rfl, behind⟩)⟩)

theorem Day.date_lt {a b : Day} (earlier : a.index < b.index) :
    a.year < b.year ∨ a.year = b.year ∧
      (a.month < b.month ∨ a.month = b.month ∧ a.dayOfMonth < b.dayOfMonth) := by
  refine (Day.year_mono earlier.le).lt_or_eq.imp_right fun year => ⟨year, ?_⟩
  refine (Day.month_mono year earlier.le).lt_or_eq.imp_right fun month => ⟨month, ?_⟩
  have first := a.dayOfYear_spec.1
  have second := b.dayOfYear_spec.1
  have begun := a.month_spec.2.2.1
  unfold Day.ordinal at first second
  unfold Day.dayOfMonth
  rw [← year, ← month]
  rw [← year] at second
  omega

namespace WallTime

variable {a b : WallTime}

theorem clock_lt (earlier : a.secondOfDay < b.secondOfDay) :
    a.hour < b.hour ∨ a.hour = b.hour ∧
      (a.minute < b.minute ∨ a.minute = b.minute ∧ a.second < b.second) := by
  unfold hour minute second
  omega

/-- With the same fraction of a second, an earlier time lies on an earlier day or in an earlier
second of the day. -/
theorem lt_cases (fraction : a.microsecond = b.microsecond) (earlier : a.micros < b.micros) :
    a.day.index < b.day.index ∨ a.day = b.day ∧ a.secondOfDay < b.secondOfDay := by
  unfold microsecond microsPerSecond at fraction
  unfold day secondOfDay microsPerDay microsPerSecond
  rw [Day.mk.injEq]
  dsimp only
  omega

end WallTime

namespace Timestamp

variable {a b : Timestamp}

/-- The earlier of two times with the same offset and the same fraction has the smaller text. -/
theorem render_lt (supported : a.wall.isSupported) (supported' : b.wall.isSupported)
    (offset : a.offset = b.offset) (fraction : a.wall.microsecond = b.wall.microsecond)
    (earlier : a.wall.micros < b.wall.micros) : a.render < b.render := by
  have ending : a.ending = b.ending := by rw [Timestamp.ending, Timestamp.ending, offset, fraction]
  have year := of_decide_eq_true supported
  have year' := of_decide_eq_true supported'
  have month := a.wall.day.month_spec
  have month' := b.wall.day.month_spec
  have dayOfMonth := a.wall.day.dayOfMonth_le
  have dayOfMonth' := b.wall.day.dayOfMonth_le
  have hour := a.wall.hour_lt
  have hour' := b.wall.hour_lt
  have minute := a.wall.minute_lt
  have minute' := b.wall.minute_lt
  have second := a.wall.second_lt
  have second' := b.wall.second_lt
  rw [String.lt_iff_toList_lt, toList_render, toList_render, ending]
  rcases WallTime.lt_cases fraction earlier with days | ⟨same, seconds⟩
  · have dates := Day.date_lt days
    refine padded_cons_lt (by decide) (by omega) (by omega) ?_
    refine dates.imp (by omega) fun ⟨same, dates⟩ => ⟨by rw [same], ?_⟩
    refine padded_cons_lt (by decide) (by omega) (by omega) ?_
    refine dates.imp_right fun ⟨same, dates⟩ => ⟨same, ?_⟩
    exact padded_cons_lt (by decide) (by omega) (by omega) (.inl dates)
  · rw [same]
    have clock := WallTime.clock_lt seconds
    refine padded_cons_lt (by decide) (by omega) (by omega) (.inr ⟨rfl, ?_⟩)
    refine padded_cons_lt (by decide) (by omega) (by omega) (.inr ⟨rfl, ?_⟩)
    refine padded_cons_lt (by decide) (by omega) (by omega) (.inr ⟨rfl, ?_⟩)
    refine padded_cons_lt (by decide) (by omega) (by omega) ?_
    refine clock.imp_right fun ⟨same, clock⟩ => ⟨same, ?_⟩
    refine padded_cons_lt (by decide) (by omega) (by omega) ?_
    refine clock.imp_right fun ⟨same, clock⟩ => ⟨same, ?_⟩
    exact padded_append_lt (by decide) (by omega) (by omega) (.inl clock)

end Timestamp

end ArrivalRates
