import ArrivalRates.Proofs.Reporting

/-!
# Lines can be told apart

A line is a source with fields behind it, each after a comma and a blank. The source may hold
anything, commas and blanks included, but a field never holds a comma: fields are labels, decimal
numbers and written times. So a line is read from its end, and the fields of one shape, and with
them the source, follow from the text. A report and a notice end in fields of different labels.
-/

namespace ArrivalRates

/-! ### Fields behind a text -/

namespace Text

def IsField (text : String) : Prop := ',' ∉ text.toList

instance (text : String) : Decidable (IsField text) :=
  inferInstanceAs (Decidable (',' ∉ text.toList))

@[simp] theorem isField_append {a b : String} : IsField (a ++ b) ↔ IsField a ∧ IsField b := by
  simp only [IsField, String.toList_append, List.mem_append, not_or]

theorem append_comma_inj {s t xs ys : List Char} (first : ',' ∉ xs) (second : ',' ∉ ys)
    (same : s ++ ',' :: xs = t ++ ',' :: ys) : s = t ∧ xs = ys := by
  rcases List.append_eq_append_iff.1 same with ⟨between, rfl, rest⟩ | ⟨between, rfl, rest⟩
  all_goals
    cases between with
    | nil => simp_all
    | cons c between =>
      -- a comma of the longer text would be one of the other's field
      obtain ⟨-, rfl⟩ := List.cons.inj rest
      simp at first second

/-- The last field begins at the last comma. -/
theorem append_field_inj {s t a b : String} (first : IsField a) (second : IsField b)
    (same : s ++ ", " ++ a = t ++ ", " ++ b) : s = t ∧ a = b := by
  have same : s.toList ++ ',' :: (' ' :: a.toList) = t.toList ++ ',' :: (' ' :: b.toList) := by
    simpa using congrArg String.toList same
  obtain ⟨texts, fields⟩ :=
    append_comma_inj (by simpa [IsField] using first) (by simpa [IsField] using second) same
  exact ⟨String.toList_inj.1 texts, String.toList_inj.1 (List.cons.inj fields).2⟩

theorem last_field_inj {s t field other : String} {fields others : List String}
    (first : IsField field) (second : IsField other)
    (same : withFields s (fields ++ [field]) = withFields t (others ++ [other])) :
    field = other := by
  rw [withFields_concat, withFields_concat] at same
  exact (append_field_inj first second same).2

/-- As many fields on either side belong to each other one by one; the induction is on the fields
from the last one on. -/
theorem withFields_inj {s t : String} {fields others : List String}
    (length : fields.length = others.length) (first : ∀ field ∈ fields, IsField field)
    (second : ∀ field ∈ others, IsField field)
    (same : withFields s fields = withFields t others) : s = t ∧ fields = others := by
  induction fields using List.reverseRecOn generalizing others with
  | nil =>
    obtain rfl := List.length_eq_zero_iff.1 length.symm
    rw [withFields, withFields, String.intercalate_singleton, String.intercalate_singleton] at same
    exact ⟨same, rfl⟩
  | append_singleton fields field ih =>
    obtain rfl | ⟨others, other, rfl⟩ := others.eq_nil_or_concat'
    · simp at length
    · simp only [List.length_append, List.length_singleton, Nat.add_right_cancel_iff] at length
      simp only [List.forall_mem_append, List.forall_mem_singleton] at first second
      rw [withFields_concat, withFields_concat] at same
      obtain ⟨before, rfl⟩ := append_field_inj first.2 second.2 same
      obtain ⟨rfl, rfl⟩ := ih length first.1 second.1 before
      exact ⟨rfl, rfl⟩

end Text

open Text

/-! ### Numbers -/

theorem toList_padded (width n : Nat) :
    (padded width n).toList =
      List.replicate (width - (Nat.toDigits 10 n).length) '0' ++ Nat.toDigits 10 n := by
  simp only [padded, String.toList_ofList]

theorem isDigit_of_mem_padded {width n : Nat} {c : Char} (member : c ∈ (padded width n).toList) :
    c.isDigit := by
  rw [toList_padded, List.mem_append] at member
  rcases member with zero | digit
  · rw [List.eq_of_mem_replicate zero]
    decide
  · exact Nat.isDigit_of_mem_toDigits (by decide) (by decide) digit

@[simp] theorem isField_padded (width n : Nat) : IsField (padded width n) :=
  fun member => absurd (isDigit_of_mem_padded member) (by decide)

@[simp] theorem isField_integerText (n : Int) : IsField (integerText n) := by
  unfold integerText
  split
  · simp +decide
  · simp

@[simp] theorem isField_repr (n : Int) : IsField n.repr := by
  have same : integerText n = n.repr := integerText_eq n
  exact same ▸ isField_integerText n

@[simp] theorem isField_toFixed (places : Nat) (x : Binary64) : IsField (x.toFixed places) := by
  unfold Binary64.toFixed
  split
  · decide
  next negative => cases negative <;> decide
  next negative mantissa exponent =>
    dsimp only
    cases negative <;> split <;> simp +decide

theorem ofDigitChars_padded (width n : Nat) :
    Nat.ofDigitChars 10 (padded width n).toList 0 = n := by
  rw [toList_padded, Nat.ofDigitChars_append, Nat.ofDigitChars_replicate_zero, Nat.mul_zero,
    Nat.ofDigitChars_ten_toDigits]

theorem padded_injective (width : Nat) : Function.Injective (padded width) := by
  intro m n same
  rw [← ofDigitChars_padded width m, same, ofDigitChars_padded]

/-- A number is not negative unless its text says so. -/
theorem minus_padded_ne (width m n : Nat) : "-" ++ padded width m ≠ padded width n := by
  intro same
  have minus : '-' ∈ (padded width n).toList := by simp [← same]
  exact absurd (isDigit_of_mem_padded minus) (by decide)

theorem integerText_injective : Function.Injective integerText := by
  intro m n same
  unfold integerText at same
  split at same <;> split at same
  · have size := padded_injective 1 ((String.append_right_inj "-").1 same)
    omega
  · exact absurd same (minus_padded_ne 1 _ _)
  · exact absurd same.symm (minus_padded_ne 1 _ _)
  · have size := padded_injective 1 same
    omega

theorem toString_int_inj {m n : Int} : toString m = toString n ↔ m = n := by
  rw [← integerText_eq, ← integerText_eq, integerText_injective.eq_iff]

/-! ### The two kinds of lines -/

/-- What a line shows as its time: a wall time, or that no arrival came before. -/
inductive Stamp where
  | time (wall : WallTime)
  | noData

namespace Stamp

def text : Stamp → String
  | time wall => wall.stamp
  | noData => noDataStamp

end Stamp

@[simp] theorem WallTime.isField_stamp (time : WallTime) : IsField time.stamp := by
  simp +decide [WallTime.stamp]

@[simp] theorem Stamp.isField_text (stamp : Stamp) : IsField stamp.text := by
  cases stamp with
  | time wall => exact wall.isField_stamp
  | noData => decide

theorem Statistics.length_fields (stats : Statistics) (primary secondary spread : String) :
    (stats.fields primary secondary spread).length = 12 := rfl

theorem Statistics.isField_of_mem_fields {stats : Statistics} {primary secondary spread : String}
    (first : IsField primary) (second : IsField secondary) (third : IsField spread) :
    ∀ field ∈ stats.fields primary secondary spread, IsField field := by
  simp +decide [fields, first, second, third]

theorem length_noticeFields (time : String) (skipped : Int) (start stop : String) :
    (noticeFields time skipped start stop).length = 4 := rfl

theorem isField_of_mem_noticeFields {time start stop : String} (skipped : Int)
    (first : IsField time) (second : IsField start) (third : IsField stop) :
    ∀ field ∈ noticeFields time skipped start stop, IsField field := by
  simp +decide [noticeFields, first, second, third]

/-- The fields tell everything about the statistics but the sum of the squares, which only goes into
the deviation. -/
theorem Statistics.eq_of_fields {stats others : Statistics}
    {primary secondary spread primary' secondary' spread' : String}
    (same : stats.fields primary secondary spread = others.fields primary' secondary' spread') :
    others = { stats with primarySquareSum := others.primarySquareSum } := by
  simp only [fields, List.cons.injEq, String.append_right_inj, toString_int_inj] at same
  obtain ⟨size, -, -, first, second, intervals, -, min, max, zero, total, total', -⟩ := same
  cases stats
  cases others
  simp_all

/-- The fields of a report line hold no commas. -/
theorem Statistics.exists_fields {stats : Statistics} {text : String}
    (shown : stats.render = .ok text) :
    ∃ primary secondary spread : String,
      (∀ field ∈ stats.fields primary secondary spread, IsField field) ∧
      ∀ source stamp : String, reportLine source stamp text =
        withFields source (stamp :: stats.fields primary secondary spread) := by
  obtain ⟨_, _, _, -, -, -, line⟩ := moments_of_render shown
  exact ⟨_, _, _, isField_of_mem_fields (isField_toFixed 2 _) (isField_toFixed 2 _)
    (isField_toFixed 2 _), line⟩

theorem reportLine_inj {source source' text text' : String} {stamp stamp' : Stamp}
    {stats stats' : Statistics} (shown : stats.render = .ok text)
    (shown' : stats'.render = .ok text')
    (same : reportLine source stamp.text text = reportLine source' stamp'.text text') :
    source = source' ∧ stamp.text = stamp'.text ∧ text = text' ∧
      stats' = { stats with primarySquareSum := stats'.primarySquareSum } := by
  obtain ⟨primary, secondary, spread, fields, line⟩ := Statistics.exists_fields shown
  obtain ⟨primary', secondary', spread', fields', line'⟩ := Statistics.exists_fields shown'
  have lines := same
  rw [line, line'] at lines
  obtain ⟨rfl, parts⟩ := withFields_inj
    (by simp only [List.length_cons, Statistics.length_fields])
    (List.forall_mem_cons.2 ⟨stamp.isField_text, fields⟩)
    (List.forall_mem_cons.2 ⟨stamp'.isField_text, fields'⟩) lines
  obtain ⟨stamps, parts⟩ := List.cons.inj parts
  refine ⟨rfl, stamps, ?_, Statistics.eq_of_fields parts⟩
  rw [reportLine, reportLine, stamps] at same
  exact (String.append_right_inj _).1 same

theorem gapLine_inj {source source' : String} {time time' start start' stop stop' : WallTime}
    {skipped skipped' : Int}
    (same : gapLine source time skipped start stop = gapLine source' time' skipped' start' stop') :
    source = source' ∧ time.stamp = time'.stamp ∧ skipped = skipped' ∧
      start.stamp = start'.stamp ∧ stop.stamp = stop'.stamp := by
  rw [gapLine_eq, gapLine_eq] at same
  obtain ⟨sources, fields⟩ := withFields_inj (by simp only [length_noticeFields])
    (isField_of_mem_noticeFields skipped time.isField_stamp start.isField_stamp stop.isField_stamp)
    (isField_of_mem_noticeFields skipped' time'.isField_stamp start'.isField_stamp
      stop'.isField_stamp) same
  simpa only [sources, noticeFields, List.cons.injEq, String.append_right_inj, toString_int_inj,
    and_true, true_and] using fields

/-- The labels of the last fields differ in their first characters. -/
theorem reportLine_ne_gapLine {source source' stamp text : String} {stats : Statistics}
    {time start stop : WallTime} {skipped : Int} (shown : stats.render = .ok text) :
    reportLine source stamp text ≠ gapLine source' time skipped start stop := by
  obtain ⟨primary, secondary, spread, -, line⟩ := Statistics.exists_fields shown
  have parts : stamp :: stats.fields primary secondary spread =
      (stamp :: (stats.fields primary secondary spread).dropLast) ++
        ["msg2TotalCount=" ++ toString stats.secondaryTotal] := rfl
  have parts' : noticeFields time.stamp skipped start.stamp stop.stamp =
      (noticeFields time.stamp skipped start.stamp stop.stamp).dropLast ++
        ["emptyIntervalEnd=" ++ stop.stamp] := rfl
  intro same
  rw [line, gapLine_eq, parts, parts'] at same
  have last := last_field_inj (by simp +decide) (by simp +decide) same
  simpa using congrArg (fun field => field.toList.head?) last

/-- A line tells from what it was made, whatever the source is. Two equal report lines have the same
source and the same written stamp, and the statistics under them agree in the sub-interval size, the
numbers of ids and of sub-intervals, the extremes, the number of empty sub-intervals and the totals:
all there is but the sum of the squares. Two equal notices have the same source, the same written
times and the same number of skipped intervals. A report line is no notice. -/
theorem lines_unambiguous :
    (∀ (source source' : String) (stamp stamp' : Stamp) (stats stats' : Statistics)
      (text text' : String), stats.render = .ok text → stats'.render = .ok text' →
      reportLine source stamp.text text = reportLine source' stamp'.text text' →
      source = source' ∧ stamp.text = stamp'.text ∧ text = text' ∧
        stats' = { stats with primarySquareSum := stats'.primarySquareSum }) ∧
    (∀ (source source' : String) (time time' start start' stop stop' : WallTime)
      (skipped skipped' : Int),
      gapLine source time skipped start stop = gapLine source' time' skipped' start' stop' →
      source = source' ∧ time.stamp = time'.stamp ∧ skipped = skipped' ∧
        start.stamp = start'.stamp ∧ stop.stamp = stop'.stamp) ∧
    ∀ (source source' : String) (stamp : Stamp) (stats : Statistics) (text : String)
      (time start stop : WallTime) (skipped : Int), stats.render = .ok text →
      reportLine source stamp.text text ≠ gapLine source' time skipped start stop := by
  refine ⟨?_, ?_, ?_⟩
  · intro source source' stamp stamp' stats stats' text text' shown shown' same
    exact reportLine_inj shown shown' same
  · intro source source' time time' start start' stop stop' skipped skipped' same
    exact gapLine_inj same
  · intro source source' stamp stats text time start stop skipped shown
    exact reportLine_ne_gapLine shown

/-- A source that looks like the beginning of a line. Statistics without sub-intervals show no
squares, and a wall time shows no microseconds, so different ones can make the same line. -/
theorem lines_unambiguous_nested :
    let source := "gate, 01/01/1970 00:00:00, IntervalSize=1"
    let stats : Statistics := { size := 12, primarySquareSum := 5 }
    let others : Statistics := { size := 12, primarySquareSum := 7 }
    let text := "IntervalSize=12, msg1UMIDAvgCount=0.00, msg2UMIDAvgCount=0.00, " ++
      "msg1UMIDCount=0, msg2UMIDCount=0, numOfIntervals=0, msg1UMIDStdDev=0.00, " ++
      "msg1UMIDMin=9223372036854775807, msg1UMIDMax=0, zeroCountIntervals=0, " ++
      "msg1TotalCount=0, msg2TotalCount=0"
    let notice := gapLine source ⟨0⟩ 3 ⟨0⟩ ⟨1800000000⟩
    stats.render = .ok text ∧ others.render = .ok text ∧
      others = { stats with primarySquareSum := others.primarySquareSum } ∧
      notice = gapLine source ⟨999999⟩ 3 ⟨0⟩ ⟨1800000000⟩ ∧
      (WallTime.mk 0).stamp = (WallTime.mk 999999).stamp ∧
      reportLine source Stamp.noData.text text ≠ notice := by
  intro source stats others text notice
  have shown : stats.render = .ok text := by decide +kernel
  have shown' : others.render = .ok text := by decide +kernel
  have same : notice = gapLine source ⟨999999⟩ 3 ⟨0⟩ ⟨1800000000⟩ := by decide +kernel
  obtain ⟨reports, notices, apart⟩ := lines_unambiguous
  obtain ⟨-, -, -, agree⟩ := reports source source .noData .noData _ _ _ _ shown shown' rfl
  obtain ⟨-, stamps, -⟩ := notices source source ⟨0⟩ ⟨999999⟩ _ _ _ _ 3 3 same
  exact ⟨shown, shown', agree, same, stamps, apart source source .noData _ _ _ _ _ 3 shown⟩

end ArrivalRates
