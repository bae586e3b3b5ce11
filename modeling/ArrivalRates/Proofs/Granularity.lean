import ArrivalRates.Proofs.Conservation
import Mathlib.Algebra.BigOperators.Fin
import Mathlib.Algebra.Order.Chebyshev

/-!
# Statistics of a size against those of a finer one

If one size divides another, each sub-interval of the coarser size is cut into sub-intervals of the
finer one. The arrivals of the parts are those of the whole, so the totals of both sizes are the
same. An id that occurs in the whole occurs in at least one of the parts and perhaps in all of them,
so the numbers of distinct ids agree up to the number of parts; so do the sums of their squares, by
the inequality of Cauchy and Schwarz, and the extremes and the empty sub-intervals are in order.
-/

namespace ArrivalRates

/-- The inequality of Cauchy and Schwarz for a list and as many ones. -/
theorem square_sum_le (xs : List Int) :
    xs.sum * xs.sum ≤ xs.length * (xs.map fun x => x * x).sum := by
  have squares := sq_sum_le_card_mul_sum_sq (s := Finset.univ)
    (f := fun i : Fin xs.length => xs[i.1])
  have square : ∀ n : Int, n ^ 2 = n * n := fun n => pow_two n
  simp only [square] at squares
  rwa [Fin.sum_univ_getElem, Finset.card_univ, Fintype.card_fin,
    Fin.sum_univ_fun_getElem xs fun x => x * x] at squares

/-! ### Cutting a number of ids -/

/-- The ids of a whole are found in its parts: none has more, and together they have enough. -/
structure Covered (whole : Int) (parts : List Int) : Prop where
  whole_nonneg : 0 ≤ whole
  nonneg : ∀ part ∈ parts, 0 ≤ part
  le_whole : ∀ part ∈ parts, part ≤ whole
  le_sum : whole ≤ parts.sum

namespace Covered

variable {whole : Int} {parts : List Int}

theorem sum_le (covered : Covered whole parts) : parts.sum ≤ parts.length * whole := by
  have bound := List.sum_le_card_nsmul parts whole covered.le_whole
  rwa [nsmul_eq_mul] at bound

theorem sum_square_le (covered : Covered whole parts) :
    (parts.map fun part => part * part).sum ≤ parts.length * (whole * whole) := by
  have bound := List.sum_le_card_nsmul (parts.map fun part => part * part) (whole * whole) <| by
    intro square member
    obtain ⟨part, there, rfl⟩ := List.mem_map.1 member
    have nonneg := covered.nonneg part there
    have le := covered.le_whole part there
    exact Int.mul_le_mul le le nonneg covered.whole_nonneg
  rwa [nsmul_eq_mul, List.length_map] at bound

theorem square_le (covered : Covered whole parts) :
    whole * whole ≤ parts.length * (parts.map fun part => part * part).sum := by
  refine le_trans ?_ (square_sum_le parts)
  exact Int.mul_le_mul covered.le_sum covered.le_sum covered.whole_nonneg
    (covered.whole_nonneg.trans covered.le_sum)

theorem countP_zero (covered : Covered whole parts) (empty : whole = 0) :
    parts.countP (· = 0) = parts.length := by
  rw [List.countP_eq_length]
  intro part member
  have nonneg := covered.nonneg part member
  have le := covered.le_whole part member
  rw [decide_eq_true_iff]
  omega

theorem exists_pos (covered : Covered whole parts) (nonempty : whole ≠ 0) :
    ∃ part ∈ parts, 0 < part := by
  have nonneg := covered.whole_nonneg
  have le := covered.le_sum
  exact (Arrivals.sum_pos_iff covered.nonneg).1 (by omega)

theorem countP_lt (covered : Covered whole parts) (nonempty : whole ≠ 0) :
    parts.countP (· = 0) < parts.length := by
  obtain ⟨part, member, positive⟩ := covered.exists_pos nonempty
  refine lt_of_le_of_ne List.countP_le_length fun all => ?_
  have zero := List.countP_eq_length.1 all part member
  rw [decide_eq_true_iff] at zero
  omega

end Covered

/-! ### Cutting a sub-interval -/

/-- A sub-interval and the shorter ones that it consists of. -/
structure Interval.Cut (count : Nat) where
  whole : Interval
  parts : List Interval
  length_parts : parts.length = count
  primaryTotal_eq : (parts.map (·.primaryTotal)).sum = whole.primaryTotal
  secondaryTotal_eq : (parts.map (·.secondaryTotal)).sum = whole.secondaryTotal
  primary : Covered whole.primaryUnique (parts.map (·.primaryUnique))
  secondary : Covered whole.secondaryUnique (parts.map (·.secondaryUnique))

/-- The sum over the parts of all cuts is a sum over the cuts. -/
theorem Interval.sum_parts {count : Nat} (cuts : List (Interval.Cut count))
    (field : Interval → Int) :
    ((cuts.flatMap (·.parts)).map field).sum =
      (cuts.map fun cut => (cut.parts.map field).sum).sum := by
  rw [List.map_flatMap, List.flatMap_def, List.sum_flatten, List.map_map]
  rfl

theorem foldl_max_le_iff {xs : List Int} {start bound : Int} :
    xs.foldl max start ≤ bound ↔ start ≤ bound ∧ ∀ x ∈ xs, x ≤ bound := by
  induction xs generalizing start with
  | nil => simp
  | cons x rest ih => rw [List.foldl_cons, ih, max_le_iff, List.forall_mem_cons, and_assoc]

theorem le_foldl_min_iff {xs : List Int} {start bound : Int} :
    bound ≤ xs.foldl min start ↔ bound ≤ start ∧ ∀ x ∈ xs, bound ≤ x := by
  induction xs generalizing start with
  | nil => simp
  | cons x rest ih => rw [List.foldl_cons, ih, le_min_iff, List.forall_mem_cons, and_assoc]

/-! ### Cutting all sub-intervals -/

namespace Statistics

/-- How statistics agree with those of a size that is `parts` times as large. -/
structure Refines (fine : Statistics) (parts : Int) (coarse : Statistics) : Prop where
  primaryTotal_eq : fine.primaryTotal = coarse.primaryTotal
  secondaryTotal_eq : fine.secondaryTotal = coarse.secondaryTotal
  intervals_eq : fine.intervals = parts * coarse.intervals
  primaryUniqueSum : coarse.primaryUniqueSum ≤ fine.primaryUniqueSum ∧
    fine.primaryUniqueSum ≤ parts * coarse.primaryUniqueSum
  secondaryUniqueSum : coarse.secondaryUniqueSum ≤ fine.secondaryUniqueSum ∧
    fine.secondaryUniqueSum ≤ parts * coarse.secondaryUniqueSum
  primarySquareSum : coarse.primarySquareSum ≤ parts * fine.primarySquareSum ∧
    fine.primarySquareSum ≤ parts * coarse.primarySquareSum
  primaryMax_le : fine.primaryMax ≤ coarse.primaryMax
  primaryMin_le : fine.primaryMin ≤ coarse.primaryMin
  zeroIntervals : parts * coarse.zeroIntervals ≤ fine.zeroIntervals ∧
    fine.zeroIntervals ≤ fine.intervals - (coarse.intervals - coarse.zeroIntervals)

variable {count : Nat} (cuts : List (Interval.Cut count))

theorem sum_uniques_le (unique : Interval → Int)
    (covered : ∀ cut ∈ cuts, Covered (unique cut.whole) (cut.parts.map unique)) :
    ((cuts.map (·.whole)).map unique).sum ≤ ((cuts.flatMap (·.parts)).map unique).sum ∧
      ((cuts.flatMap (·.parts)).map unique).sum ≤
        count * ((cuts.map (·.whole)).map unique).sum := by
  rw [Interval.sum_parts, List.map_map, ← List.sum_map_mul_left]
  constructor
  · exact List.sum_le_sum fun cut member => (covered cut member).le_sum
  · refine List.sum_le_sum fun cut member => ?_
    have bound := (covered cut member).sum_le
    rwa [List.length_map, cut.length_parts] at bound

theorem sum_squares_le :
    ((cuts.map (·.whole)).map fun value => value.primaryUnique * value.primaryUnique).sum ≤
        count * ((cuts.flatMap (·.parts)).map fun value =>
          value.primaryUnique * value.primaryUnique).sum ∧
      ((cuts.flatMap (·.parts)).map fun value =>
          value.primaryUnique * value.primaryUnique).sum ≤
        count * ((cuts.map (·.whole)).map fun value =>
          value.primaryUnique * value.primaryUnique).sum := by
  rw [Interval.sum_parts, List.map_map, ← List.sum_map_mul_left, ← List.sum_map_mul_left]
  constructor
  · refine List.sum_le_sum fun cut _ => ?_
    have bound := cut.primary.square_le
    rwa [List.map_map, List.length_map, cut.length_parts] at bound
  · refine List.sum_le_sum fun cut _ => ?_
    have bound := cut.primary.sum_square_le
    rwa [List.map_map, List.length_map, cut.length_parts] at bound

theorem max_parts_le :
    ((cuts.flatMap (·.parts)).map (·.primaryUnique)).foldl max 0 ≤
      ((cuts.map (·.whole)).map (·.primaryUnique)).foldl max 0 := by
  obtain ⟨zero, wholes⟩ := foldl_max_le_iff.1
    (le_refl (((cuts.map (·.whole)).map (·.primaryUnique)).foldl max 0))
  refine foldl_max_le_iff.2 ⟨zero, fun unique member => ?_⟩
  obtain ⟨part, there, rfl⟩ := List.mem_map.1 member
  obtain ⟨cut, cutting, there⟩ := List.mem_flatMap.1 there
  exact (cut.primary.le_whole _ (List.mem_map_of_mem there)).trans
    (wholes _ (List.mem_map_of_mem (List.mem_map_of_mem cutting)))

theorem min_parts_le (least : Int) :
    (((cuts.flatMap (·.parts)).map (·.primaryUnique)).filter (· ≠ 0)).foldl min least ≤
      (((cuts.map (·.whole)).map (·.primaryUnique)).filter (· ≠ 0)).foldl min least := by
  obtain ⟨start, parts⟩ := le_foldl_min_iff.1
    (le_refl ((((cuts.flatMap (·.parts)).map (·.primaryUnique)).filter (· ≠ 0)).foldl min least))
  refine le_foldl_min_iff.2 ⟨start, fun unique member => ?_⟩
  obtain ⟨member, nonempty⟩ := List.mem_filter.1 member
  rw [List.map_map] at member
  obtain ⟨cut, cutting, rfl⟩ := List.mem_map.1 member
  -- a part of a whole that has ids has some of them
  obtain ⟨unique, there, positive⟩ := cut.primary.exists_pos (of_decide_eq_true nonempty)
  refine (parts unique ?_).trans (cut.primary.le_whole unique there)
  obtain ⟨part, among, rfl⟩ := List.mem_map.1 there
  rw [List.mem_filter, decide_eq_true_iff]
  exact ⟨List.mem_map_of_mem (List.mem_flatMap.2 ⟨cut, cutting, among⟩), positive.ne'⟩

theorem zeros_parts_le :
    count * (cuts.map (·.whole)).countP (fun value => value.primaryUnique = 0) ≤
        (cuts.flatMap (·.parts)).countP (fun value => value.primaryUnique = 0) ∧
      (cuts.flatMap (·.parts)).countP (fun value => value.primaryUnique = 0) + cuts.length ≤
        count * cuts.length +
          (cuts.map (·.whole)).countP fun value => value.primaryUnique = 0 := by
  induction cuts with
  | nil => simp
  | cons cut rest ih =>
    obtain ⟨low, high⟩ := ih
    have zeros : cut.parts.countP (fun value => value.primaryUnique = 0) =
        (cut.parts.map (·.primaryUnique)).countP (· = 0) := by rw [List.countP_map]; rfl
    have length : (cut.parts.map (·.primaryUnique)).length = count := by
      rw [List.length_map, cut.length_parts]
    rw [List.map_cons, List.flatMap_cons, List.countP_append, List.countP_cons, List.length_cons,
      Nat.mul_add, Nat.mul_add, zeros]
    by_cases empty : cut.whole.primaryUnique = 0
    · have all := cut.primary.countP_zero empty
      simp only [empty, decide_true, if_true]
      omega
    · have some := cut.primary.countP_lt empty
      simp only [empty, decide_false, Bool.false_eq_true, if_false]
      omega

/-- Cutting every sub-interval gives statistics that agree with those of the whole ones. -/
theorem refines_ofIntervals (fine coarse : Int) :
    (ofIntervals fine (count * cuts.length) (cuts.flatMap (·.parts))).Refines count
      (ofIntervals coarse cuts.length (cuts.map (·.whole))) := by
  obtain ⟨low, high⟩ := zeros_parts_le cuts
  refine
    { primaryTotal_eq := ?_
      secondaryTotal_eq := ?_
      intervals_eq := rfl
      primaryUniqueSum := sum_uniques_le cuts (·.primaryUnique) fun cut _ => cut.primary
      secondaryUniqueSum := sum_uniques_le cuts (·.secondaryUnique) fun cut _ => cut.secondary
      primarySquareSum := sum_squares_le cuts
      primaryMax_le := max_parts_le cuts
      primaryMin_le := min_parts_le cuts noMinimum
      zeroIntervals := ?_ }
  · show ((cuts.flatMap (·.parts)).map (·.primaryTotal)).sum = _
    rw [Interval.sum_parts]
    simp only [Interval.Cut.primaryTotal_eq, ofIntervals, List.map_map]
    rfl
  · show ((cuts.flatMap (·.parts)).map (·.secondaryTotal)).sum = _
    rw [Interval.sum_parts]
    simp only [Interval.Cut.secondaryTotal_eq, ofIntervals, List.map_map]
    rfl
  · simp only [ofIntervals]
    constructor
    · exact_mod_cast low
    · zify at high
      omega

end Statistics

/-! ### The sub-intervals of some counters -/

theorem one_le_mul_size {size : Int} {parts : Nat} (positive : 1 ≤ size) (several : 1 ≤ parts) :
    1 ≤ (parts : Int) * size :=
  one_le_mul_of_one_le_of_one_le (by omega) positive

namespace Counter

variable {counter : Counter} {size : Int}

theorem sumAt_nonneg (nonneg : ∀ n ∈ counter.counts, 0 ≤ n) (i : Nat) :
    0 ≤ counter.sumAt size i := by
  rw [sumAt, sumFrom, ← List.sum_eq_foldr]
  refine List.sum_nonneg fun n member => nonneg n ?_
  exact List.mem_of_mem_drop (List.mem_of_mem_take member)

/-- The cells of a sub-interval are those of its parts. -/
theorem sumAt_parts (counter : Counter) (positive : 1 ≤ size) {parts : Nat} (several : 1 ≤ parts)
    (i : Nat) :
    ((List.range parts).map fun j => counter.sumAt size (i * parts + j)).sum =
      counter.sumAt (parts * size) i := by
  have coarse := one_le_mul_size positive several
  have cells : ∀ n : Nat, n * ((parts : Int) * size).toNat = n * parts * size.toNat := by
    intro n
    rw [toNat_natCast_mul parts positive, Nat.mul_assoc]
  -- both sides are the cells up to the end of the sub-interval less those before it
  have before := counter.sum_sumAt positive (i * parts)
  have through := counter.sum_sumAt positive (i * parts + parts)
  have before' := counter.sum_sumAt coarse i
  have through' := counter.sum_sumAt coarse (i + 1)
  rw [List.range_add, List.map_append, List.sum_append, List.map_map] at through
  rw [cells] at before'
  rw [List.range_succ, List.map_append, List.sum_append, List.map_singleton, List.sum_singleton,
    cells, Nat.succ_mul] at through'
  simp only [Function.comp_def] at through
  omega

end Counter

namespace Rollup

variable {counters : List Counter} {size : Int} {parts : Nat}

/-- An id occurs in a sub-interval exactly if it does in one of its parts. -/
theorem sumAt_pos_iff_parts {counter : Counter} (nonneg : ∀ n ∈ counter.counts, 0 ≤ n)
    (positive : 1 ≤ size) (several : 1 ≤ parts) (i : Nat) :
    0 < counter.sumAt (parts * size) i ↔
      ∃ j < parts, 0 < counter.sumAt size (i * parts + j) := by
  rw [← counter.sumAt_parts positive several, Arrivals.sum_pos_iff]
  · simp
  · intro total member
    obtain ⟨j, -, rfl⟩ := List.mem_map.1 member
    exact Counter.sumAt_nonneg nonneg _

theorem countP_le_sum_countP {α : Type} {p : α → Bool} {q : Nat → α → Bool} {n : Nat}
    (l : List α) (found : ∀ a ∈ l, p a = true → ∃ j < n, q j a = true) :
    l.countP p ≤ ((List.range n).map fun j => l.countP (q j)).sum := by
  induction l with
  | nil => simp
  | cons a rest ih =>
    rw [List.forall_mem_cons] at found
    simp only [List.countP_cons, List.sum_map_add]
    refine Nat.add_le_add (ih found.2) ?_
    split
    next here =>
      obtain ⟨j, bound, there⟩ := found.1 here
      refine List.single_le_sum (fun _ _ => Nat.zero_le _) _ ?_
      exact List.mem_map.2 ⟨j, List.mem_range.2 bound, if_pos there⟩
    · exact Nat.zero_le _

/-- The ids of a sub-interval are those of its parts, where they may occur more than once. -/
theorem covered_uniqueAt (nonneg : ∀ counter ∈ counters, ∀ n ∈ counter.counts, 0 ≤ n)
    (positive : 1 ≤ size) (several : 1 ≤ parts) (secondary : Bool) (i : Nat) :
    Covered (uniqueAt counters secondary (parts * size) i)
      ((List.range parts).map fun j => uniqueAt counters secondary size (i * parts + j)) := by
  refine ⟨Int.natCast_nonneg _, ?_, ?_, ?_⟩
  · intro part member
    obtain ⟨j, -, rfl⟩ := List.mem_map.1 member
    exact Int.natCast_nonneg _
  · intro part member
    obtain ⟨j, bound, rfl⟩ := List.mem_map.1 member
    rw [List.mem_range] at bound
    refine Int.ofNat_le.2 (List.countP_mono_left fun counter known occurs => ?_)
    rw [decide_eq_true_iff] at occurs ⊢
    exact ⟨occurs.1,
      (sumAt_pos_iff_parts (nonneg counter known) positive several i).2 ⟨j, bound, occurs.2⟩⟩
  · have union := countP_le_sum_countP
      (p := fun counter : Counter =>
        decide (counter.secondary = secondary ∧ 0 < counter.sumAt (parts * size) i))
      (q := fun j counter =>
        decide (counter.secondary = secondary ∧ 0 < counter.sumAt size (i * parts + j)))
      counters fun counter known occurs => by
        rw [decide_eq_true_iff] at occurs
        obtain ⟨j, bound, there⟩ :=
          (sumAt_pos_iff_parts (nonneg counter known) positive several i).1 occurs.2
        exact ⟨j, bound, decide_eq_true ⟨occurs.1, there⟩⟩
    refine (Int.ofNat_le.2 union).trans_eq ?_
    rw [Nat.cast_list_sum, List.map_map]
    rfl

theorem sum_totalAt_parts (counters : List Counter) (positive : 1 ≤ size) (several : 1 ≤ parts)
    (secondary : Bool) (i : Nat) :
    ((List.range parts).map fun j => totalAt counters secondary size (i * parts + j)).sum =
      totalAt counters secondary (parts * size) i := by
  unfold totalAt
  generalize counters.filter (fun counter => decide (counter.secondary = secondary)) = of_kind
  induction of_kind with
  | nil => simp
  | cons counter rest ih =>
    simp only [List.map_cons, List.sum_cons, List.sum_map_add, ih,
      counter.sumAt_parts positive several]

/-- A sub-interval of some counters, cut into `parts`. -/
def cutAt (counters : List Counter) (nonneg : ∀ counter ∈ counters, ∀ n ∈ counter.counts, 0 ≤ n)
    (positive : 1 ≤ size) (several : 1 ≤ parts) (i : Nat) : Interval.Cut parts where
  whole := intervalAt counters (parts * size) i
  parts := (List.range parts).map fun j => intervalAt counters size (i * parts + j)
  length_parts := by rw [List.length_map, List.length_range]
  primaryTotal_eq := by
    rw [List.map_map]
    exact sum_totalAt_parts counters positive several false i
  secondaryTotal_eq := by
    rw [List.map_map]
    exact sum_totalAt_parts counters positive several true i
  primary := by
    rw [List.map_map]
    exact covered_uniqueAt nonneg positive several false i
  secondary := by
    rw [List.map_map]
    exact covered_uniqueAt nonneg positive several true i

end Rollup

/-! ### The sub-intervals of a run -/

theorem range_mul (n parts : Nat) :
    List.range (n * parts) =
      (List.range n).flatMap fun i => (List.range parts).map fun j => i * parts + j := by
  induction n with
  | zero => simp
  | succ n ih =>
    rw [Nat.succ_mul, List.range_add, ih, List.range_succ, List.flatMap_append,
      List.flatMap_singleton]

namespace Arrivals

variable {size : Int} {parts : Nat}

theorem counts_tally_nonneg (slots start : Int) (arrivals : List Arrival) :
    ∀ counter ∈ tally slots start arrivals, ∀ n ∈ counter.counts, 0 ≤ n := by
  intro counter member n count
  obtain ⟨id, -, rfl⟩ := List.mem_map.1 member
  obtain ⟨i, -, rfl⟩ := List.mem_map.1 count
  exact cell_nonneg ..

def cuts (slots : Int) (positive : 1 ≤ size) (several : 1 ≤ parts) (arrivals : List Arrival)
    (start : Int) : List (Interval.Cut parts) :=
  (List.range (slots / (parts * size)).toNat).map <|
    Rollup.cutAt
      (tally slots start (within start (start + slots * bucketMillis) arrivals))
      (counts_tally_nonneg slots start _) positive several

variable {slots start : Int} {arrivals : List Arrival}

theorem intervals_eq (positive : 1 ≤ size) :
    intervals slots size arrivals start =
      (List.range (slots / size).toNat).map (Rollup.intervalAt
        (tally slots start (within start (start + slots * bucketMillis) arrivals)) size) := by
  rw [← intervals_tally positive, Rollup.intervals_ofCounters]

theorem length_cuts (positive : 1 ≤ size) (several : 1 ≤ parts) :
    (cuts slots positive several arrivals start).length = (slots / (parts * size)).toNat := by
  rw [cuts, List.length_map, List.length_range]

theorem map_whole_cuts (positive : 1 ≤ size) (several : 1 ≤ parts) :
    (cuts slots positive several arrivals start).map (·.whole) =
      intervals slots (parts * size) arrivals start := by
  have coarse := one_le_mul_size positive several
  rw [intervals_eq coarse, cuts, List.map_map]
  rfl

theorem ediv_eq_mul_parts (positive : 1 ≤ size) (divides : (parts : Int) * size ∣ slots) :
    slots / size = slots / (parts * size) * parts := by
  have quotient := Int.ediv_mul_cancel divides
  generalize slots / (parts * size) = n at quotient
  rw [← quotient, ← Int.mul_assoc, Int.mul_ediv_cancel _ (by omega)]

theorem flatMap_parts_cuts (positive : 1 ≤ size) (several : 1 ≤ parts)
    (divides : (parts : Int) * size ∣ slots) (nonneg : 0 ≤ slots) :
    (cuts slots positive several arrivals start).flatMap (·.parts) =
      intervals slots size arrivals start := by
  have count : (slots / size).toNat = (slots / (parts * size)).toNat * parts := by
    have coarse := one_le_mul_size positive several
    rw [ediv_eq_mul_parts positive divides,
      Int.toNat_mul (Int.ediv_nonneg nonneg (by omega)) (by omega), Int.toNat_natCast]
  rw [intervals_eq positive, count, range_mul, cuts, List.flatMap_map, List.map_flatMap]
  refine List.flatMap_congr fun i _ => ?_
  rw [List.map_map]
  rfl

end Arrivals

namespace Statistics

/-- The statistics of some windows for a size agree with those for a size that it divides. -/
theorem refines_batch {slots fine coarse : Int} (positive : 1 ≤ fine) (several : 1 ≤ coarse)
    (divides : fine ∣ coarse) (whole : coarse ∣ slots) (nonneg : 0 ≤ slots)
    (closed : List Int) (arrivals : List Arrival) :
    (batch slots closed arrivals fine).Refines (coarse / fine)
      (batch slots closed arrivals coarse) := by
  obtain ⟨parts, rfl⟩ := exists_eq_mul_left_of_dvd divides
  have enough : 0 < parts := pos_of_mul_pos_left several (by omega : 0 ≤ fine)
  obtain ⟨parts, rfl⟩ := Int.eq_ofNat_of_zero_le (by omega : 0 ≤ parts)
  have some : 1 ≤ parts := by omega
  rw [Int.mul_ediv_cancel _ (by omega)]
  generalize cutting : closed.flatMap (Arrivals.cuts slots positive some arrivals) = cuts
  have length : (cuts.length : Int) = closed.length * (slots / (parts * fine)) := by
    have windows : 0 ≤ slots / (parts * fine) := Int.ediv_nonneg nonneg (by omega)
    simp [← cutting, List.length_flatMap, Arrivals.length_cuts, windows]
  have wholes : closed.flatMap (Arrivals.intervals slots (parts * fine) arrivals) =
      cuts.map (·.whole) := by
    rw [← cutting, List.map_flatMap]
    exact List.flatMap_congr fun start _ => (Arrivals.map_whole_cuts positive some).symm
  have pieces : closed.flatMap (Arrivals.intervals slots fine arrivals) =
      cuts.flatMap (·.parts) := by
    rw [← cutting, List.flatMap_assoc]
    exact List.flatMap_congr fun start _ =>
      (Arrivals.flatMap_parts_cuts positive some whole nonneg).symm
  have count : closed.length * (slots / fine) = (parts * cuts.length : Int) := by
    rw [length, Arrivals.ediv_eq_mul_parts positive whole]
    ring
  rw [batch, batch, wholes, pieces, ← length, count]
  exact refines_ofIntervals cuts fine (parts * fine)

end Statistics

namespace Ledger

variable {config : Config}

/-- At every moment of a run of calls, the statistics of any two sizes of which one divides the
other agree. -/
theorem granularities_agree (source : String) (accepted : config.Accepted) (calls : List Call) :
    let statistics := (ofCalls source config calls).tracker.statistics
    statistics.map (·.size) = config.sizes ∧
      ∀ fine ∈ statistics, ∀ coarse ∈ statistics, fine.size ∣ coarse.size →
        fine.Refines (coarse.size / fine.size) coarse := by
  have sound : (ofCalls source config calls).Sound source config := sound_ofCalls accepted calls
  have nonneg : 0 ≤ config.slots := by have := accepted.slots; omega
  rw [sound.statistics_eq]
  refine ⟨(List.map_map ..).trans (List.map_id _), ?_⟩
  intro fine fineMember coarse coarseMember divides
  obtain ⟨a, known, rfl⟩ := List.mem_map.1 fineMember
  obtain ⟨b, known', rfl⟩ := List.mem_map.1 coarseMember
  obtain ⟨several, whole⟩ := accepted.size_spec b known'
  exact Statistics.refines_batch (accepted.one_le_size a known) several divides whole nonneg ..

/-- Two windows after a reset, with calls that count nothing between the arrivals. -/
theorem granularities_agree_mixed :
    let calls := mixedCalls ++
      [.arrive ⟨"a", 267000000, false⟩, .arrive ⟨"b", 267100000, false⟩,
        .arrive ⟨"w", 268000000, true⟩, .report none, .arrive ⟨"c", 280800000, false⟩]
    let statistics := (ofCalls "gate" secondDays calls).tracker.statistics
    secondDays.Accepted ∧
      (statistics.map fun stats =>
        (stats.intervals, stats.zeroIntervals, stats.primaryUniqueSum)) =
          [(24, 21, 4), (12, 10, 3), (8, 6, 3), (4, 2, 3), (2, 0, 3)] ∧
      ∀ fine ∈ statistics, ∀ coarse ∈ statistics, fine.size = 1 →
        fine.Refines coarse.size coarse := by
  intro calls statistics
  have accepted : secondDays.Accepted := ⟨by decide, rfl⟩
  refine ⟨accepted, by decide +kernel, fun fine fineMember coarse coarseMember single => ?_⟩
  have refines := (granularities_agree "gate" accepted calls).2 fine fineMember coarse coarseMember
    (single ▸ one_dvd _)
  rwa [single, Int.ediv_one] at refines

end Ledger

end ArrivalRates
