import ArrivalRates.Proofs.Rollup
import ArrivalRates.Proofs.Tally
import Mathlib.Algebra.Order.BigOperators.Group.List
import Mathlib.Tactic.Positivity
import Mathlib.Tactic.Ring

/-!
# Statistics computed from the arrivals at once

`Statistics.batch` is what the cumulative statistics of one size ought to be, written down without
counters, rollups or running sums: lists of recorded arrivals and of closed windows go in, and each
field is a count, a sum or an extreme over the sub-intervals of those windows. `batch_concat` says
that absorbing the summary of one more window is the same as adding its start to the list.
-/

namespace ArrivalRates

namespace Arrivals

/-- How many ids of a kind arrived in a period; the kind of an id is decided by all the arrivals. -/
def uniqueIn (secondary : Bool) (start stop : Int) (arrivals : List Arrival) : Int :=
  (ids (within start stop arrivals)).countP fun id => isSecondary arrivals id = secondary

/-- How many arrivals the cells of one kind hold in `size` buckets from `start` on. -/
def totalIn (secondary : Bool) (start size : Int) (arrivals : List Arrival) : Int :=
  (((ids arrivals).filter fun id => isSecondary arrivals id = secondary).map fun id =>
    ((List.range size.toNat).map fun (j : Nat) =>
      cell arrivals id (start + j * bucketMillis)).sum).sum

/-- What a sub-interval of `size` buckets contributes, given the arrivals of its window. -/
def interval (size start : Int) (arrivals : List Arrival) : Interval where
  primaryUnique := uniqueIn false start (start + size * bucketMillis) arrivals
  primaryTotal := totalIn false start size arrivals
  secondaryUnique := uniqueIn true start (start + size * bucketMillis) arrivals
  secondaryTotal := totalIn true start size arrivals

def intervals (slots size : Int) (arrivals : List Arrival) (start : Int) : List Interval :=
  (List.range (slots / size).toNat).map fun (i : Nat) =>
    interval size (start + i * (size * bucketMillis))
      (within start (start + slots * bucketMillis) arrivals)

theorem uniqueIn_le (secondary : Bool) (start stop : Int) (arrivals : List Arrival) :
    uniqueIn secondary start stop arrivals ≤ (ids arrivals).length := by
  have part : ids (within start stop arrivals) ⊆ ids arrivals := by
    intro id member
    obtain ⟨arrival, there, same⟩ := mem_ids.1 member
    exact mem_ids.2 ⟨arrival, (mem_within.1 there).1, same⟩
  have fewer := (nodup_ids _).length_le_of_subset part
  have counted := List.countP_le_length (l := ids (within start stop arrivals))
    (p := fun id => decide (isSecondary arrivals id = secondary))
  unfold uniqueIn
  omega

/-! ### The rollup of a tally -/

theorem sum_pos_iff {xs : List Int} (nonneg : ∀ x ∈ xs, 0 ≤ x) :
    0 < xs.sum ↔ ∃ x ∈ xs, 0 < x := by
  induction xs with
  | nil => simp
  | cons x rest ih =>
    rw [List.forall_mem_cons] at nonneg
    have rest_nonneg : 0 ≤ rest.sum := List.sum_nonneg nonneg.2
    simp only [List.sum_cons, List.mem_cons, exists_eq_or_imp, ← ih nonneg.2]
    omega

variable {slots size start : Int} {arrivals : List Arrival} {i : Nat}

theorem sumAt_counter (positive : 1 ≤ size) (inside : (i + 1) * size ≤ slots)
    (messageId : String) :
    (counter slots start arrivals messageId).sumAt size i =
      ((List.range size.toNat).map fun (j : Nat) =>
        cell arrivals messageId (start + i * (size * bucketMillis) + j * bucketMillis)).sum := by
  have first : 0 ≤ (i : Int) * size := by positivity
  rw [Int.add_mul, Int.one_mul] at inside
  rw [Counter.sumAt, Counter.sumFrom, List.sum_eq_foldr]
  congr 1
  refine List.ext_getElem (by simp [counter]; omega) fun j _ _ => ?_
  simp only [counter, List.getElem_take, List.getElem_drop, List.getElem_map, List.getElem_range]
  congr 1
  push_cast
  rw [Int.toNat_of_nonneg first]
  ring

/-- An id counts for a sub-interval exactly if it arrived there. -/
theorem sumAt_pos_iff (positive : 1 ≤ size) (inside : (i + 1) * size ≤ slots)
    {messageId : String} :
    0 < (counter slots start arrivals messageId).sumAt size i ↔
      messageId ∈ ids (within (start + i * (size * bucketMillis))
        (start + i * (size * bucketMillis) + size * bucketMillis) arrivals) := by
  generalize first : start + i * (size * bucketMillis) = from'
  rw [sumAt_counter positive inside, first, sum_pos_iff (by simp [cell_nonneg])]
  simp only [List.mem_map, List.mem_range, exists_exists_and_eq_and, cell_pos_iff, mem_ids,
    mem_within]
  constructor
  · rintro ⟨j, bound, arrival, ⟨member, low, high⟩, same⟩
    refine ⟨arrival, ⟨member, ?_, ?_⟩, same⟩ <;> unfold bucketMillis at * <;> omega
  · rintro ⟨arrival, ⟨member, low, high⟩, same⟩
    refine ⟨((arrival.moment - from') / bucketMillis).toNat, ?_, arrival, ⟨member, ?_, ?_⟩, same⟩
    all_goals
      unfold bucketMillis at *
      omega

theorem uniqueAt_tally (positive : 1 ≤ size) (inside : (i + 1) * size ≤ slots)
    (secondary : Bool) :
    Rollup.uniqueAt (tally slots start arrivals) secondary size i =
      uniqueIn secondary (start + i * (size * bucketMillis))
        (start + i * (size * bucketMillis) + size * bucketMillis) arrivals := by
  rw [Rollup.uniqueAt, uniqueIn, tally, List.countP_map, List.countP_eq_length_filter,
    List.countP_eq_length_filter]
  congr 1
  -- the two sides list the ids in different orders: of the whole window and of the sub-interval
  refine List.Perm.length_eq ((List.perm_ext_iff_of_nodup ((nodup_ids _).filter _)
    ((nodup_ids _).filter _)).2 fun id => ?_)
  simp only [List.mem_filter, Function.comp_apply, decide_eq_true_eq,
    sumAt_pos_iff positive inside]
  constructor
  · rintro ⟨-, kind, there⟩
    exact ⟨there, kind⟩
  · rintro ⟨there, kind⟩
    obtain ⟨arrival, member, same⟩ := mem_ids.1 there
    exact ⟨mem_ids.2 ⟨arrival, (mem_within.1 member).1, same⟩, kind, there⟩

theorem totalAt_tally (positive : 1 ≤ size) (inside : (i + 1) * size ≤ slots)
    (secondary : Bool) :
    Rollup.totalAt (tally slots start arrivals) secondary size i =
      totalIn secondary (start + i * (size * bucketMillis)) size arrivals := by
  rw [Rollup.totalAt, totalIn, tally, List.filter_map, List.map_map]
  congr 1
  exact List.map_congr_left fun id _ => sumAt_counter positive inside id

/-- The summary of a window that holds a tally lists the sub-intervals of its arrivals. -/
theorem intervals_tally (positive : 1 ≤ size) (arrivals : List Arrival) :
    (Rollup.ofCounters size (slots / size).toNat
        (tally slots start (within start (start + slots * bucketMillis) arrivals))).intervals =
      intervals slots size arrivals start := by
  rw [Rollup.intervals_ofCounters, intervals]
  refine List.map_congr_left fun i member => ?_
  have inside : (i + 1) * size ≤ slots := by
    rw [List.mem_range] at member
    exact Int.mul_le_of_le_ediv (by omega) (by omega)
  simp only [Rollup.intervalAt, interval, uniqueAt_tally positive inside,
    totalAt_tally positive inside]

end Arrivals

namespace Statistics

/-- The statistics of some sub-intervals, field by field. -/
def ofIntervals (size count : Int) (values : List Interval) : Statistics where
  size := size
  intervals := count
  zeroIntervals := values.countP fun value => value.primaryUnique = 0
  primaryUniqueSum := (values.map (·.primaryUnique)).sum
  secondaryUniqueSum := (values.map (·.secondaryUnique)).sum
  primarySquareSum := (values.map fun value => value.primaryUnique * value.primaryUnique).sum
  primaryMin := ((values.map (·.primaryUnique)).filter (· ≠ 0)).foldl min noMinimum
  primaryMax := (values.map (·.primaryUnique)).foldl max 0
  primaryTotal := (values.map (·.primaryTotal)).sum
  secondaryTotal := (values.map (·.secondaryTotal)).sum

/-- The statistics of one size over the windows that begin at the given starts. -/
def batch (slots : Int) (closed : List Int) (arrivals : List Arrival) (size : Int) : Statistics :=
  ofIntervals size (closed.length * (slots / size))
    (closed.flatMap (Arrivals.intervals slots size arrivals))

theorem add_ofIntervals (size count : Int) (values : List Interval) (value : Interval) :
    (ofIntervals size count values).add value = ofIntervals size count (values ++ [value]) := by
  simp only [add, ofIntervals, List.map_append, List.map_cons, List.map_nil, List.sum_append,
    List.sum_cons, List.sum_nil, Int.add_zero, List.countP_append, List.countP_singleton,
    List.filter_append, List.foldl_append, List.foldl_cons, List.foldl_nil]
  by_cases zero : value.primaryUnique = 0 <;> simp [zero]

theorem foldl_add_ofIntervals (size count : Int) (values more : List Interval) :
    more.foldl add (ofIntervals size count values) = ofIntervals size count (values ++ more) := by
  induction more generalizing values with
  | nil => simp
  | cons value rest ih =>
    rw [List.foldl_cons, add_ofIntervals, ih, List.append_assoc, List.singleton_append]

theorem absorbRollup_ofIntervals (size count : Int) (values : List Interval) (rollup : Rollup) :
    (ofIntervals size count values).absorbRollup rollup =
      ofIntervals size (count + rollup.primaryUnique.length) (values ++ rollup.intervals) :=
  foldl_add_ofIntervals size (count + rollup.primaryUnique.length) values rollup.intervals

variable {slots size start : Int} {closed : List Int}

@[simp] theorem batch_nil (arrivals : List Arrival) :
    batch slots [] arrivals = fun size => { size } := by
  funext size
  simp [batch, ofIntervals]

/-- Absorbing the summary of a window whose counters are the tally of its arrivals adds the window
to the closed ones. -/
theorem batch_concat (wide : 0 ≤ slots) (positive : 1 ≤ size) (arrivals : List Arrival) :
    (batch slots closed arrivals size).absorbRollup
        (Rollup.ofCounters size (slots / size).toNat
          (Arrivals.tally slots start
            (Arrivals.within start (start + slots * bucketMillis) arrivals))) =
      batch slots (closed ++ [start]) arrivals size := by
  have count : 0 ≤ slots / size := Int.ediv_nonneg wide (by omega)
  rw [batch, absorbRollup_ofIntervals, Arrivals.intervals_tally positive, batch,
    List.flatMap_append, List.flatMap_singleton]
  congr 1
  simp only [Rollup.ofCounters, List.length_map, List.length_range, List.length_append,
    List.length_singleton]
  push_cast
  rw [Int.toNat_of_nonneg count]
  ring

theorem batch_congr {arrivals others : List Arrival}
    (same : ∀ start ∈ closed,
      Arrivals.within start (start + slots * bucketMillis) arrivals =
        Arrivals.within start (start + slots * bucketMillis) others) :
    batch slots closed arrivals size = batch slots closed others size := by
  rw [batch, batch]
  congr 1
  refine List.flatMap_congr fun start member => ?_
  simp only [Arrivals.intervals, same start member]

/-- Statistics over some windows count the arrivals in these windows and no others. -/
theorem batch_inWindows (arrivals : List Arrival) :
    batch slots closed (Chronicle.inWindows (slots * bucketMillis) closed arrivals) size =
      batch slots closed arrivals size := by
  refine batch_congr fun start member => ?_
  rw [Chronicle.inWindows, Arrivals.within, List.filter_filter, Arrivals.within]
  refine List.filter_congr fun arrival _ => ?_
  by_cases inside : start ≤ arrival.moment ∧ arrival.moment < start + slots * bucketMillis
  · have found : (closed.any fun start => decide (start ≤ arrival.moment ∧
        arrival.moment < start + slots * bucketMillis)) = true := by
      rw [List.any_eq_true]
      exact ⟨start, member, decide_eq_true inside⟩
    rw [found, Bool.and_true]
  · rw [decide_eq_false inside, Bool.false_and]

/-! ### The minimum -/

def leastNonzero (values : List Int) : Option Int := (values.filter (· ≠ 0)).min?

theorem foldl_min_eq {bound : Int} {values : List Int} (bounded : ∀ value ∈ values, value ≤ bound) :
    values.foldl min bound = values.min?.getD bound := by
  cases values with
  | nil => rfl
  | cons value rest =>
    have first : min bound value = value := Int.min_eq_right (bounded value List.mem_cons_self)
    rw [List.foldl_cons, first, List.min?_cons', Option.getD_some]

theorem primaryMin_batch {arrivals : List Arrival}
    (bounded : ∀ start ∈ closed,
      ((Arrivals.ids (Arrivals.within start (start + slots * bucketMillis) arrivals)).length : Int)
        ≤ noMinimum) :
    (batch slots closed arrivals size).primaryMin =
      (leastNonzero ((closed.flatMap (Arrivals.intervals slots size arrivals)).map
        (·.primaryUnique))).getD noMinimum := by
  refine foldl_min_eq fun value member => ?_
  rw [List.mem_filter, List.mem_map] at member
  obtain ⟨⟨interval, member, rfl⟩, -⟩ := member
  rw [List.mem_flatMap] at member
  obtain ⟨start, closing, member⟩ := member
  rw [Arrivals.intervals, List.mem_map] at member
  obtain ⟨i, -, rfl⟩ := member
  exact Int.le_trans (Arrivals.uniqueIn_le ..) (bounded start closing)

end Statistics

end ArrivalRates
