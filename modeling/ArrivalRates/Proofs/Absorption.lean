import ArrivalRates.Proofs.Rollup
import Mathlib.Data.Multiset.MapFold

/-!
# Statistics absorb sub-intervals in any order

Taking in one sub-interval adds to every field, whatever the fields held before, and two of them
can be taken in either way round. So a call of `absorb` is a fold over its sub-intervals, and the
statistics after any number of calls are a fold over the multiset of all of them: neither the order
of the sub-intervals nor the way in which they are cut into calls can be seen afterwards.
-/

namespace ArrivalRates

namespace Statistics

variable {stats : Statistics} {values : List Interval}

/-- The same sums and extremes, over that many more sub-intervals. -/
def longer (stats : Statistics) (count : Int) : Statistics :=
  { stats with intervals := stats.intervals + count }

/-- Takes in one sub-interval, which counts as one. -/
def count (stats : Statistics) (value : Interval) : Statistics := (stats.add value).longer 1

def absorbAll (stats : Statistics) (values : List Interval) : Statistics :=
  stats.absorb (values.map (·.primaryUnique)) (values.map (·.primaryTotal))
    (values.map (·.secondaryUnique)) (values.map (·.secondaryTotal))

@[simp] theorem add_longer (stats : Statistics) (n : Int) (value : Interval) :
    (stats.longer n).add value = (stats.add value).longer n := rfl

@[simp] theorem longer_longer (stats : Statistics) (m n : Int) :
    (stats.longer m).longer n = stats.longer (m + n) := by
  simp only [longer, Int.add_assoc]

@[simp] theorem longer_zero (stats : Statistics) : stats.longer 0 = stats := by
  simp only [longer, Int.add_zero]

theorem foldl_add_longer (stats : Statistics) (n : Int) (values : List Interval) :
    values.foldl add (stats.longer n) = (values.foldl add stats).longer n := by
  induction values generalizing stats with
  | nil => rfl
  | cons value rest ih => rw [List.foldl_cons, List.foldl_cons, add_longer, ih]

/-- Sums and counts do not mind the order of two terms, nor do the extremes. -/
theorem add_right_comm (stats : Statistics) (first second : Interval) :
    (stats.add first).add second = (stats.add second).add first := by
  simp only [add, mk.injEq, true_and]
  refine ⟨?_, by omega, by omega, by omega, ?_, by omega, by omega, by omega⟩
  all_goals split <;> split <;> omega

instance : RightCommutative add := ⟨add_right_comm⟩

instance : RightCommutative count where
  right_comm stats first second := by
    simp only [count, add_longer, add_right_comm stats first second]

theorem foldl_count (stats : Statistics) (values : List Interval) :
    values.foldl count stats = (values.foldl add stats).longer values.length := by
  induction values generalizing stats with
  | nil => exact (longer_zero stats).symm
  | cons value rest ih =>
    rw [List.foldl_cons, ih, count, foldl_add_longer, longer_longer, List.foldl_cons,
      List.length_cons, Nat.cast_add, Nat.cast_one, Int.add_comm]

end Statistics

theorem Interval.zip_columns (values : List Interval) :
    Interval.zip (values.map (·.primaryUnique)) (values.map (·.primaryTotal))
      (values.map (·.secondaryUnique)) (values.map (·.secondaryTotal)) = values := by
  rw [Interval.zip, List.zip_map', List.zip_map', List.zip_map', List.map_map]
  exact List.map_id values

namespace Statistics

theorem absorb_eq (stats : Statistics)
    (primaryUnique primaryTotal secondaryUnique secondaryTotal : List Int) :
    stats.absorb primaryUnique primaryTotal secondaryUnique secondaryTotal =
      ((Interval.zip primaryUnique primaryTotal secondaryUnique secondaryTotal).foldl add
        stats).longer primaryUnique.length :=
  foldl_add_longer ..

theorem absorbAll_eq_foldl (stats : Statistics) (values : List Interval) :
    stats.absorbAll values = values.foldl count stats := by
  rw [absorbAll, absorb_eq, Interval.zip_columns, List.length_map, foldl_count]

theorem foldl_absorbAll (stats : Statistics) (calls : List (List Interval)) :
    calls.foldl absorbAll stats = calls.flatten.foldl count stats := by
  have each : absorbAll = fun stats values => values.foldl count stats := by
    funext stats values
    exact absorbAll_eq_foldl stats values
  rw [List.foldl_flatten, each]

/-- The windows of a tracker, whatever their four lists, can be absorbed either way round. -/
theorem absorbRollup_right_comm (stats : Statistics) (first second : Rollup) :
    (stats.absorbRollup first).absorbRollup second =
      (stats.absorbRollup second).absorbRollup first := by
  have both : ∀ first second : Rollup, (stats.absorbRollup first).absorbRollup second =
      ((first.intervals ++ second.intervals).foldl add stats).longer
        (first.primaryUnique.length + second.primaryUnique.length) := by
    intro first second
    simp only [absorbRollup, absorb_eq, foldl_add_longer, longer_longer, List.foldl_append,
      Rollup.intervals]
  rw [both, both, Int.add_comm, List.perm_append_comm.foldl_eq]

/-- Statistics, whatever they held before, become the same by absorbing the same sub-intervals: in
one call or in many, in this order or in another. The same holds of the windows of a tracker. -/
theorem absorbAll_in_any_order (stats : Statistics) :
    (∀ xs ys : List Interval,
      (stats.absorbAll xs).absorbAll ys = stats.absorbAll (xs ++ ys)) ∧
    (∀ calls : List (List Interval),
      calls.foldl absorbAll stats = Multiset.foldl count stats calls.flatten) ∧
    (∀ (xs : List Interval) (calls : List (List Interval)), calls.flatten.Perm xs →
      calls.foldl absorbAll stats = stats.absorbAll xs) ∧
    ∀ rollups others : List Rollup, rollups.Perm others →
      rollups.foldl absorbRollup stats = others.foldl absorbRollup stats := by
  refine ⟨?_, ?_, ?_, ?_⟩
  · intro xs ys
    simp only [absorbAll_eq_foldl, List.foldl_append]
  · exact foldl_absorbAll stats
  · intro xs calls same
    rw [foldl_absorbAll, absorbAll_eq_foldl, same.foldl_eq]
  · intro rollups others same
    exact same.foldl_eq'
      (fun first _ second _ stats => absorbRollup_right_comm stats first second) _

/-- A window with an empty sub-interval between two others, absorbed whole and then the other way
round in two calls, by statistics that have a minimum and a maximum of their own. -/
theorem absorbAll_in_any_order_split :
    let stats : Statistics :=
      { size := 2, intervals := 3, zeroIntervals := 1, primaryUniqueSum := 9, primaryMin := 4,
        primaryMax := 5 }
    let xs : List Interval := [⟨2, 7, 0, 0⟩, ⟨0, 0, 1, 3⟩, ⟨6, 6, 0, 0⟩]
    let calls : List (List Interval) := [[⟨6, 6, 0, 0⟩], [], [⟨0, 0, 1, 3⟩, ⟨2, 7, 0, 0⟩]]
    let rollups : List Rollup := [⟨2, [2, 0], [7, 0], [0, 1], [0, 3]⟩, ⟨2, [6], [6], [0], [0]⟩]
    calls.flatten.Perm xs ∧ rollups.Perm rollups.reverse ∧
      calls.foldl absorbAll stats = stats.absorbAll xs ∧
      rollups.foldl absorbRollup stats = rollups.reverse.foldl absorbRollup stats ∧
      stats.absorbAll xs =
        { size := 2, intervals := 6, zeroIntervals := 2, primaryUniqueSum := 17,
          secondaryUniqueSum := 1, primarySquareSum := 40, primaryMin := 2, primaryMax := 6,
          primaryTotal := 13, secondaryTotal := 3 } := by
  intro stats xs calls rollups
  have same : calls.flatten.Perm xs := by decide
  have turned : rollups.Perm rollups.reverse := rollups.reverse_perm.symm
  obtain ⟨-, -, whole, windows⟩ := absorbAll_in_any_order stats
  exact ⟨same, turned, whole xs calls same, windows _ _ turned, by decide⟩

end Statistics

end ArrivalRates
