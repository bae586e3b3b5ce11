import ArrivalRates.Window
import ArrivalRates.Statistics
import Mathlib.Algebra.BigOperators.Group.List.Basic
import Mathlib.Algebra.Ring.Int.Defs

/-!
# What a window adds up to

The rollup of a window never fails when every size is positive and every counter has the cells of
the window. Its entries are, for each sub-interval and kind, the number of counters with an arrival
there and the sum of their cells there: `Window.rollup_eq`. Nothing else about the loops over
counters and sub-intervals is used later.
-/

namespace ArrivalRates

namespace Counter

def sumAt (counter : Counter) (size : Int) (i : Nat) : Int := sumFrom counter.counts (i * size) size

theorem intervalCount_of_pos {slots size : Int} (positive : 1 ≤ size) :
    intervalCount slots size = (slots / size).toNat := by
  have stop : slots - size + 1 + size - 1 = slots := by omega
  simp only [intervalCount, stop, if_pos (show 0 < size by omega)]

theorem rollup_of_pos {counter : Counter} {size : Int} (positive : 1 ≤ size) :
    counter.rollup size =
      .ok ((List.range (counter.slots / size).toNat).map (counter.sumAt size)) := by
  rw [rollup, if_neg (by omega), intervalCount_of_pos positive]
  rfl

end Counter

theorem addEntries_map (xs : List α) (f g : α → Int) :
    addEntries (xs.map f) (xs.map g) = .ok (xs.map fun x => f x + g x) := by
  induction xs with
  | nil => rfl
  | cons x xs ih => simp [addEntries, ih, Except.map]

namespace Rollup

/-- How many ids of a kind occur in the `i`-th sub-interval. -/
def uniqueAt (counters : List Counter) (secondary : Bool) (size : Int) (i : Nat) : Int :=
  counters.countP fun counter => counter.secondary = secondary ∧ 0 < counter.sumAt size i

/-- How many arrivals of a kind the cells of the `i`-th sub-interval hold. -/
def totalAt (counters : List Counter) (secondary : Bool) (size : Int) (i : Nat) : Int :=
  ((counters.filter (·.secondary = secondary)).map (·.sumAt size i)).sum

/-- The summary of some counters for `n` sub-intervals. -/
def ofCounters (size : Int) (n : Nat) (counters : List Counter) : Rollup where
  size := size
  primaryUnique := (List.range n).map (uniqueAt counters false size)
  primaryTotal := (List.range n).map (totalAt counters false size)
  secondaryUnique := (List.range n).map (uniqueAt counters true size)
  secondaryTotal := (List.range n).map (totalAt counters true size)

theorem ofCounters_nil (size : Int) (n : Nat) :
    ofCounters size n [] =
      ⟨size, List.replicate n 0, List.replicate n 0, List.replicate n 0, List.replicate n 0⟩ := by
  have zeros : ∀ f : Nat → Int, (∀ i, f i = 0) → (List.range n).map f = List.replicate n 0 :=
    fun f zero => by simp [List.map_congr_left fun i _ => zero i, List.map_const']
  simp only [ofCounters, zeros (uniqueAt [] _ size) fun _ => rfl,
    zeros (totalAt [] _ size) fun _ => rfl]

theorem uniqueAt_concat (counters : List Counter) (counter : Counter) (secondary : Bool)
    (size : Int) (i : Nat) :
    uniqueAt (counters ++ [counter]) secondary size i =
      uniqueAt counters secondary size i +
        if counter.secondary = secondary ∧ 0 < counter.sumAt size i then 1 else 0 := by
  rw [uniqueAt, List.countP_append, List.countP_singleton, uniqueAt]
  split <;> simp_all

theorem totalAt_concat (counters : List Counter) (counter : Counter) (secondary : Bool)
    (size : Int) (i : Nat) :
    totalAt (counters ++ [counter]) secondary size i =
      totalAt counters secondary size i +
        if counter.secondary = secondary then counter.sumAt size i else 0 := by
  rw [totalAt, List.filter_append, List.map_append, List.sum_append, totalAt]
  by_cases h : counter.secondary = secondary <;> simp [h]

theorem addCounter_ofCounters {size slots : Int} (counters : List Counter) {counter : Counter}
    (positive : 1 ≤ size) (wide : counter.slots = slots) :
    Window.addCounter (ofCounters size (slots / size).toNat counters) counter =
      .ok (ofCounters size (slots / size).toNat (counters ++ [counter])) := by
  have cells : counter.rollup (ofCounters size (slots / size).toNat counters).size =
      .ok ((List.range (slots / size).toNat).map (counter.sumAt size)) :=
    wide ▸ Counter.rollup_of_pos positive
  simp only [Window.addCounter, cells, bind, Except.bind, pure, Except.pure, List.map_map]
  -- one more counter goes into the entries of its kind only
  cases kind : counter.secondary with
  | false => simp [ofCounters, addEntries_map, uniqueAt_concat, totalAt_concat, kind]
  | true => simp [ofCounters, addEntries_map, uniqueAt_concat, totalAt_concat, kind]

theorem foldlM_addCounter {size slots : Int} (positive : 1 ≤ size) (counted counters : List Counter)
    (wide : ∀ counter ∈ counters, counter.slots = slots) :
    counters.foldlM Window.addCounter (ofCounters size (slots / size).toNat counted) =
      .ok (ofCounters size (slots / size).toNat (counted ++ counters)) := by
  induction counters generalizing counted with
  | nil => simp [pure, Except.pure]
  | cons counter rest ih =>
    have first := addCounter_ofCounters counted positive
      (wide counter List.mem_cons_self)
    have others := ih (counted ++ [counter]) fun c member => wide c (List.mem_cons_of_mem _ member)
    simp only [List.foldlM_cons, first, bind, Except.bind, others, List.append_assoc,
      List.cons_append, List.nil_append]

def intervals (rollup : Rollup) : List Interval :=
  Interval.zip rollup.primaryUnique rollup.primaryTotal rollup.secondaryUnique rollup.secondaryTotal

/-- What the counters say about the `i`-th sub-interval. -/
def intervalAt (counters : List Counter) (size : Int) (i : Nat) : Interval where
  primaryUnique := uniqueAt counters false size i
  primaryTotal := totalAt counters false size i
  secondaryUnique := uniqueAt counters true size i
  secondaryTotal := totalAt counters true size i

theorem intervals_ofCounters (size : Int) (n : Nat) (counters : List Counter) :
    (ofCounters size n counters).intervals =
      (List.range n).map (intervalAt counters size) := by
  simp only [intervals, Interval.zip, ofCounters, List.zip_map', List.map_map]
  rfl

end Rollup

namespace Window

theorem rollupFor_eq {window : Window} {size : Int} (positive : 1 ≤ size)
    (wide : ∀ counter ∈ window.counters, counter.slots = window.slots) :
    window.rollupFor size =
      .ok (Rollup.ofCounters size (window.slots / size).toNat window.counters) := by
  have count : floorDiv window.slots size = .ok (window.slots / size) := by
    rw [floorDiv, if_neg (by omega), Int.fdiv_eq_ediv_of_nonneg _ (by omega)]
  simp only [rollupFor, count, bind, Except.bind, ← Rollup.ofCounters_nil,
    Rollup.foldlM_addCounter positive [] window.counters wide, List.nil_append]

theorem rollup_eq {window : Window} {sizes : List Int} (positive : ∀ size ∈ sizes, 1 ≤ size)
    (wide : ∀ counter ∈ window.counters, counter.slots = window.slots) :
    window.rollup sizes =
      .ok (sizes.map fun size =>
        Rollup.ofCounters size (window.slots / size).toNat window.counters) := by
  rw [rollup]
  induction sizes with
  | nil => rfl
  | cons size rest ih =>
    rw [List.forall_mem_cons] at positive
    simp only [List.mapM_cons, rollupFor_eq positive.1 wide, ih positive.2, bind, Except.bind, pure,
      Except.pure, List.map_cons]

end Window

end ArrivalRates
