import ArrivalRates.Proofs.Granularity
import Mathlib.Algebra.BigOperators.Intervals

/-!
# Sub-intervals as a partition of the window

A rollup has as many entries as its size goes into the window, each the sum of the cells of its
sub-interval; cells behind the last whole sub-interval belong to none. A cell belongs to the
sub-interval whose number is the quotient of the two, so the sub-intervals take in every cell
exactly if the size divides the window, which is what the layout check asks for.
-/

namespace ArrivalRates

namespace Counter

/-- The cells that belong to the `i`-th sub-interval of a size. -/
def cellsOf (size : Int) (i : Nat) : Finset Nat :=
  Finset.Ico (i * size.toNat) ((i + 1) * size.toNat)

variable {counter : Counter} {size : Int} {i : Nat}

theorem mem_cellsOf_iff (positive : 1 ≤ size) {cell : Nat} :
    cell ∈ cellsOf size i ↔ cell / size.toNat = i := by
  rw [cellsOf, Finset.mem_Ico, Nat.div_eq_iff (by omega), Nat.succ_mul]
  omega

/-- A sum over the cells of a sub-interval goes through them one after the other. -/
theorem sum_cellsOf (f : Nat → Int) (size : Int) (i : Nat) :
    ∑ cell ∈ cellsOf size i, f cell =
      ((List.range size.toNat).map fun k => f (i * size.toNat + k)).sum := by
  rw [cellsOf, Finset.sum_Ico_eq_sum_range, Nat.succ_mul, Nat.add_sub_cancel_left]
  rfl

theorem cellsOf_subset {cells : Nat} (inside : i < cells / size.toNat) :
    cellsOf size i ⊆ Finset.range cells := by
  intro cell member
  have stop : (i + 1) * size.toNat ≤ cells := Nat.mul_le_of_le_div _ _ _ inside
  exact Finset.mem_range.2 ((Finset.mem_Ico.1 member).2.trans_le stop)

theorem sumAt_eq_sum (positive : 1 ≤ size) (inside : i < counter.counts.length / size.toNat) :
    counter.sumAt size i = ∑ cell ∈ cellsOf size i, counter.counts.getD cell 0 := by
  have stop : (i + 1) * size.toNat ≤ counter.counts.length := Nat.mul_le_of_le_div _ _ _ inside
  rw [sum_cellsOf, sumAt, sumFrom, ← List.sum_eq_foldr, toNat_natCast_mul i positive]
  rw [Nat.succ_mul] at stop
  congr 1
  refine List.ext_getElem (by simp; omega) fun k _ short => ?_
  rw [List.length_map, List.length_range] at short
  have cell : i * size.toNat + k < counter.counts.length := by omega
  simp [cell]

/-- How often a size goes into a window, counted in cells. -/
theorem toNat_ediv_slots (full : counter.counts.length = counter.slots) (positive : 1 ≤ size) :
    (counter.slots / size).toNat = counter.counts.length / size.toNat := by
  rw [← full, ← Int.toNat_natCast (counter.counts.length / size.toNat), Int.natCast_ediv,
    Int.toNat_of_nonneg (by omega)]

/-- A cell belongs to one sub-interval at most, and every cell belongs to one exactly if the window
is a multiple of the size. -/
theorem existsUnique_cellsOf_iff (positive : 1 ≤ size) {cells : Nat} (some : 0 < cells) :
    (∀ cell < cells, ∃! i, i < cells / size.toNat ∧ cell ∈ cellsOf size i) ↔
      size ∣ (cells : Int) := by
  have inside : ∀ cell, (∃! i, i < cells / size.toNat ∧ cell ∈ cellsOf size i) ↔
      cell / size.toNat < cells / size.toNat := by
    intro cell
    simp only [mem_cellsOf_iff positive]
    constructor
    · rintro ⟨i, ⟨below, rfl⟩, -⟩
      exact below
    · exact fun below => ⟨_, ⟨below, rfl⟩, fun i both => both.2.symm⟩
  simp only [inside]
  obtain ⟨width, rfl⟩ := Int.eq_ofNat_of_zero_le (show 0 ≤ size by omega)
  rw [Int.natCast_dvd_natCast, Int.toNat_natCast]
  constructor
  · intro below
    -- the last cell lies in the last sub-interval, so that one ends where the window does
    obtain ⟨last, rfl⟩ := Nat.exists_eq_succ_of_ne_zero some.ne'
    have end_lt := below last (Nat.lt_succ_self last)
    by_contra rest
    rw [Nat.succ_div_of_not_dvd rest] at end_lt
    exact lt_irrefl _ end_lt
  · exact fun divides cell below => Nat.div_lt_div_of_lt_of_dvd divides below

/-- The rollup of a counter: the sums over its whole sub-intervals. -/
theorem rollup_eq_sums (full : counter.counts.length = counter.slots) (positive : 1 ≤ size) :
    counter.rollup size = .ok ((List.range (counter.counts.length / size.toNat)).map fun i =>
      ∑ cell ∈ cellsOf size i, counter.counts.getD cell 0) := by
  rw [rollup_of_pos positive, toNat_ediv_slots full positive]
  refine congrArg _ (List.map_congr_left fun i member => ?_)
  exact sumAt_eq_sum positive (List.mem_range.1 member)

/-- The entries of a coarser size are sums of consecutive entries of a finer one. -/
theorem sum_cellsOf_mul {fine : Int} {parts : Nat} (positive : 1 ≤ fine) (several : 1 ≤ parts)
    (inside : i < counter.counts.length / (parts * fine).toNat) :
    ∑ cell ∈ cellsOf (parts * fine) i, counter.counts.getD cell 0 =
      ∑ part ∈ cellsOf parts i, ∑ cell ∈ cellsOf fine part, counter.counts.getD cell 0 := by
  have stop : (i + 1) * (parts * fine.toNat) ≤ counter.counts.length :=
    Nat.mul_le_of_le_div _ _ _ (toNat_natCast_mul parts positive ▸ inside)
  have below : (i + 1) * parts ≤ counter.counts.length / fine.toNat := by
    rw [Nat.le_div_iff_mul_le (by omega), Nat.mul_assoc]
    exact stop
  rw [← sumAt_eq_sum (one_le_mul_size positive several) inside,
    ← sumAt_parts counter positive several, sum_cellsOf, Int.toNat_natCast]
  refine congrArg _ (List.map_congr_left fun j member => sumAt_eq_sum positive ?_)
  rw [List.mem_range] at member
  rw [Nat.succ_mul] at below
  omega

/-- Groups of entries of one size are the entries of a multiple of it that divides the window. -/
theorem rollup_regroups (full : counter.counts.length = counter.slots) {fine : Int} {parts : Nat}
    (positive : 1 ≤ fine) (several : 1 ≤ parts) (whole : (parts : Int) * fine ∣ counter.slots) :
    ∃ pieces wholes, counter.rollup fine = .ok pieces ∧
      counter.rollup (parts * fine) = .ok wholes ∧
      (pieces.length : Int) = wholes.length * parts ∧
      ∀ i < wholes.length, wholes[i]? = some (∑ part ∈ cellsOf parts i, pieces.getD part 0) := by
  have coarse := one_le_mul_size positive several
  refine ⟨_, _, rollup_eq_sums full positive, rollup_eq_sums full coarse, ?_, fun i below => ?_⟩
  · simp only [List.length_map, List.length_range, ← toNat_ediv_slots full positive,
      ← toNat_ediv_slots full coarse]
    rw [Int.toNat_of_nonneg (Int.ediv_nonneg (by omega) (by omega)),
      Int.toNat_of_nonneg (Int.ediv_nonneg (by omega) (by omega))]
    exact Arrivals.ediv_eq_mul_parts positive whole
  · rw [List.length_map, List.length_range] at below
    rw [List.getElem?_map, List.getElem?_range below, Option.map_some,
      sum_cellsOf_mul positive several below]
    refine congrArg _ (Finset.sum_congr rfl fun part member => ?_)
    have inside : i < counter.counts.length / fine.toNat / (parts : Int).toNat := by
      rwa [Nat.div_div_eq_div_mul, Int.toNat_natCast, Nat.mul_comm,
        ← toNat_natCast_mul parts positive]
    have known := Finset.mem_range.1 (cellsOf_subset inside member)
    simp [known]

theorem floorDiv_slots (full : counter.counts.length = counter.slots) (positive : 1 ≤ size) :
    floorDiv counter.slots size = .ok ((counter.counts.length / size.toNat : Nat) : Int) := by
  rw [floorDiv, if_neg (by omega), Int.fdiv_eq_ediv_of_nonneg _ (by omega), ← full,
    Int.natCast_ediv, Int.toNat_of_nonneg (by omega)]

end Counter

def Rollup.columns (rollup : Rollup) : List (List Int) :=
  [rollup.primaryUnique, rollup.primaryTotal, rollup.secondaryUnique, rollup.secondaryTotal]

theorem Rollup.length_of_mem_columns {size : Int} {n : Nat} {counters : List Counter} :
    ∀ column ∈ (ofCounters size n counters).columns, column.length = n := by
  simp [columns, ofCounters]

/-- A rollup has as many entries as the size goes into the window, the `i`-th of them the sum of the
cells of the `i`-th sub-interval, so the summary of a window never fails. The entries of a size are
sums of those of a size that divides it. A layout is in order exactly if there is a size and, for
every size, each cell belongs to exactly one entry. -/
theorem rollup_partitions {counter : Counter} (some : 1 ≤ counter.slots)
    (full : counter.counts.length = counter.slots) :
    (∀ size, 1 ≤ size → ∃ entries, counter.rollup size = .ok entries ∧
      floorDiv counter.slots size = .ok entries.length ∧
      ∀ i < entries.length, Counter.cellsOf size i ⊆ Finset.range counter.counts.length ∧
        entries[i]? = Option.some
          (∑ cell ∈ Counter.cellsOf size i, counter.counts.getD cell 0)) ∧
    (∀ window : Window, window.slots = counter.slots →
      (∀ other ∈ window.counters, other.slots = counter.slots) →
      ∀ sizes, (∀ size ∈ sizes, 1 ≤ size) → ∃ rollups, window.rollup sizes = .ok rollups ∧
        List.Forall₂ (fun size rollup => rollup.size = size ∧ ∀ column ∈ rollup.columns,
          floorDiv counter.slots size = .ok column.length) sizes rollups) ∧
    (∀ fine coarse, 1 ≤ fine → 1 ≤ coarse → fine ∣ coarse → coarse ∣ counter.slots →
      ∃ parts wholes, counter.rollup fine = .ok parts ∧ counter.rollup coarse = .ok wholes ∧
        (parts.length : Int) = wholes.length * (coarse / fine) ∧
        ∀ i < wholes.length, wholes[i]? = Option.some
          (∑ part ∈ Counter.cellsOf (coarse / fine) i, parts.getD part 0)) ∧
    ∀ sizes, checkLayout counter.slots sizes = .ok () ↔ sizes ≠ [] ∧ ∀ size ∈ sizes, 1 ≤ size ∧
      ∃ entries, counter.rollup size = .ok entries ∧
        ∀ cell < counter.counts.length, ∃! i, i < entries.length ∧
          cell ∈ Counter.cellsOf size i := by
  refine ⟨fun size positive => ?_, fun window same wide sizes positive => ?_,
    fun fine coarse positive positive' divides whole => ?_, fun sizes => ?_⟩
  · refine ⟨_, Counter.rollup_eq_sums full positive, ?_, fun i below => ?_⟩
    · rw [List.length_map, List.length_range]
      exact Counter.floorDiv_slots full positive
    · rw [List.length_map, List.length_range] at below
      refine ⟨Counter.cellsOf_subset below, ?_⟩
      rw [List.getElem?_map, List.getElem?_range below, Option.map_some]
  · rw [← same] at wide
    refine ⟨_, Window.rollup_eq positive wide, ?_⟩
    rw [List.forall₂_map_right_iff, List.forall₂_same]
    refine fun size member => ⟨rfl, fun column found => ?_⟩
    rw [Rollup.length_of_mem_columns column found, same,
      Counter.toNat_ediv_slots full (positive size member)]
    exact Counter.floorDiv_slots full (positive size member)
  · obtain ⟨ratio, rfl⟩ := exists_eq_mul_left_of_dvd divides
    have several : 0 < ratio := pos_of_mul_pos_left (lt_of_lt_of_le one_pos positive') (by omega)
    obtain ⟨parts, rfl⟩ := Int.eq_ofNat_of_zero_le several.le
    rw [Int.mul_ediv_cancel _ (by omega)]
    exact Counter.rollup_regroups full positive (by omega) whole
  · rw [checkLayout_eq_ok_iff]
    refine and_congr_right fun _ => forall₂_congr fun size _ => and_congr_right fun positive => ?_
    have cells : 0 < counter.counts.length := by omega
    rw [Counter.rollup_eq_sums full positive, ← full,
      ← Counter.existsUnique_cellsOf_iff positive cells]
    simp

/-- Five does not divide twelve: the last two cells belong to no entry, and the layout is
refused. -/
theorem rollup_partitions_remainder :
    let counter : Counter := ⟨"M1", 12, false, [1, 1, 0, 0, 0, 1, 0, 0, 0, 0, 0, 2]⟩
    1 ≤ counter.slots ∧ counter.counts.length = counter.slots ∧
      counter.rollup 3 = .ok [2, 1, 0, 2] ∧ counter.rollup 5 = .ok [2, 1] ∧
      counter.rollup 13 = .ok [] ∧
      (∃ entries, counter.rollup 3 = .ok entries ∧ ∀ cell < counter.counts.length,
        ∃! i, i < entries.length ∧ cell ∈ Counter.cellsOf 3 i) ∧
      ¬∀ cell < counter.counts.length, ∃! i, i < 2 ∧ cell ∈ Counter.cellsOf 5 i := by
  intro counter
  have some : 1 ≤ counter.slots := by decide
  have full : counter.counts.length = counter.slots := rfl
  obtain ⟨-, -, -, accepts⟩ := rollup_partitions some full
  have five : counter.rollup 5 = .ok [2, 1] := by decide
  refine ⟨some, full, by decide, five, by decide, ?_, fun all => ?_⟩
  · exact (((accepts [3]).1 (by decide)).2 3 List.mem_cons_self).2
  · have refused : checkLayout counter.slots [5] ≠ .ok () := by decide
    refine refused ((accepts [5]).2 ⟨List.cons_ne_nil _ _, List.forall_mem_singleton.2 ?_⟩)
    exact ⟨by decide, [2, 1], five, all⟩

end ArrivalRates
