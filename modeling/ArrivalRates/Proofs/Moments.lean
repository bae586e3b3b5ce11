import ArrivalRates.Proofs.Granularity

/-!
# The sums and the extremes of the statistics agree

An empty sub-interval adds nothing to the sums and does not take part in the minimum, so all that
the statistics know comes from the sub-intervals that are not empty: their numbers of ids are
positive, and the statistics hold how many they are, their sum, the sum of their squares, the least
and the greatest of them. The inequalities between these are those of a list of positive numbers,
among them that of Cauchy and Schwarz, by which no variance is negative.
-/

namespace ArrivalRates

namespace Statistics

/-- How the fields of statistics that counted numbers of ids hang together. -/
structure Consistent (stats : Statistics) : Prop where
  zeroIntervals : 0 ≤ stats.zeroIntervals ∧ stats.zeroIntervals ≤ stats.intervals
  square_le : stats.primaryUniqueSum * stats.primaryUniqueSum ≤
    (stats.intervals - stats.zeroIntervals) * stats.primarySquareSum
  square_le_all : (stats.intervals - stats.zeroIntervals) * stats.primarySquareSum ≤
    stats.intervals * stats.primarySquareSum
  variance_nonneg : 0 ≤ (stats.primarySquareSum : ℚ) / stats.intervals -
    ((stats.primaryUniqueSum : ℚ) / stats.intervals) ^ 2
  sum_le_square : stats.primaryUniqueSum ≤ stats.primarySquareSum
  square_le_max : stats.primarySquareSum ≤ stats.primaryMax * stats.primaryUniqueSum
  sum_le_max : stats.primaryUniqueSum ≤
    stats.primaryMax * (stats.intervals - stats.zeroIntervals)
  empty_iff_sum : stats.zeroIntervals = stats.intervals ↔ stats.primaryUniqueSum = 0
  empty_iff_max : stats.primaryUniqueSum = 0 ↔ stats.primaryMax = 0
  min_of_empty : stats.zeroIntervals = stats.intervals → stats.primaryMin = noMinimum
  min_of_nonempty : stats.zeroIntervals ≠ stats.intervals →
    1 ≤ stats.primaryMin ∧ stats.primaryMin ≤ stats.primaryMax ∧
      stats.primaryMin * (stats.intervals - stats.zeroIntervals) ≤ stats.primaryUniqueSum

/-- The statistics of some empty sub-intervals and of others with the given numbers of ids. -/
structure Counted (counts : List Int) (stats : Statistics) : Prop where
  positive : ∀ count ∈ counts, 1 ≤ count
  zero_nonneg : 0 ≤ stats.zeroIntervals
  intervals_eq : stats.intervals - stats.zeroIntervals = counts.length
  sum_eq : stats.primaryUniqueSum = counts.sum
  square_eq : stats.primarySquareSum = (counts.map fun count => count * count).sum
  min_eq : stats.primaryMin = counts.foldl min noMinimum
  max_eq : stats.primaryMax = counts.foldl max 0

/-- The mean of the squares is at least the square of the mean. -/
theorem variance_nonneg {sum square count : Int} (nonneg : 0 ≤ count)
    (bound : sum * sum ≤ count * square) :
    0 ≤ (square : ℚ) / count - ((sum : ℚ) / count) ^ 2 := by
  rcases nonneg.eq_or_lt with rfl | positive
  · simp
  · have positive' : (0 : ℚ) < count := by exact_mod_cast positive
    have bound' : (sum : ℚ) * sum ≤ count * square := by exact_mod_cast bound
    rw [sub_nonneg, div_pow, div_le_div_iff₀ (pow_pos positive' 2) positive']
    calc (sum : ℚ) ^ 2 * count = sum * sum * count := by rw [pow_two]
      _ ≤ count * square * count := mul_le_mul_of_nonneg_right bound' positive'.le
      _ = square * count ^ 2 := by ring

namespace Counted

variable {counts : List Int} {stats : Statistics} (counted : Counted counts stats)

include counted

theorem le_max : ∀ count ∈ counts, count ≤ stats.primaryMax :=
  (foldl_max_le_iff.1 counted.max_eq.ge).2

theorem min_le : ∀ count ∈ counts, stats.primaryMin ≤ count :=
  (le_foldl_min_iff.1 counted.min_eq.le).2

theorem square_nonneg : 0 ≤ stats.primarySquareSum := by
  rw [counted.square_eq]
  refine List.sum_nonneg fun square member => ?_
  obtain ⟨count, -, rfl⟩ := List.mem_map.1 member
  exact mul_self_nonneg count

theorem length_le_sum : (counts.length : Int) ≤ stats.primaryUniqueSum := by
  have bound := List.card_nsmul_le_sum counts 1 counted.positive
  rwa [nsmul_eq_mul, mul_one, ← counted.sum_eq] at bound

theorem sum_le_max : stats.primaryUniqueSum ≤ stats.primaryMax * counts.length := by
  have bound := List.sum_le_card_nsmul counts stats.primaryMax counted.le_max
  rwa [nsmul_eq_mul, mul_comm, ← counted.sum_eq] at bound

theorem min_le_sum : stats.primaryMin * counts.length ≤ stats.primaryUniqueSum := by
  have bound := List.card_nsmul_le_sum counts stats.primaryMin counted.min_le
  rwa [nsmul_eq_mul, mul_comm, ← counted.sum_eq] at bound

theorem sum_le_square : stats.primaryUniqueSum ≤ stats.primarySquareSum := by
  rw [counted.sum_eq, counted.square_eq]
  calc counts.sum = (counts.map id).sum := by rw [List.map_id]
    _ ≤ (counts.map fun count => count * count).sum := List.sum_le_sum fun count member => by
      have positive := counted.positive count member
      exact le_mul_of_one_le_left (zero_le_one.trans positive) positive

theorem square_le_max : stats.primarySquareSum ≤ stats.primaryMax * stats.primaryUniqueSum := by
  rw [counted.sum_eq, counted.square_eq]
  calc (counts.map fun count => count * count).sum
      ≤ (counts.map fun count => stats.primaryMax * count).sum :=
        List.sum_le_sum fun count member => by
          have positive := counted.positive count member
          exact Int.mul_le_mul_of_nonneg_right (counted.le_max count member) (by omega)
    _ = stats.primaryMax * counts.sum := by rw [List.sum_map_mul_left, List.map_id']

theorem consistent : stats.Consistent := by
  have length := counted.intervals_eq
  have zeros := counted.zero_nonneg
  have square := square_sum_le counts
  have low := counted.length_le_sum
  have high := counted.sum_le_max
  have max_nonneg : 0 ≤ stats.primaryMax := (foldl_max_le_iff.1 counted.max_eq.ge).1
  rw [← counted.sum_eq, ← counted.square_eq, ← length] at square
  have square_all : (stats.intervals - stats.zeroIntervals) * stats.primarySquareSum ≤
      stats.intervals * stats.primarySquareSum :=
    Int.mul_le_mul_of_nonneg_right (by omega) counted.square_nonneg
  -- the sum is zero exactly if there are no counts, and so is the maximum
  have sum_iff : stats.primaryUniqueSum = 0 ↔ counts = [] := by
    rw [← List.length_eq_zero_iff]
    constructor
    · omega
    · intro none
      rw [none] at high
      omega
  have max_iff : stats.primaryMax = 0 ↔ counts = [] := by
    constructor
    · intro zero
      rw [zero, zero_mul] at high
      exact sum_iff.1 (by omega)
    · rintro rfl
      exact counted.max_eq
  have none_iff : stats.zeroIntervals = stats.intervals ↔ counts = [] := by
    rw [← List.length_eq_zero_iff]
    omega
  exact
    { zeroIntervals := ⟨zeros, by omega⟩
      square_le := square
      square_le_all := square_all
      variance_nonneg := variance_nonneg (zeros.trans (by omega)) (square.trans square_all)
      sum_le_square := counted.sum_le_square
      square_le_max := counted.square_le_max
      sum_le_max := length ▸ high
      empty_iff_sum := none_iff.trans sum_iff.symm
      empty_iff_max := sum_iff.trans max_iff.symm
      min_of_empty := by
        intro empty
        rw [counted.min_eq, none_iff.1 empty]
        rfl
      min_of_nonempty := by
        intro nonempty
        obtain ⟨count, member⟩ := List.exists_mem_of_ne_nil counts (mt none_iff.2 nonempty)
        refine ⟨?_, (counted.min_le count member).trans (counted.le_max count member),
          length ▸ counted.min_le_sum⟩
        rw [counted.min_eq]
        exact le_foldl_min_iff.2 ⟨by decide, counted.positive⟩ }

end Counted

/-! ### Statistics of sub-intervals -/

/-- The numbers of ids of the sub-intervals that are not empty. -/
def positives (values : List Interval) : List Int :=
  (values.map (·.primaryUnique)).filter (· ≠ 0)

theorem foldl_max_filter {start : Int} (nonneg : 0 ≤ start) (xs : List Int) :
    (xs.filter (· ≠ 0)).foldl max start = xs.foldl max start := by
  induction xs generalizing start with
  | nil => rfl
  | cons x rest ih =>
    by_cases zero : x = 0
    · simpa [zero, max_eq_left nonneg] using ih nonneg
    · simpa [zero] using ih (nonneg.trans (le_max_left start x))

/-- What is zero at zero adds up to the same without the zeros. -/
theorem sum_map_filter (f : Int → Int) (zero : f 0 = 0) (xs : List Int) :
    ((xs.filter (· ≠ 0)).map f).sum = (xs.map f).sum := by
  induction xs with
  | nil => rfl
  | cons x rest ih => by_cases empty : x = 0 <;> simp [empty, zero, ← ih]

theorem counted_ofIntervals (size : Int) {values : List Interval}
    (nonneg : ∀ value ∈ values, 0 ≤ value.primaryUnique) :
    Counted (positives values) (ofIntervals size values.length values) where
  positive := by
    intro count member
    obtain ⟨among, nonzero⟩ := List.mem_filter.1 member
    obtain ⟨value, there, rfl⟩ := List.mem_map.1 among
    have low := nonneg value there
    have apart := of_decide_eq_true nonzero
    omega
  zero_nonneg := Int.natCast_nonneg _
  intervals_eq := by
    have split := List.length_eq_countP_add_countP
      (fun value : Interval => decide (value.primaryUnique = 0)) (l := values)
    have others : (positives values).length =
        values.countP fun value => decide ¬decide (value.primaryUnique = 0) = true := by
      rw [positives, ← List.countP_eq_length_filter, List.countP_map]
      simp [Function.comp_def]
    simp only [ofIntervals]
    omega
  sum_eq := by
    have same := sum_map_filter id rfl (values.map (·.primaryUnique))
    rw [List.map_id, List.map_id] at same
    exact same.symm
  square_eq := by
    have same := sum_map_filter (fun unique => unique * unique) rfl (values.map (·.primaryUnique))
    rw [List.map_map] at same
    exact same.symm
  min_eq := rfl
  max_eq := (foldl_max_filter le_rfl _).symm

/-! ### Runs -/

/-- No number of primary ids stands behind the end of a shorter list, so each belongs to a
sub-interval. -/
def IsWhole (rollup : Rollup) : Prop := rollup.primaryUnique.length ≤ rollup.intervals.length

theorem IsWhole.map_primaryUnique {rollup : Rollup} (whole : IsWhole rollup) :
    rollup.intervals.map (·.primaryUnique) = rollup.primaryUnique := by
  have fields : rollup.intervals.map (·.primaryUnique) =
      ((rollup.primaryUnique.zip rollup.primaryTotal).zip
        (rollup.secondaryUnique.zip rollup.secondaryTotal)).map (Prod.fst ∘ Prod.fst) := by
    rw [Rollup.intervals, Interval.zip, List.map_map]
    rfl
  simp only [IsWhole, Rollup.intervals, Interval.zip, List.length_map, List.length_zip] at whole
  rw [fields, ← List.map_map, List.map_fst_zip (by simp only [List.length_zip]; omega),
    List.map_fst_zip (by omega)]

/-- A summary whose four lists are equally long, with no negative numbers of ids. -/
structure Balanced (rollup : Rollup) : Prop where
  primaryTotal : rollup.primaryTotal.length = rollup.primaryUnique.length
  secondaryUnique : rollup.secondaryUnique.length = rollup.primaryUnique.length
  secondaryTotal : rollup.secondaryTotal.length = rollup.primaryUnique.length
  nonneg : ∀ unique ∈ rollup.primaryUnique, 0 ≤ unique

theorem Balanced.isWhole {rollup : Rollup} (balanced : Balanced rollup) : IsWhole rollup := by
  simp [IsWhole, Rollup.intervals, Interval.zip, balanced.primaryTotal, balanced.secondaryUnique,
    balanced.secondaryTotal]

theorem Balanced.map_primaryUnique {rollup : Rollup} (balanced : Balanced rollup) :
    rollup.intervals.map (·.primaryUnique) = rollup.primaryUnique :=
  balanced.isWhole.map_primaryUnique

/-- New statistics of a size that absorbed some summaries. -/
def ofRollups (size : Int) (rollups : List Rollup) : Statistics :=
  rollups.foldl absorbRollup { size }

theorem ofRollups_of_isWhole (size : Int) {rollups : List Rollup}
    (whole : ∀ rollup ∈ rollups, IsWhole rollup) :
    ofRollups size rollups =
      ofIntervals size (rollups.flatMap Rollup.intervals).length
        (rollups.flatMap Rollup.intervals) := by
  induction rollups using List.reverseRecOn with
  | nil => rfl
  | append_singleton rollups rollup ih =>
    have last := whole rollup (List.mem_append_right _ List.mem_cons_self)
    have length : rollup.primaryUnique.length = rollup.intervals.length := by
      rw [← last.map_primaryUnique, List.length_map]
    have before := ih fun rollup member => whole rollup (List.mem_append_left _ member)
    rw [ofRollups, List.foldl_concat, ← ofRollups, before, absorbRollup_ofIntervals, length,
      List.flatMap_append, List.flatMap_singleton, List.length_append, Nat.cast_add]

theorem ofRollups_eq (size : Int) {rollups : List Rollup}
    (balanced : ∀ rollup ∈ rollups, Balanced rollup) :
    ofRollups size rollups =
      ofIntervals size (rollups.flatMap Rollup.intervals).length
        (rollups.flatMap Rollup.intervals) :=
  ofRollups_of_isWhole size fun rollup member => (balanced rollup member).isWhole

/-- However many summaries were absorbed, the statistics are consistent. -/
theorem consistent_ofRollups (size : Int) {rollups : List Rollup}
    (balanced : ∀ rollup ∈ rollups, Balanced rollup) : (ofRollups size rollups).Consistent := by
  rw [ofRollups_eq size balanced]
  refine (counted_ofIntervals size fun value member => ?_).consistent
  obtain ⟨rollup, among, there⟩ := List.mem_flatMap.1 member
  have sound := balanced rollup among
  exact sound.nonneg _ (sound.map_primaryUnique ▸ List.mem_map_of_mem there)

/-- A summary without ids, and two with some: the minimum is left alone by the first, and the zeros
of the others do not count for it. -/
theorem consistent_ofRollups_sparse :
    let empty : Rollup := ⟨6, [0, 0], [0, 0], [0, 1], [0, 4]⟩
    let rollups : List Rollup :=
      [empty, ⟨6, [0, 3], [0, 5], [2, 0], [2, 0]⟩, ⟨6, [1, 0], [7, 0], [0, 0], [0, 0]⟩]
    let stats := ofRollups 6 rollups
    (∀ rollup ∈ rollups, Balanced rollup) ∧
      (stats.intervals, stats.zeroIntervals, stats.primaryUniqueSum, stats.primarySquareSum,
        stats.primaryMin, stats.primaryMax) = (6, 4, 4, 10, 1, 3) ∧
      stats.Consistent ∧ (ofRollups 6 [empty]).primaryMin = noMinimum := by
  intro empty rollups stats
  have balanced : ∀ rollup ∈ rollups, Balanced rollup := by
    intro rollup member
    simp only [rollups, List.mem_cons, List.not_mem_nil, or_false] at member
    rcases member with rfl | rfl | rfl <;> exact ⟨rfl, rfl, rfl, by decide⟩
  have alone : ∀ rollup ∈ [empty], Balanced rollup := fun rollup member =>
    balanced rollup (List.mem_singleton.1 member ▸ List.mem_cons_self)
  exact ⟨balanced, by decide, consistent_ofRollups 6 balanced,
    (consistent_ofRollups 6 alone).min_of_empty (by decide)⟩

/-- What the closed windows of some arrivals add up to is consistent. -/
theorem consistent_batch {slots size : Int} (wide : 0 ≤ slots) (positive : 1 ≤ size)
    (closed : List Int) (arrivals : List Arrival) :
    (batch slots closed arrivals size).Consistent := by
  have length : (closed.length : Int) * (slots / size) =
      (closed.flatMap (Arrivals.intervals slots size arrivals)).length := by
    have parts : 0 ≤ slots / size := Int.ediv_nonneg wide (by omega)
    simp [List.length_flatMap, Arrivals.intervals, List.sum_replicate, parts]
  rw [batch, length]
  refine (counted_ofIntervals size fun value member => ?_).consistent
  obtain ⟨start, -, among⟩ := List.mem_flatMap.1 member
  obtain ⟨i, -, rfl⟩ := List.mem_map.1 among
  exact Int.natCast_nonneg _

end Statistics

/-- The statistics of a tracker are consistent after every run. -/
theorem Ledger.consistent_ofCalls (source : String) {config : Config} (accepted : config.Accepted)
    (calls : List Call) :
    ∀ stats ∈ (ofCalls source config calls).tracker.statistics, stats.Consistent := by
  have sound : (ofCalls source config calls).Sound source config := sound_ofCalls accepted calls
  have wide : 0 ≤ config.slots := zero_le_one.trans accepted.slots
  intro stats member
  rw [sound.statistics_eq] at member
  obtain ⟨size, known, rfl⟩ := List.mem_map.1 member
  exact Statistics.consistent_batch wide (accepted.one_le_size size known) _ _

end ArrivalRates
