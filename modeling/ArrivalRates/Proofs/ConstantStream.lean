import ArrivalRates.Proofs.Moments
import ArrivalRates.Proofs.Rounding

/-!
# A constant stream has no deviation

The variance is the difference of two numbers that were rounded apart from each other, which usually
leaves something over. If every sub-interval has the same number of ids, both round the square of
that number: the mean is the number itself, because whole numbers up to `2 ^ 53` are data, so the
square of the mean is rounded from the exact square, and the quotient of the squares is that exact
square before it is rounded.
-/

namespace ArrivalRates

namespace Binary64

/-! ### Whole numbers -/

theorem rounded_natCast_of_le {n : Nat} (small : n ≤ 2 ^ 53) : rounded n = n := by
  rcases small.lt_or_eq with below | rfl
  · exact rounded_natCast below
  · decide +kernel

/-- A whole number up to `2 ^ 53` under no sign is a datum of its own value. -/
theorem toRat?_roundMagnitude_natCast {n : Nat} (small : n ≤ 2 ^ 53) :
    (roundMagnitude false n).toRat? = some (n : Rat) := by
  have finite : (n : Rat) < overflowBound := by
    have bound : (n : Rat) ≤ 2 ^ 53 := by exact_mod_cast small
    have large := two_pow_lt_overflowBound
    linarith
  rw [toRat?_roundMagnitude false (by positivity) finite, rounded_natCast_of_le small]
  rfl

theorem ofInt_natCast (n : Nat) : ofInt n = roundMagnitude false n := by
  have nonneg : ¬(n : Rat) < 0 := not_lt.2 (by positivity)
  simp [ofInt, ofRat, magnitude, nonneg]

/-- Multiplying a datum by itself rounds the square of its value. -/
theorem mul_self {x : Binary64} {q : Rat} (value : x.toRat? = some q) :
    x.mul x = roundMagnitude false (q * q) := by
  cases x with
  | nan | infinity => cases value
  | finite negative mantissa exponent =>
    obtain rfl := Option.some.inj value
    cases negative <;> simp [mul]

theorem sub_self {x : Binary64} {q : Rat} (value : x.toRat? = some q) : x.sub x = zero false := by
  cases x with
  | nan | infinity => cases value
  | finite negative mantissa exponent =>
    cases negative <;> simp [sub, neg, add, toRat?]

theorem sqrt_max_zero : ((zero false).max (zero false)).sqrt = zero false := by decide +kernel

/-- A multiple of the divisor is divided exactly before the one rounding. -/
theorem quotient_mul {n : Int} (positive : 0 < n) (m : Nat) :
    Binary64.quotient (n * m) n = roundMagnitude false m := by
  have divisor : (0 : Rat) < n := by exact_mod_cast positive
  have dividend : ¬n * m < 0 := not_lt.2 (mul_nonneg positive.le m.cast_nonneg)
  have exact : magnitude ((n * m : Int) : Rat) / magnitude (n : Rat) = m := by
    rw [magnitude_eq_abs, magnitude_eq_abs, ← abs_div]
    push_cast
    rw [mul_div_cancel_left₀ _ divisor.ne']
    exact abs_of_nonneg m.cast_nonneg
  rw [Binary64.quotient, exact, decide_eq_false dividend, decide_eq_false positive.not_gt]
  rfl

end Binary64

open Binary64

namespace Statistics

/-- As many equal numbers of ids as there are sub-intervals. -/
theorem ofRollups_constant (size : Int) {u : Int} {rollups : List Rollup}
    (whole : ∀ rollup ∈ rollups, IsWhole rollup)
    (constant : ∀ rollup ∈ rollups, ∀ unique ∈ rollup.primaryUnique, unique = u) :
    let stats := ofRollups size rollups
    stats.intervals = (rollups.flatMap (·.primaryUnique)).length ∧
      stats.primaryUniqueSum = stats.intervals * u ∧
      stats.primarySquareSum = stats.intervals * (u * u) := by
  intro stats
  have uniques : (rollups.flatMap Rollup.intervals).map (·.primaryUnique) =
      rollups.flatMap (·.primaryUnique) := by
    rw [List.map_flatMap]
    exact List.flatMap_congr fun rollup member => (whole rollup member).map_primaryUnique
  have all : rollups.flatMap (·.primaryUnique) =
      List.replicate (rollups.flatMap (·.primaryUnique)).length u := by
    refine List.eq_replicate_iff.2 ⟨rfl, fun unique member => ?_⟩
    obtain ⟨rollup, among, there⟩ := List.mem_flatMap.1 member
    exact constant rollup among unique there
  have squares : (rollups.flatMap Rollup.intervals).map
      (fun value => value.primaryUnique * value.primaryUnique) =
        (rollups.flatMap (·.primaryUnique)).map fun unique => unique * unique := by
    rw [← uniques, List.map_map]
    rfl
  have length := congrArg List.length uniques
  rw [List.length_map] at length
  have eq := ofRollups_of_isWhole size whole
  simp only [stats, eq, ofIntervals, uniques, squares, length]
  rw [all]
  simp

/-- The mean of as many equal numbers as there are is the number, and what is left of the squares is
nothing, also where the square is past the numbers that binary64 holds exactly. -/
theorem moments_of_constant {stats : Statistics} {n : Nat} (small : n ≤ 2 ^ 53)
    (positive : 0 < stats.intervals) (sum : stats.primaryUniqueSum = stats.intervals * n)
    (squares : stats.primarySquareSum = stats.intervals * (n * n : Nat)) :
    stats.primaryMean = .ok (ofInt n) ∧ stats.primaryVariance = .ok (zero false) := by
  have value := toRat?_roundMagnitude_natCast small
  have mean : stats.primaryMean = .ok (roundMagnitude false n) := by
    rw [primaryMean, Statistics.mean, if_neg positive.ne', sum, ← quotient_mul positive]
    rw [← quotient_mul positive] at value
    exact quotient_eq_ok positive.ne' value
  have square : ∃ q, (roundMagnitude false (n * n : Nat)).toRat? = some q := by
    have finite : ((n * n : Nat) : Rat) < overflowBound := by
      have bound : ((n * n : Nat) : Rat) ≤ (2 ^ 53 * 2 ^ 53 : Nat) := by
        exact_mod_cast Nat.mul_le_mul small small
      refine (bound.trans_lt ?_).trans two_pow_lt_overflowBound
      norm_num
    exact ⟨_, toRat?_roundMagnitude false (by positivity) finite⟩
  obtain ⟨q, square⟩ := square
  have quotient_eq : quotient stats.primarySquareSum stats.intervals =
      .ok (roundMagnitude false (n * n : Nat)) := by
    rw [squares, ← quotient_mul positive]
    rw [← quotient_mul positive] at square
    exact quotient_eq_ok positive.ne' square
  have product : (roundMagnitude false n).mul (roundMagnitude false n) =
      roundMagnitude false (n * n : Nat) := by
    rw [mul_self value]
    push_cast
    rfl
  refine ⟨by rw [mean, ofInt_natCast], ?_⟩
  simp only [primaryVariance, if_neg positive.ne', mean, quotient_eq, bind, Except.bind, product,
    sub_self square]
  rfl

/-- Sub-intervals that all have the same number of ids, at least one of them, in any number of
calls: the mean is that number, and variance and deviation are exactly zero. -/
theorem deviation_of_constant (size : Int) {u : Int} (nonneg : 0 ≤ u) (small : u ≤ 2 ^ 53)
    {rollups : List Rollup} (whole : ∀ rollup ∈ rollups, IsWhole rollup)
    (constant : ∀ rollup ∈ rollups, ∀ unique ∈ rollup.primaryUnique, unique = u)
    (nonempty : ∃ rollup ∈ rollups, rollup.primaryUnique ≠ []) :
    let stats := ofRollups size rollups
    stats.primaryMean = .ok (ofInt u) ∧ (ofInt u).toRat? = some (u : Rat) ∧
      stats.primaryVariance = .ok (zero false) ∧ stats.primaryDeviation = .ok (zero false) := by
  intro stats
  obtain ⟨n, rfl⟩ := Int.eq_ofNat_of_zero_le nonneg
  have small : n ≤ 2 ^ 53 := by exact_mod_cast small
  obtain ⟨count, sum, squares⟩ := ofRollups_constant size whole constant
  have positive : 0 < stats.intervals := by
    obtain ⟨rollup, among, some⟩ := nonempty
    obtain ⟨unique, there⟩ := List.exists_mem_of_ne_nil _ some
    have member : unique ∈ rollups.flatMap (·.primaryUnique) :=
      List.mem_flatMap.2 ⟨rollup, among, there⟩
    rw [show stats.intervals = _ from count]
    exact_mod_cast List.length_pos_of_mem member
  obtain ⟨mean, variance⟩ :=
    moments_of_constant small positive sum (by rw [squares]; push_cast; rfl)
  refine ⟨mean, ?_, variance, ?_⟩
  · rw [ofInt_natCast]
    exact toRat?_roundMagnitude_natCast small
  · simp only [primaryDeviation, variance, bind, Except.bind, pure, Except.pure, sqrt_max_zero]

/-- A number whose square is no datum, over three sub-intervals in two calls with an empty one in
between. -/
theorem deviation_of_constant_large :
    let u : Int := 9007199254740991
    let rollups : List Rollup := [⟨6, [u], [u], [0], [0]⟩, ⟨6, [], [], [], []⟩,
      ⟨6, [u, u], [u, u], [1, 0], [1, 0]⟩]
    let stats := ofRollups 6 rollups
    (∀ rollup ∈ rollups, IsWhole rollup) ∧ stats.intervals = 3 ∧
      stats.primaryMean = .ok (ofInt u) ∧ (ofInt u).toRat? = some 9007199254740991 ∧
      stats.primaryVariance = .ok (zero false) ∧ stats.primaryDeviation = .ok (zero false) := by
  intro u rollups stats
  have whole : ∀ rollup ∈ rollups, IsWhole rollup := by
    simp [rollups, IsWhole, Rollup.intervals, Interval.zip]
  have constant : ∀ rollup ∈ rollups, ∀ unique ∈ rollup.primaryUnique, unique = u := by
    decide
  obtain ⟨mean, value, variance, deviation⟩ := deviation_of_constant 6 (by decide) (by decide)
    whole constant ⟨_, List.mem_cons_self, List.cons_ne_nil u []⟩
  exact ⟨whole, by decide, mean, value, variance, deviation⟩

end Statistics

end ArrivalRates
