import ArrivalRates.Binary64.Decimal
import Mathlib.Algebra.Order.Field.Power
import Mathlib.Algebra.Order.Field.Rat
import Mathlib.Tactic.Linarith
import Mathlib.Tactic.NormNum.Pow
import Mathlib.Tactic.Positivity
import Mathlib.Tactic.Ring

/-!
# How far rounding goes

Every operation on binary64 numbers is an exact value followed by one rounding, so one bound on that
rounding is enough: the datum differs from the exact value by at most `slack` of it, and a whole
number of 53 bits is not changed at all. Values below `overflowBound` have a finite datum.
-/

namespace ArrivalRates

/-! ### The nearest integer -/

theorem abs_nearestInt_sub_le (q : Rat) : |(nearestInt q : Rat) - q| ≤ 1 / 2 := by
  have low := Rat.floor_le q
  have high := Rat.lt_floor_add_one q
  push_cast at high
  unfold nearestInt
  simp only
  split
  next below => rw [abs_le]; constructor <;> linarith
  next notBelow =>
    split
    next above => push_cast; rw [abs_le]; constructor <;> linarith
    next notAbove =>
      have tie : q - q.floor = 1 / 2 := by linarith
      rcases Int.emod_two_eq q.floor with even | odd
      · rw [even, Int.add_zero, abs_le]; constructor <;> linarith
      · rw [odd]; push_cast; rw [abs_le]; constructor <;> linarith

@[simp] theorem nearestInt_intCast (n : Int) : nearestInt n = n := by
  simp [nearestInt]

theorem nearestInt_nonneg {q : Rat} (nonneg : 0 ≤ q) : 0 ≤ nearestInt q := by
  have close := abs_le.1 (abs_nearestInt_sub_le q)
  have above : ((-1 : Int) : Rat) < nearestInt q := by push_cast; linarith
  have := Rat.intCast_lt_intCast.1 above
  omega

theorem nearestInt_le {q : Rat} {n : Int} (le : q ≤ n) : nearestInt q ≤ n := by
  have close := abs_le.1 (abs_nearestInt_sub_le q)
  have below : (nearestInt q : Rat) < ((n + 1 : Int) : Rat) := by push_cast; linarith
  have := Rat.intCast_lt_intCast.1 below
  omega

namespace Binary64

/-! ### The exponent -/

private theorem two_zpow_log2 {n : Nat} (positive : n ≠ 0) :
    (2 : Rat) ^ (Nat.log2 n : Int) ≤ n ∧ (n : Rat) < 2 ^ ((Nat.log2 n : Int) + 1) := by
  have low : ((2 ^ Nat.log2 n : Nat) : Rat) ≤ n := by exact_mod_cast Nat.log2_self_le positive
  have high : (n : Rat) < ((2 ^ (Nat.log2 n + 1) : Nat) : Rat) := by
    exact_mod_cast Nat.lt_log2_self
  push_cast at low high
  exact ⟨by exact_mod_cast low, by exact_mod_cast high⟩

theorem floorLog2_spec {q : Rat} (positive : 0 < q) :
    (2 : Rat) ^ floorLog2 q ≤ q ∧ q < 2 ^ (floorLog2 q + 1) := by
  have num_pos : 0 < q.num := Rat.num_pos.2 positive
  have den_pos : (0 : Rat) < q.den := by exact_mod_cast q.den_pos
  have fraction : q * q.den = q.num.toNat := by
    have whole : ((q.num.toNat : Int) : Rat) = q.num := by rw [Int.toNat_of_nonneg num_pos.le]
    rw [Rat.mul_den_eq_num, ← whole, Int.cast_natCast]
  obtain ⟨num_low, num_high⟩ := two_zpow_log2 (n := q.num.toNat) (by omega)
  obtain ⟨den_low, den_high⟩ := two_zpow_log2 q.den_nz
  rw [← fraction] at num_low num_high
  unfold floorLog2
  generalize (Nat.log2 q.num.toNat : Int) = a at num_low num_high ⊢
  generalize (Nat.log2 q.den : Int) = b at den_low den_high ⊢
  -- the logarithms of numerator and denominator leave two candidates, which the test tells apart
  have low : (2 : Rat) ^ (a - b - 1) < q := by
    refine lt_of_mul_lt_mul_right ?_ den_pos.le
    calc (2 : Rat) ^ (a - b - 1) * q.den < 2 ^ (a - b - 1) * 2 ^ (b + 1) :=
          mul_lt_mul_of_pos_left den_high (by positivity)
      _ = 2 ^ a := by rw [← zpow_add₀ two_ne_zero]; congr 1; omega
      _ ≤ q * q.den := num_low
  have high : q < (2 : Rat) ^ (a - b + 1) := by
    refine lt_of_mul_lt_mul_right ?_ den_pos.le
    calc q * q.den < 2 ^ (a + 1) := num_high
      _ = 2 ^ (a - b + 1) * 2 ^ b := by rw [← zpow_add₀ two_ne_zero]; congr 1; omega
      _ ≤ 2 ^ (a - b + 1) * q.den := mul_le_mul_of_nonneg_left den_low (by positivity)
  simp only
  split
  next below => exact ⟨low.le, by rwa [Int.sub_add_cancel]⟩
  next above => exact ⟨not_lt.1 above, high⟩

/-! ### One rounding -/

/-- The datum that a magnitude is rounded to, were there no largest one. -/
def rounded (q : Rat) : Rat :=
  nearestInt (q / (2 : Rat) ^ quantumExponent q) * (2 : Rat) ^ quantumExponent q

@[irreducible] def leastQuantum : Rat := 2 ^ minExponent

/-- How far the datum of a magnitude can be from it. -/
def slack (q : Rat) : Rat := q / 2 ^ 53 + leastQuantum / 2

/-- Magnitudes below it have a finite datum. -/
@[irreducible] def overflowBound : Rat := 2 ^ (1023 : Int)

theorem leastQuantum_pos : 0 < leastQuantum := by
  rw [leastQuantum]
  positivity

theorem leastQuantum_le : leastQuantum ≤ 1 / 2 ^ 53 := by
  have order : minExponent ≤ -53 := by decide
  rw [leastQuantum]
  calc (2 : Rat) ^ minExponent ≤ 2 ^ (-53 : Int) := zpow_le_zpow_right₀ one_le_two order
    _ = 1 / 2 ^ 53 := by norm_num

theorem two_pow_lt_overflowBound : (2 : Rat) ^ 200 < overflowBound := by
  have order : (200 : Int) < 1023 := by decide
  rw [overflowBound]
  calc (2 : Rat) ^ 200 = 2 ^ (200 : Int) := by norm_num
    _ < _ := zpow_lt_zpow_right₀ one_lt_two order

private theorem quantum_pos (q : Rat) : (0 : Rat) < 2 ^ quantumExponent q := by positivity

private theorem quantum_le {q : Rat} (positive : 0 < q) :
    (2 : Rat) ^ quantumExponent q ≤ q / 2 ^ 52 + leastQuantum := by
  unfold quantumExponent
  rcases max_choice (floorLog2 q - ((precision - 1 : Nat) : Int)) minExponent with large | small
  · have size : (2 : Rat) ^ (floorLog2 q - ((precision - 1 : Nat) : Int)) =
        2 ^ floorLog2 q / 2 ^ 52 := by
      rw [zpow_sub₀ two_ne_zero]
      rfl
    have part : (2 : Rat) ^ floorLog2 q / 2 ^ 52 ≤ q / 2 ^ 52 :=
      div_le_div_of_nonneg_right (floorLog2_spec positive).1 (by positivity)
    have least := leastQuantum_pos
    rw [large, size]
    linarith only [part, least]
  · have rest : (0 : Rat) ≤ q / 2 ^ 52 := by positivity
    rw [small, ← leastQuantum]
    linarith only [rest]

theorem rounded_zero : rounded 0 = 0 := by
  have zero : nearestInt 0 = 0 := nearestInt_intCast 0
  rw [rounded, zero_div, zero, Int.cast_zero, zero_mul]

/-- One rounding goes at most half as far as the data around the magnitude are apart. -/
theorem abs_rounded_sub_le_half (q : Rat) : |rounded q - q| ≤ 2 ^ quantumExponent q / 2 := by
  have unit := quantum_pos q
  have scaled : rounded q - q = (nearestInt (q / 2 ^ quantumExponent q)
      - q / 2 ^ quantumExponent q) * 2 ^ quantumExponent q := by
    rw [sub_mul, div_mul_cancel₀ _ unit.ne', rounded]
  calc |rounded q - q| = |(nearestInt (q / 2 ^ quantumExponent q) : Rat)
        - q / 2 ^ quantumExponent q| * 2 ^ quantumExponent q := by
        rw [scaled, abs_mul, abs_of_pos unit]
    _ ≤ 1 / 2 * 2 ^ quantumExponent q :=
        mul_le_mul_of_nonneg_right (abs_nearestInt_sub_le _) unit.le
    _ = 2 ^ quantumExponent q / 2 := one_div_mul_eq_div _ _

theorem abs_rounded_sub_le {q : Rat} (nonneg : 0 ≤ q) : |rounded q - q| ≤ slack q := by
  rcases nonneg.eq_or_lt with rfl | positive
  · have least := leastQuantum_pos
    rw [rounded_zero, sub_zero, abs_zero, slack]
    positivity
  · calc |rounded q - q| ≤ 2 ^ quantumExponent q / 2 := abs_rounded_sub_le_half q
      _ ≤ (q / 2 ^ 52 + leastQuantum) / 2 :=
          div_le_div_of_nonneg_right (quantum_le positive) (by norm_num)
      _ = slack q := by rw [slack]; ring

/-- Below a power of two, rounding goes at most as far as half the spacing just below it. -/
theorem abs_rounded_sub_le_of_lt {q : Rat} {k : Int} (nonneg : 0 ≤ q) (small : q < 2 ^ k)
    (normal : -1021 ≤ k) : |rounded q - q| ≤ 2 ^ (k - 54) := by
  rcases nonneg.eq_or_lt with rfl | positive
  · rw [rounded_zero, sub_zero, abs_zero]
    positivity
  · have log : floorLog2 q < k :=
      (zpow_lt_zpow_iff_right₀ one_lt_two).1 ((floorLog2_spec positive).1.trans_lt small)
    have exponent : quantumExponent q ≤ k - 53 := by
      rw [quantumExponent, precision, minExponent]
      omega
    calc |rounded q - q| ≤ 2 ^ quantumExponent q / 2 := abs_rounded_sub_le_half q
      _ = 2 ^ (quantumExponent q - 1) := (zpow_sub_one₀ two_ne_zero _).symm
      _ ≤ 2 ^ (k - 54) := zpow_le_zpow_right₀ one_le_two (by omega)

/-- Magnitudes of 53 bits lie on a grid that has all whole numbers. -/
private theorem quantumExponent_eq_neg {q : Rat} (positive : 0 < q) (small : q < 2 ^ 53) :
    ∃ k : Nat, quantumExponent q = -k := by
  have spec := floorLog2_spec positive
  have log : floorLog2 q ≤ 52 := by
    have bound : (2 : Rat) ^ floorLog2 q < 2 ^ (53 : Int) := by
      refine spec.1.trans_lt ?_
      exact_mod_cast small
    have := (zpow_lt_zpow_iff_right₀ (one_lt_two (α := Rat))).1 bound
    omega
  refine ⟨(-quantumExponent q).toNat, ?_⟩
  have low : quantumExponent q ≤ 0 := by
    rw [quantumExponent, precision, minExponent]
    omega
  omega

/-- Rounding does not carry a magnitude past a whole number of 53 bits. -/
theorem rounded_le_natCast {q : Rat} {n : Nat} (nonneg : 0 ≤ q) (le : q ≤ n) (small : n < 2 ^ 53) :
    rounded q ≤ n := by
  rcases nonneg.eq_or_lt with rfl | positive
  · rw [rounded_zero]
    exact le
  · obtain ⟨k, exponent⟩ := quantumExponent_eq_neg positive (le.trans_lt (by exact_mod_cast small))
    have whole : (n : Rat) / 2 ^ quantumExponent q = ((n * 2 ^ k : Nat) : Int) := by
      rw [exponent, zpow_neg, div_inv_eq_mul]
      push_cast
      rfl
    have scaled : q / (2 : Rat) ^ quantumExponent q ≤ ((n * 2 ^ k : Nat) : Int) :=
      whole ▸ div_le_div_of_nonneg_right le (quantum_pos q).le
    calc rounded q = nearestInt (q / 2 ^ quantumExponent q) * 2 ^ quantumExponent q := rfl
      _ ≤ ((n * 2 ^ k : Nat) : Int) * 2 ^ quantumExponent q :=
          mul_le_mul_of_nonneg_right (by exact_mod_cast nearestInt_le scaled) (quantum_pos q).le
      _ = n := by rw [← whole, div_mul_cancel₀ _ (quantum_pos q).ne']

/-- A whole number of 53 bits is its own datum. -/
theorem rounded_natCast {n : Nat} (small : n < 2 ^ 53) : rounded n = n := by
  rcases Nat.eq_zero_or_pos n with rfl | positive
  · exact_mod_cast rounded_zero
  · obtain ⟨k, exponent⟩ := quantumExponent_eq_neg (q := n) (by exact_mod_cast positive)
      (by exact_mod_cast small)
    have whole : (n : Rat) / 2 ^ quantumExponent n = ((n * 2 ^ k : Nat) : Int) := by
      rw [exponent, zpow_neg, div_inv_eq_mul]
      push_cast
      rfl
    rw [rounded, whole, nearestInt_intCast, ← whole, div_mul_cancel₀ _ (quantum_pos _).ne']

theorem rounded_nonneg {q : Rat} (nonneg : 0 ≤ q) : 0 ≤ rounded q := by
  have mantissa : 0 ≤ nearestInt (q / 2 ^ quantumExponent q) :=
    nearestInt_nonneg (div_nonneg nonneg (quantum_pos q).le)
  exact mul_nonneg (by exact_mod_cast mantissa) (quantum_pos q).le

def signed (negative : Bool) (q : Rat) : Rat := if negative then -q else q

theorem pack_cases (negative : Bool) (mantissa : Nat) (exponent : Int) :
    (pack negative mantissa exponent = infinity negative ∧ maxExponent ≤ exponent) ∨
      (pack negative mantissa exponent).toRat? =
        some (signed negative (mantissa * 2 ^ exponent)) := by
  unfold pack
  by_cases carried : mantissa = 2 * leadingBit
  -- carrying to the next exponent does not change the value
  · have value : ((leadingBit : Nat) : Rat) * 2 ^ (exponent + 1) = mantissa * 2 ^ exponent := by
      rw [carried, zpow_add_one₀ two_ne_zero]
      push_cast
      ring
    by_cases large : maxExponent < exponent + 1
    · left
      exact ⟨by simp only [if_pos carried, if_pos large], by omega⟩
    · right
      simp only [if_pos carried, if_neg large, toRat?, value, signed]
  · by_cases large : maxExponent < exponent
    · left
      exact ⟨by simp only [if_neg carried, if_pos large], by omega⟩
    · right
      simp only [if_neg carried, if_neg large, toRat?, signed]

theorem roundMagnitude_cases (negative : Bool) {q : Rat} (nonneg : 0 ≤ q) :
    (roundMagnitude negative q = infinity negative ∧ overflowBound ≤ q) ∨
      (roundMagnitude negative q).toRat? = some (signed negative (rounded q)) := by
  unfold roundMagnitude
  rcases nonneg.eq_or_lt with rfl | positive
  · right
    rw [if_pos le_rfl, rounded_zero]
    simp [zero, toRat?, signed]
  · rw [if_neg (not_le.2 positive)]
    have mantissa_nonneg : 0 ≤ nearestInt (q / 2 ^ quantumExponent q) :=
      nearestInt_nonneg (div_nonneg nonneg (quantum_pos q).le)
    have mantissa : (((nearestInt (q / 2 ^ quantumExponent q)).toNat : Nat) : Rat) =
        nearestInt (q / 2 ^ quantumExponent q) := by
      exact_mod_cast Int.toNat_of_nonneg mantissa_nonneg
    rcases pack_cases negative (nearestInt (q / 2 ^ quantumExponent q)).toNat
      (quantumExponent q) with ⟨overflow, large⟩ | finite
    · refine .inl ⟨overflow, ?_⟩
      have log : 1023 ≤ floorLog2 q := by
        rw [quantumExponent, precision, minExponent, maxExponent] at large
        omega
      rw [overflowBound]
      exact (zpow_le_zpow_right₀ one_le_two log).trans (floorLog2_spec positive).1
    · right
      simp only [finite, mantissa, rounded]

theorem toRat?_roundMagnitude (negative : Bool) {q : Rat} (nonneg : 0 ≤ q)
    (small : q < overflowBound) :
    (roundMagnitude negative q).toRat? = some (signed negative (rounded q)) := by
  rcases roundMagnitude_cases negative nonneg with ⟨-, large⟩ | finite
  · exact absurd large (not_le.2 small)
  · exact finite

/-! ### Operations -/

theorem magnitude_eq_abs (q : Rat) : magnitude q = |q| := by
  unfold magnitude
  split
  next negative => exact (abs_of_neg negative).symm
  next nonneg => exact (abs_of_nonneg (not_lt.1 nonneg)).symm

theorem signed_abs (q : Rat) : signed (decide (q < 0)) |q| = q := by
  by_cases negative : q < 0
  · simp [signed, negative, abs_of_neg negative]
  · simp [signed, negative, abs_of_nonneg (not_lt.1 negative)]

theorem abs_signed (negative : Bool) (q : Rat) : |signed negative q| = |q| := by
  cases negative <;> simp [signed]

theorem signed_sub (negative : Bool) (p q : Rat) :
    signed negative p - signed negative q = signed negative (p - q) := by
  cases negative <;> simp [signed]
  ring

theorem signed_mul (a b : Bool) (p q : Rat) :
    signed a p * signed b q = signed (a ^^ b) (p * q) := by
  cases a <;> cases b <;> simp [signed]

private theorem signed_error (negative : Bool) {q : Rat} (nonneg : 0 ≤ q) :
    |signed negative (rounded q) - signed negative q| ≤ slack |signed negative q| := by
  rw [signed_sub, abs_signed, abs_signed, abs_of_nonneg nonneg]
  exact abs_rounded_sub_le nonneg

theorem ofRat_error {q : Rat} (small : |q| < overflowBound) :
    ∃ r, (ofRat q).toRat? = some r ∧ |r - q| ≤ slack |q| := by
  have error := signed_error (decide (q < 0)) (abs_nonneg q)
  have finite := toRat?_roundMagnitude (decide (q < 0)) (abs_nonneg q) small
  rw [signed_abs] at error
  unfold ofRat
  rw [magnitude_eq_abs]
  exact ⟨_, finite, error⟩

theorem mul_error {x y : Binary64} {p q : Rat} (left : x.toRat? = some p)
    (right : y.toRat? = some q) (small : |p * q| < overflowBound) :
    ∃ r, (x.mul y).toRat? = some r ∧ |r - p * q| ≤ slack |p * q| := by
  cases x with
  | nan | infinity => cases left
  | finite a m e =>
    cases y with
    | nan | infinity => cases right
    | finite b n f =>
      have first : signed a ((m : Rat) * 2 ^ e) = p := Option.some.inj left
      have second : signed b ((n : Rat) * 2 ^ f) = q := Option.some.inj right
      have product : 0 ≤ (m : Rat) * 2 ^ e * ((n : Rat) * 2 ^ f) := by positivity
      rw [← first, ← second, signed_mul, abs_signed, abs_of_nonneg product] at small
      rw [← first, ← second, signed_mul]
      exact ⟨_, toRat?_roundMagnitude (a ^^ b) product small, signed_error (a ^^ b) product⟩

/-- The quotient by a positive integer is finite unless the exact one is too large. -/
theorem quotient_cases (a : Int) {b : Int} (positive : 0 < b) :
    ((∃ negative, quotient a b = infinity negative) ∧ overflowBound ≤ |(a : Rat) / b|) ∨
      (quotient a b).toRat? = some (signed (decide (a < 0)) (rounded |(a : Rat) / b|)) := by
  have sign : (decide (a < 0) ^^ decide (b < 0)) = decide (a < 0) := by
    rw [decide_eq_false (by omega : ¬b < 0), Bool.xor_false]
  have exact : magnitude (a : Rat) / magnitude (b : Rat) = |(a : Rat) / b| := by
    rw [magnitude_eq_abs, magnitude_eq_abs, abs_div]
  unfold quotient
  rw [sign, exact]
  rcases roundMagnitude_cases (decide (a < 0)) (abs_nonneg ((a : Rat) / b)) with large | finite
  · exact .inl ⟨⟨_, large.1⟩, large.2⟩
  · exact .inr finite

/-- The datum of a quotient is as far from it as the rounded size is from the exact one. -/
theorem abs_quotient_sub (a : Int) {b : Int} (positive : 0 < b) :
    let size := |(a : Rat) / b|
    |signed (decide (a < 0)) (rounded size) - a / b| = |rounded size - size| := by
  intro size
  have divisor : (0 : Rat) < b := by exact_mod_cast positive
  have sign : decide (a < 0) = decide ((a : Rat) / b < 0) := by
    rw [decide_eq_decide, div_lt_iff₀ divisor, zero_mul]
    exact_mod_cast Iff.rfl
  have exact : signed (decide (a < 0)) size = a / b := by rw [sign, signed_abs]
  rw [← exact, signed_sub, abs_signed]

theorem quotient_error (a : Int) {b : Int} (positive : 0 < b) :
    |signed (decide (a < 0)) (rounded |(a : Rat) / b|) - a / b| ≤ slack |(a : Rat) / b| :=
  (abs_quotient_sub a positive).trans_le (abs_rounded_sub_le (abs_nonneg _))

/-- A quotient that is at most a whole number of 53 bits is so after rounding. -/
theorem quotient_le {a b : Int} {n : Nat} (nonneg : 0 ≤ a) (positive : 0 < b) (le : a ≤ b * n)
    (small : n < 2 ^ 53) : ∃ r, (quotient a b).toRat? = some r ∧ 0 ≤ r ∧ r ≤ n := by
  have divisor : (0 : Rat) < b := by exact_mod_cast positive
  have exact_nonneg : 0 ≤ (a : Rat) / b := div_nonneg (by exact_mod_cast nonneg) divisor.le
  have exact_le : (a : Rat) / b ≤ n := by
    rw [div_le_iff₀ divisor, mul_comm]
    exact_mod_cast le
  rcases quotient_cases a positive with ⟨-, large⟩ | finite
  · have bound : (n : Rat) < 2 ^ 53 := by exact_mod_cast small
    have top := two_pow_lt_overflowBound
    rw [abs_of_nonneg exact_nonneg] at large
    linarith
  · rw [abs_of_nonneg exact_nonneg, decide_eq_false (not_lt.2 nonneg)] at finite
    exact ⟨_, finite, rounded_nonneg exact_nonneg, rounded_le_natCast exact_nonneg exact_le small⟩

/-- Rounding to decimal places leaves a value between zero and a whole number there. -/
theorem roundPlaces_le {x : Binary64} {r : Rat} {n : Nat} (value : x.toRat? = some r)
    (nonneg : 0 ≤ r) (le : r ≤ n) (small : n < 2 ^ 53) (places : Nat) :
    ∃ s, (x.roundPlaces places).toRat? = some s ∧ 0 ≤ s ∧ s ≤ n := by
  cases x with
  | nan | infinity => cases value
  | finite negative mantissa exponent =>
    have signed_eq : signed negative ((mantissa : Rat) * 2 ^ exponent) = r := Option.some.inj value
    have size_nonneg : 0 ≤ (mantissa : Rat) * 2 ^ exponent := by positivity
    have size : (mantissa : Rat) * 2 ^ exponent = r := by
      rw [← abs_of_nonneg nonneg, ← signed_eq, abs_signed, abs_of_nonneg size_nonneg]
    have power : (0 : Rat) < 10 ^ places := by positivity
    have low : 0 ≤ nearestInt (r * 10 ^ places) := nearestInt_nonneg (mul_nonneg nonneg power.le)
    have high : nearestInt (r * 10 ^ places) ≤ ((n * 10 ^ places : Nat) : Int) := by
      apply nearestInt_le
      push_cast
      exact mul_le_mul_of_nonneg_right le power.le
    have decimal_nonneg : 0 ≤ (nearestInt (r * 10 ^ places) : Rat) / 10 ^ places :=
      div_nonneg (by exact_mod_cast low) power.le
    have decimal_le : (nearestInt (r * 10 ^ places) : Rat) / 10 ^ places ≤ n := by
      rw [div_le_iff₀ power]
      exact_mod_cast high
    have finite : (n : Rat) < overflowBound := by
      have bound : (n : Rat) < 2 ^ 53 := by exact_mod_cast small
      have large := two_pow_lt_overflowBound
      linarith
    have datum := toRat?_roundMagnitude negative decimal_nonneg (decimal_le.trans_lt finite)
    rw [roundPlaces, size, datum]
    refine ⟨_, rfl, ?_⟩
    cases negative with
    | false =>
      exact ⟨rounded_nonneg decimal_nonneg, rounded_le_natCast decimal_nonneg decimal_le small⟩
    | true =>
      -- only zero has the sign of a negative number here
      have zero : r = 0 := by
        rw [size, signed, if_pos rfl] at signed_eq
        linarith
      have none : nearestInt (r * 10 ^ places) = 0 := by
        rw [zero, zero_mul]
        exact nearestInt_intCast 0
      rw [none, Int.cast_zero, zero_div, rounded_zero, signed, if_pos rfl, neg_zero]
      exact ⟨le_rfl, by positivity⟩

end Binary64

end ArrivalRates
