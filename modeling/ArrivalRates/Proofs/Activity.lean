import ArrivalRates.Proofs.Kinds

/-!
# What counts as no activity

A sub-interval counts as empty when it has no id of the primary kind. The secondary kind is not
looked at: it is taken for granted that secondary arrivals do not come alone, and nothing checks
that they do not. So the empty sub-intervals are those without a recorded arrival and, beside them,
those in which every arrival counts as secondary.
-/

namespace ArrivalRates

open Arrivals

namespace Arrivals

variable {recorded : List Arrival} {secondary : Bool} {start stop : Int}

theorem uniqueIn_eq_zero_iff :
    uniqueIn secondary start stop recorded = 0 ↔
      ∀ arrival ∈ within start stop recorded,
        isSecondary recorded arrival.messageId = !secondary := by
  rw [uniqueIn, Int.natCast_eq_zero, List.countP_eq_zero]
  constructor
  · intro none arrival member
    have absent := none arrival.messageId (mem_ids.2 ⟨arrival, member, rfl⟩)
    rw [decide_eq_true_iff] at absent
    exact Bool.eq_not.2 absent
  · intro other id known
    obtain ⟨arrival, member, rfl⟩ := mem_ids.1 known
    rw [decide_eq_true_iff]
    exact Bool.eq_not.1 (other arrival member)

end Arrivals

namespace Config

variable {config : Config} {recorded : List Arrival} {closed : List Int} {size start : Int}

/-- The starts of the sub-intervals of some windows. -/
def subIntervals (config : Config) (size : Int) (windows : List Int) : List Int :=
  windows.flatMap fun start =>
    (List.range (config.slots / size).toNat).map fun (i : Nat) =>
      start + i * (size * bucketMillis)

/-- A sub-interval lies in its window. -/
theorem subInterval_inside (start : Int) {i : Nat} (positive : 1 ≤ size)
    (inside : i < (config.slots / size).toNat) :
    start ≤ start + i * (size * bucketMillis) ∧
      start + i * (size * bucketMillis) + size * bucketMillis ≤ start + config.windowMillis := by
  have fits : ((i : Int) + 1) * size ≤ config.slots :=
    Int.mul_le_of_le_ediv (by omega) (by omega)
  have last : ((i : Int) + 1) * size * bucketMillis ≤ config.windowMillis :=
    Int.mul_le_mul_of_nonneg_right fits (by decide)
  have first : 0 ≤ (i : Int) * (size * bucketMillis) := by
    unfold bucketMillis
    positivity
  have cut : ((i : Int) + 1) * size * bucketMillis =
      i * (size * bucketMillis) + size * bucketMillis := by ring
  omega

/-- A sub-interval of a window has no id of the primary kind exactly if every arrival in it counts
as secondary. -/
theorem Accepted.primaryUnique_eq_zero_iff (accepted : config.Accepted) (positive : 1 ≤ size)
    (aligned : config.windowMillis ∣ start) {i : Nat}
    (inside : i < (config.slots / size).toNat) :
    (interval size (start + i * (size * bucketMillis))
        (within start (start + config.windowMillis) recorded)).primaryUnique = 0 ↔
      ∀ arrival ∈ within (start + i * (size * bucketMillis))
          (start + i * (size * bucketMillis) + size * bucketMillis) recorded,
        config.countsSecondary recorded arrival = true := by
  obtain ⟨low, high⟩ := subInterval_inside start positive inside
  rw [interval, uniqueIn_eq_zero_iff, within_within low high]
  refine forall₂_congr fun arrival member => ?_
  have here := (mem_within.1 member).2
  have window : config.windowStart arrival.moment = start :=
    (accepted.windowStart_eq_iff aligned).2 (by omega)
  rw [countsSecondary, window]
  rfl

/-- The sub-intervals of the closed windows that count as empty. -/
theorem Accepted.countP_intervals (accepted : config.Accepted) (positive : 1 ≤ size)
    (aligned : ∀ start ∈ closed, config.windowMillis ∣ start) :
    (closed.flatMap (intervals config.slots size recorded)).countP
        (fun value => value.primaryUnique = 0) =
      (config.subIntervals size closed).countP fun start =>
        ∀ arrival ∈ within start (start + size * bucketMillis) recorded,
          config.countsSecondary recorded arrival = true := by
  rw [List.countP_flatMap, subIntervals, List.countP_flatMap]
  refine congrArg List.sum (List.map_congr_left fun start closing => ?_)
  simp only [Function.comp_apply, intervals, List.countP_map]
  refine List.countP_congr fun i member => ?_
  simp only [Function.comp_apply, decide_eq_true_iff]
  have inside := List.mem_range.1 member
  exact accepted.primaryUnique_eq_zero_iff positive (aligned start closing) inside

end Config

namespace Chronicle

variable {source : String} {config : Config}

/-- The empty sub-intervals of each size are those of the closed windows without an arrival that
counts as primary: some have no arrival at all and the others have only arrivals that count as
secondary. So they are those without any arrival exactly if each of the others has an arrival that
counts as primary. -/
theorem zeroIntervals_eq (source : String) (accepted : config.Accepted)
    (arrivals : List Arrival) :
    let run := ofArrivals source config arrivals
    run.tracker.statistics.map (·.size) = config.sizes ∧
    ∀ stats ∈ run.tracker.statistics,
      let periods := config.subIntervals stats.size run.closed
      let arrived (start : Int) := within start (start + stats.size * bucketMillis) run.recorded
      let silent := periods.countP fun start => arrived start = []
      stats.zeroIntervals =
          silent + periods.countP (fun start => arrived start ≠ [] ∧
            ∀ arrival ∈ arrived start, config.countsSecondary run.recorded arrival = true) ∧
        (stats.zeroIntervals = silent ↔ ∀ start ∈ periods, arrived start ≠ [] →
          ∃ arrival ∈ arrived start, config.countsSecondary run.recorded arrival = false) := by
  intro run
  have sound : run.Sound source config := sound_ofArrivals accepted arrivals
  rw [sound.statistics_eq]
  refine ⟨(List.map_map ..).trans (List.map_id _), fun stats member => ?_⟩
  obtain ⟨size, known, rfl⟩ := List.mem_map.1 member
  intro periods arrived silent
  have positive := accepted.one_le_size size known
  have counted : (Statistics.batch config.slots run.closed run.recorded size).zeroIntervals =
      ((config.subIntervals size run.closed).countP fun start => ∀ arrival ∈ arrived start,
        config.countsSecondary run.recorded arrival = true : Nat) :=
    congrArg Nat.cast (accepted.countP_intervals positive sound.closed_spec.2)
  have split : (Statistics.batch config.slots run.closed run.recorded size).zeroIntervals =
      silent + periods.countP fun start => arrived start ≠ [] ∧
        ∀ arrival ∈ arrived start, config.countsSecondary run.recorded arrival = true := by
    rw [counted, ← Nat.cast_add,
      List.countP_eq_countP_filter_add _ _ fun start => decide (arrived start = []),
      List.countP_filter, List.countP_filter]
    congr 2
    · -- without an arrival there is none that counts as primary
      refine List.countP_congr fun start _ => ?_
      simp +contextual
    · refine List.countP_congr fun start _ => ?_
      simp [and_comm]
  refine ⟨split, ?_⟩
  rw [split, add_eq_left, Int.natCast_eq_zero, List.countP_eq_zero]
  refine forall₂_congr fun start _ => ?_
  simp

/-- An arrival that counts as secondary and comes alone is in a sub-interval of each size that
counts as empty. -/
theorem secondary_alone_counts_as_zero :
    let run := ofArrivals "gate" Config.standard [⟨"w", 0, true⟩, ⟨"a", 7200000, false⟩]
    Config.standard.Accepted ∧ run.failures = [] ∧ run.lastReset = none ∧ run.closed = [0] ∧
      run.recorded = [⟨"w", 0, true⟩, ⟨"a", 7200000, false⟩] ∧
      run.tracker.statistics.map (·.zeroIntervals) = [12, 6, 4, 2, 1] ∧
      (run.tracker.statistics.map fun stats =>
        (Config.standard.subIntervals stats.size run.closed).countP fun start =>
          within start (start + stats.size * bucketMillis) run.recorded = []) =
        [11, 5, 3, 1, 0] :=
  ⟨⟨by decide, rfl⟩, by decide +kernel, by decide +kernel, by decide +kernel, by decide +kernel,
    by decide +kernel, by decide +kernel⟩

/-- A window whose first bucket has arrivals of both kinds and whose second has a secondary one. -/
theorem zeroIntervals_eq_mixed :
    let run := ofArrivals "gate" Config.standard
      [⟨"a", 0, false⟩, ⟨"b", 1, true⟩, ⟨"b", 600000, true⟩, ⟨"a", 7200000, false⟩]
    Config.standard.Accepted ∧ run.closed = [0] ∧
      run.tracker.statistics.map (·.zeroIntervals) = [11, 5, 3, 1, 0] ∧
      ∀ stats ∈ run.tracker.statistics, stats.size ≠ 1 → stats.zeroIntervals =
        ((Config.standard.subIntervals stats.size run.closed).countP fun start =>
          within start (start + stats.size * bucketMillis) run.recorded = [] : Nat) := by
  have accepted : Config.standard.Accepted := ⟨by decide, rfl⟩
  refine ⟨accepted, by decide +kernel, by decide +kernel, fun stats member wide => ?_⟩
  refine ((zeroIntervals_eq "gate" accepted _).2 stats member).2.2 ?_
  revert stats
  decide +kernel

end Chronicle

end ArrivalRates
