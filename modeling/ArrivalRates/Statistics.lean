import ArrivalRates.Clock
import ArrivalRates.Window

/-!
# Cumulative statistics

For one sub-interval size: how many sub-intervals were seen, how many of them were empty, and the
sums, extremes and squares of the numbers of distinct message ids and of arrivals. `absorb` adds the
sub-intervals of one window. The moments are binary64 numbers, each made by one rounded quotient.
-/

namespace ArrivalRates

/-- The smallest count before any sub-interval had one: the largest signed 64-bit integer. -/
def noMinimum : Int := 9223372036854775807

structure Statistics where
  size : Int
  intervals : Int := 0
  zeroIntervals : Int := 0
  primaryUniqueSum : Int := 0
  secondaryUniqueSum : Int := 0
  primarySquareSum : Int := 0
  primaryMin : Int := noMinimum
  primaryMax : Int := 0
  primaryTotal : Int := 0
  secondaryTotal : Int := 0
  deriving DecidableEq, Repr

structure Interval where
  primaryUnique : Int
  primaryTotal : Int
  secondaryUnique : Int
  secondaryTotal : Int
  deriving DecidableEq, Repr

/-- The sub-intervals of four lists side by side, as far as the shortest goes. -/
def Interval.zip (primaryUnique primaryTotal secondaryUnique secondaryTotal : List Int) :
    List Interval :=
  ((primaryUnique.zip primaryTotal).zip (secondaryUnique.zip secondaryTotal)).map
    fun ((u₁, t₁), (u₂, t₂)) => ⟨u₁, t₁, u₂, t₂⟩

namespace Statistics

/-- Adds one sub-interval; an empty one counts as such and leaves the minimum alone. -/
def add (stats : Statistics) (interval : Interval) : Statistics :=
  let unique := interval.primaryUnique
  { stats with
    zeroIntervals := if unique = 0 then stats.zeroIntervals + 1 else stats.zeroIntervals
    primaryMin := if unique = 0 then stats.primaryMin else min stats.primaryMin unique
    primaryMax := max stats.primaryMax unique
    primaryUniqueSum := stats.primaryUniqueSum + unique
    secondaryUniqueSum := stats.secondaryUniqueSum + interval.secondaryUnique
    primarySquareSum := stats.primarySquareSum + unique * unique
    primaryTotal := stats.primaryTotal + interval.primaryTotal
    secondaryTotal := stats.secondaryTotal + interval.secondaryTotal }

/-- Adds the sub-intervals of one window; the first list says how many they are. -/
def absorb (stats : Statistics)
    (primaryUnique primaryTotal secondaryUnique secondaryTotal : List Int) : Statistics :=
  let counted := { stats with intervals := stats.intervals + primaryUnique.length }
  (Interval.zip primaryUnique primaryTotal secondaryUnique secondaryTotal).foldl add counted

def absorbRollup (stats : Statistics) (rollup : Rollup) : Statistics :=
  stats.absorb rollup.primaryUnique rollup.primaryTotal rollup.secondaryUnique
    rollup.secondaryTotal

/-- A sum per sub-interval; zero as long as there is none. -/
def mean (stats : Statistics) (sum : Int) : Except Failure Binary64 :=
  if stats.intervals = 0 then .ok (Binary64.zero false) else quotient sum stats.intervals

def primaryMean (stats : Statistics) : Except Failure Binary64 := stats.mean stats.primaryUniqueSum

def secondaryMean (stats : Statistics) : Except Failure Binary64 :=
  stats.mean stats.secondaryUniqueSum

/-- The mean of the squares less the square of the mean. -/
def primaryVariance (stats : Statistics) : Except Failure Binary64 :=
  if stats.intervals = 0 then .ok (Binary64.zero false)
  else do
    let mean ← stats.primaryMean
    let squares ← quotient stats.primarySquareSum stats.intervals
    return squares.sub (mean.mul mean)

/-- Rounding can leave the variance a little below zero, which counts as zero. -/
def primaryDeviation (stats : Statistics) : Except Failure Binary64 := do
  let variance ← stats.primaryVariance
  return (variance.max (Binary64.zero false)).sqrt

def render (stats : Statistics) : Except Failure String := do
  let primaryMean ← stats.primaryMean
  let secondaryMean ← stats.secondaryMean
  let deviation ← stats.primaryDeviation
  return "IntervalSize=" ++ integerText stats.size
    ++ ", msg1UMIDAvgCount=" ++ primaryMean.toFixed 2
    ++ ", msg2UMIDAvgCount=" ++ secondaryMean.toFixed 2
    ++ ", msg1UMIDCount=" ++ integerText stats.primaryUniqueSum
    ++ ", msg2UMIDCount=" ++ integerText stats.secondaryUniqueSum
    ++ ", numOfIntervals=" ++ integerText stats.intervals
    ++ ", msg1UMIDStdDev=" ++ deviation.toFixed 2
    ++ ", msg1UMIDMin=" ++ integerText stats.primaryMin
    ++ ", msg1UMIDMax=" ++ integerText stats.primaryMax
    ++ ", zeroCountIntervals=" ++ integerText stats.zeroIntervals
    ++ ", msg1TotalCount=" ++ integerText stats.primaryTotal
    ++ ", msg2TotalCount=" ++ integerText stats.secondaryTotal

def describedPlaces : Nat := 4

structure Description where
  stats : Statistics
  primaryMean : Binary64
  secondaryMean : Binary64
  primaryDeviation : Binary64

def describe (stats : Statistics) : Except Failure Description := do
  let primaryMean ← stats.primaryMean
  let secondaryMean ← stats.secondaryMean
  let deviation ← stats.primaryDeviation
  return ⟨stats, primaryMean.roundPlaces describedPlaces, secondaryMean.roundPlaces describedPlaces,
    deviation.roundPlaces describedPlaces⟩

end Statistics

end ArrivalRates
