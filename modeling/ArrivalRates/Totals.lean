import ArrivalRates.Clock

/-!
# Operational totals

How many events a service received, recorded and dropped, with the rates that follow from them and
the time it has been up. A rate is absent where its divisor is not positive.
-/

namespace ArrivalRates

structure Totals where
  received : Int := 0
  recorded : Int := 0
  dropped : Int := 0
  deriving DecidableEq, Repr

namespace Totals

def ratePlaces : Nat := 4

def uptimePlaces : Nat := 2

def dropRate (totals : Totals) : Except Failure (Option Binary64) :=
  if 0 < totals.received then
    (quotient totals.dropped totals.received).map fun rate => some (rate.roundPlaces ratePlaces)
  else .ok none

def throughput (totals : Totals) (uptime : Binary64) : Except Failure (Option Binary64) :=
  if (Binary64.zero false).lt uptime then
    match Binary64.ofInt totals.recorded with
    | .infinity _ => .error .integerTooLarge
    | recorded => .ok (some ((recorded.div uptime).roundPlaces ratePlaces))
  else .ok none

structure Snapshot where
  totals : Totals
  uptime : Binary64
  throughput : Option Binary64
  dropRate : Option Binary64

/-- The totals at a moment of the clock that read `start` when the service began. -/
def snapshot (totals : Totals) (start now : Binary64) : Except Failure Snapshot := do
  let uptime := now.sub start
  let throughput ← totals.throughput uptime
  let dropRate ← totals.dropRate
  return ⟨totals, uptime.roundPlaces uptimePlaces, throughput, dropRate⟩

end Totals

end ArrivalRates
