import ArrivalRates.Failure

/-!
# Counters

How often one message id arrived in each bucket of the current window. A cell stops at `maxCount`.
`rollup` adds consecutive cells to sub-intervals.
-/

namespace ArrivalRates

/-- The largest count of a cell, that of a signed 32-bit integer. -/
def maxCount : Int := 2147483647

structure Counter where
  messageId : String
  slots : Int
  secondary : Bool
  counts : List Int
  deriving DecidableEq, Repr

namespace Counter

def create (messageId : String) (slots : Int) (secondary : Bool) : Counter :=
  ⟨messageId, slots, secondary, List.replicate slots.toNat 0⟩

/-- The position that an index means; a negative one counts from the end. -/
def position? (size : Nat) (index : Int) : Option Nat :=
  if 0 ≤ index ∧ index < size then some index.toNat
  else if index < 0 ∧ -(size : Int) ≤ index then some (index + size).toNat
  else none

/-- One more, but not past the largest count. -/
def increment (count : Int) : Int := if count < maxCount then count + 1 else count

def add (counter : Counter) (index : Int) : Except Failure Counter :=
  match position? counter.counts.length index with
  | some position => .ok { counter with counts := counter.counts.modify position increment }
  | none => .error .cellOutOfRange

def set (counter : Counter) (index value : Int) : Except Failure Counter :=
  match position? counter.counts.length index with
  | some position => .ok { counter with counts := counter.counts.set position value }
  | none => .error .cellOutOfRange

theorem position?_of_lt {size : Nat} {index : Int} (low : 0 ≤ index) (high : index < size) :
    position? size index = some index.toNat :=
  if_pos ⟨low, high⟩

/-- Inside the cells, counting an arrival cannot fail and changes one cell only. -/
theorem add_of_lt {counter : Counter} {index : Int} (low : 0 ≤ index)
    (high : index < counter.counts.length) :
    counter.add index =
      .ok { counter with counts := counter.counts.modify index.toNat increment } := by
  rw [add, position?_of_lt low high]

theorem le_increment (count : Int) : count ≤ increment count := by
  unfold increment
  split <;> omega

/-- How many multiples of `size`, from zero on, lie before `slots - size + 1`. -/
def intervalCount (slots size : Int) : Nat :=
  let stop := slots - size + 1
  if 0 < size then ((stop + size - 1) / size).toNat else ((-stop - size - 1) / -size).toNat

def sumFrom (counts : List Int) (start size : Int) : Int :=
  ((counts.drop start.toNat).take size.toNat).foldr (· + ·) 0

def rollup (counter : Counter) (size : Int) : Except Failure (List Int) :=
  if size = 0 then .error .zeroStep
  else
    .ok <| (List.range (intervalCount counter.slots size)).map fun (i : Nat) =>
      sumFrom counter.counts (i * size) size

end Counter

end ArrivalRates
