import ArrivalRates.Counter

/-!
# The retention window

A tracker counts arrivals in one window at a time: a span of `slots` buckets that begins at a
multiple of its length. `open` places the first window around an arrival, `advance` moves it on by
its length, `record` counts an arrival in its own bucket, `rollup` summarises the window for a list
of sub-interval sizes and `gapBefore` finds the whole empty buckets between two arrivals.

An operation that fails part of the way keeps what it had done: `record` answers with the window
either way.
-/

namespace ArrivalRates

def bucketMillis : Int := 600000

structure Span where
  start : Int
  stop : Int
  deriving DecidableEq, Repr

namespace Span

/-- The span after as many advances as it takes to end after the arrival. -/
def advanceTo (length arrival : Int) (span : Span) : Span :=
  if _h : 0 < length ∧ span.stop ≤ arrival then
    advanceTo length arrival ⟨span.stop, span.stop + length⟩
  else span
termination_by (arrival + 1 - span.stop).toNat
decreasing_by omega

end Span

structure Window where
  slots : Int
  maxMessages : Int
  bucket : Int := bucketMillis
  span : Option Span := none
  /-- The highest bucket seen in the window. -/
  currentIndex : Int := 0
  lastEvent : Option Int := none
  /-- In the order of the first arrivals. A counter stands under the id that it was made with, so
  the table of counters by id is the list of the counters, and no id is written twice. -/
  counters : List Counter := []
  deriving DecidableEq, Repr

/-- What one window adds up to for one sub-interval size; one entry per sub-interval. -/
structure Rollup where
  size : Int
  primaryUnique : List Int
  primaryTotal : List Int
  secondaryUnique : List Int
  secondaryTotal : List Int
  deriving DecidableEq, Repr

/-- Whole buckets without an arrival after the arrival at `previous`. -/
structure Gap where
  skipped : Int
  previous : Int
  start : Int
  stop : Int
  deriving DecidableEq, Repr

def floorDiv (a b : Int) : Except Failure Int :=
  if b = 0 then .error .divisionByZero else .ok (Int.fdiv a b)

/-- Adds to each entry what stands at the same place; the addends must not be more. -/
def addEntries : List Int → List Int → Except Failure (List Int)
  | entries, [] => .ok entries
  | [], _ :: _ => .error .cellOutOfRange
  | entry :: entries, n :: ns => (addEntries entries ns).map fun rest => (entry + n) :: rest

namespace Window

def length (window : Window) : Int := window.slots * window.bucket

def isActive (window : Window) : Bool := window.span.isSome

def spanAt (window : Window) (arrival : Int) : Except Failure Span := do
  let count ← floorDiv arrival window.length
  let start := count * window.length
  return ⟨start, start + window.length⟩

def openAt (window : Window) (arrival : Int) : Except Failure Window := do
  let span ← window.spanAt arrival
  return { window with span := some span, currentIndex := 0 }

def next (window : Window) (span : Span) : Span := ⟨span.stop, span.stop + window.length⟩

def advance (window : Window) : Except Failure Window :=
  match window.span with
  | none => .error .windowNotOpen
  | some span => .ok { window with span := some (window.next span), currentIndex := 0 }

def counter? (window : Window) (messageId : String) : Option Counter :=
  window.counters.find? fun counter => counter.messageId = messageId

/-- Puts a counter in the place of the one with its id, or at the end. -/
def putCounter (window : Window) (counter : Counter) : Window :=
  if (window.counter? counter.messageId).isSome then
    { window with
      counters := window.counters.map fun old =>
        if old.messageId = counter.messageId then counter else old }
  else { window with counters := window.counters ++ [counter] }

/-- The counter for an id, a new one as long as there is room for it. -/
def counterFor (window : Window) (messageId : String) (secondary : Bool) : Option Counter :=
  match window.counter? messageId with
  | some counter => some counter
  | none =>
    if window.maxMessages ≤ window.counters.length then none
    else some (Counter.create messageId window.slots secondary)

/-- Counts an arrival in its bucket. The answer is `false` before the window, and for a new id when
the window has no room; an arrival past the end still makes a counter before it fails. -/
def record (window : Window) (messageId : String) (arrival : Int) (secondary : Bool) :
    Window × Except Failure Bool :=
  match window.span with
  | none => (window, .error .windowNotOpen)
  | some span =>
    match floorDiv (arrival - span.start) window.bucket with
    | .error failure => (window, .error failure)
    | .ok index =>
      let window := { window with currentIndex := max window.currentIndex index }
      if arrival < span.start then (window, .ok false)
      else
        match window.counterFor messageId secondary with
        | none => (window, .ok false)
        | some counter =>
          match counter.add index with
          | .error failure => (window.putCounter counter, .error failure)
          | .ok counter => (window.putCounter counter, .ok true)

/-- Adds the sub-intervals of one counter to a summary, under the kind of the counter. -/
def addCounter (rollup : Rollup) (counter : Counter) : Except Failure Rollup := do
  let totals ← counter.rollup rollup.size
  let present := totals.map fun n => if 0 < n then 1 else 0
  if counter.secondary then
    let secondaryTotal ← addEntries rollup.secondaryTotal totals
    let secondaryUnique ← addEntries rollup.secondaryUnique present
    return { rollup with secondaryTotal, secondaryUnique }
  else
    let primaryTotal ← addEntries rollup.primaryTotal totals
    let primaryUnique ← addEntries rollup.primaryUnique present
    return { rollup with primaryTotal, primaryUnique }

def rollupFor (window : Window) (size : Int) : Except Failure Rollup := do
  let count ← floorDiv window.slots size
  let zeros := List.replicate count.toNat 0
  window.counters.foldlM addCounter ⟨size, zeros, zeros, zeros, zeros⟩

def rollup (window : Window) (sizes : List Int) : Except Failure (List Rollup) :=
  sizes.mapM window.rollupFor

def clear (window : Window) : Window := { window with counters := [] }

/-- The start of the first bucket that begins at the moment or later. -/
def bucketCeil (bucket moment : Int) : Except Failure Int :=
  if bucket = 0 then .error .remainderByZero
  else
    let past := Int.fmod moment bucket
    .ok (if 0 < past then Int.fdiv moment bucket * bucket + bucket else moment)

/-- The whole empty buckets between the last arrival and the next one. -/
def gapBefore (window : Window) (next : Int) : Except Failure (Option Gap) :=
  match window.lastEvent with
  | none => .ok none
  | some previous => do
    let start ← bucketCeil window.bucket previous
    let count ← floorDiv next window.bucket
    let stop := count * window.bucket
    let skipped ← floorDiv (stop - start) window.bucket
    return if skipped ≤ 0 then none else some ⟨skipped, previous, start, stop⟩

end Window

end ArrivalRates
