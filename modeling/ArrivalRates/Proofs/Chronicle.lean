import ArrivalRates.Tracker

/-!
# What a run of a tracker shows

A run is a list of arrivals delivered to a fresh tracker one after the other. `Chronicle` keeps,
beside the tracker, what a caller can tell from the calls alone: which arrivals were recorded, which
windows were closed since the statistics last started anew and at which arrival they did, and the
failures. Nothing here depends on how the tracker counts; the theorems about runs compare the state
of the tracker with these observations.
-/

namespace ArrivalRates

/-- What one call that counts an arrival is given. -/
structure Arrival where
  messageId : String
  /-- Milliseconds since 1970. -/
  moment : Int
  secondary : Bool := false
  deriving DecidableEq, Repr

namespace Outcome

/-- Whether a call answered that its arrival was recorded. -/
def accepted (outcome : Outcome σ Bool) : Bool :=
  match outcome.result with
  | .ok answer => answer
  | .error _ => false

theorem result_of_accepted {outcome : Outcome σ Bool} (answer : outcome.accepted = true) :
    outcome.result = .ok true := by
  unfold accepted at answer
  split at answer
  next result => rw [result, answer]
  · cases answer

def failure? (outcome : Outcome σ α) : Option Failure :=
  match outcome.result with
  | .ok _ => none
  | .error failure => some failure

end Outcome

namespace Tracker

def deliver (tracker : Tracker) (arrival : Arrival) : Outcome Tracker Bool :=
  tracker.addMessage arrival.messageId arrival.moment arrival.secondary

/-- The log record of statistics that start anew. -/
def resetEntry (tracker : Tracker) : Entry :=
  .info ("Resetting rate statistics for " ++ tracker.source)

theorem resetEntry_not_mem (tracker : Tracker) (lines : List String) :
    tracker.resetEntry ∉ lines.map Entry.line := by
  simp [resetEntry]

/-- The start of the window that was current before a call and is not after it. -/
def closedWindow? (before after : Tracker) : Option Int :=
  match before.window.span with
  | none => none
  | some span => if after.window.span = some span then none else some span.start

end Tracker

/-- A tracker and what the calls on it have shown so far. -/
structure Chronicle where
  tracker : Tracker
  recorded : List Arrival := []
  /-- The starts of the windows closed since the statistics last started anew. -/
  closed : List Int := []
  /-- The arrival at which the statistics last started anew. -/
  lastReset : Option Arrival := none
  failures : List Failure := []

namespace Chronicle

def begin (source : String) (config : Config) : Chronicle where
  tracker := Tracker.fresh source config

/-- The windows closed since the last reset when the tracker has become `after`. -/
def closedUntil (chronicle : Chronicle) (after : Tracker) : List Int :=
  chronicle.closed ++ (chronicle.tracker.closedWindow? after).toList

/-- The arrivals that statistics over the windows with these starts count. -/
def inWindows (length : Int) (starts : List Int) (arrivals : List Arrival) : List Arrival :=
  arrivals.filter fun arrival =>
    starts.any fun start => decide (start ≤ arrival.moment ∧ arrival.moment < start + length)

/-- Delivers an arrival and notes what the call shows. A window that is closed by a call which
resets the statistics was counted before the reset. -/
def next (chronicle : Chronicle) (arrival : Arrival) : Chronicle :=
  let outcome := chronicle.tracker.deliver arrival
  let resets := decide (chronicle.tracker.resetEntry ∈ outcome.entries)
  { tracker := outcome.state
    recorded := if outcome.accepted then chronicle.recorded ++ [arrival] else chronicle.recorded
    closed := if resets then [] else chronicle.closedUntil outcome.state
    lastReset := if resets then some arrival else chronicle.lastReset
    failures := chronicle.failures ++ outcome.failure?.toList }

theorem tracker_next (chronicle : Chronicle) (arrival : Arrival) :
    (chronicle.next arrival).tracker = (chronicle.tracker.deliver arrival).state :=
  rfl

theorem recorded_next (chronicle : Chronicle) (arrival : Arrival) :
    (chronicle.next arrival).recorded =
      if (chronicle.tracker.deliver arrival).accepted then chronicle.recorded ++ [arrival]
      else chronicle.recorded :=
  rfl

theorem closed_next (chronicle : Chronicle) (arrival : Arrival) :
    (chronicle.next arrival).closed =
      if chronicle.tracker.resetEntry ∈ (chronicle.tracker.deliver arrival).entries then []
      else chronicle.closedUntil (chronicle.tracker.deliver arrival).state := by
  simp only [next, decide_eq_true_eq]

theorem lastReset_next (chronicle : Chronicle) (arrival : Arrival) :
    (chronicle.next arrival).lastReset =
      if chronicle.tracker.resetEntry ∈ (chronicle.tracker.deliver arrival).entries then
        some arrival
      else chronicle.lastReset := by
  simp only [next, decide_eq_true_eq]

theorem closedUntil_of_closing {chronicle : Chronicle} {after : Tracker} {start : Int}
    (closing : chronicle.tracker.closedWindow? after = some start) :
    chronicle.closedUntil after = chronicle.closed ++ [start] :=
  congrArg (chronicle.closed ++ ·.toList) closing

def ofArrivals (source : String) (config : Config) (arrivals : List Arrival) : Chronicle :=
  arrivals.foldl next (begin source config)

theorem mem_inWindows {length : Int} {starts : List Int} {arrivals : List Arrival}
    {arrival : Arrival} :
    arrival ∈ inWindows length starts arrivals ↔
      arrival ∈ arrivals ∧
        ∃ start ∈ starts, start ≤ arrival.moment ∧ arrival.moment < start + length := by
  simp [inWindows]

variable {source : String} {config : Config}

theorem ofArrivals_append (earlier later : List Arrival) :
    ofArrivals source config (earlier ++ later) =
      later.foldl next (ofArrivals source config earlier) :=
  List.foldl_append ..

theorem ofArrivals_concat (arrivals : List Arrival) (arrival : Arrival) :
    ofArrivals source config (arrivals ++ [arrival]) =
      (ofArrivals source config arrivals).next arrival :=
  ofArrivals_append arrivals [arrival]

/-- What holds at the start and is kept by every call holds after every list of calls. -/
theorem foldl_next_induction {motive : Chronicle → Prop} {chronicle : Chronicle}
    (start : motive chronicle)
    (step : ∀ chronicle arrival, motive chronicle → motive (chronicle.next arrival))
    (arrivals : List Arrival) : motive (arrivals.foldl next chronicle) := by
  induction arrivals generalizing chronicle with
  | nil => exact start
  | cons arrival rest ih => exact ih (step chronicle arrival start)

end Chronicle

end ArrivalRates
