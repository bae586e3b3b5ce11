import ArrivalRates.Proofs.Reporting

/-!
# Calls of every kind

A tracker also answers calls that count nothing: the logger of its source starts again, or a report
is asked for out of schedule. Such a call changes nothing but the two numbers of what was written.
`Ledger` continues a chronicle over calls of every kind and keeps, beside what a chronicle keeps,
the lines that were written and the statistics that resets threw away.
-/

namespace ArrivalRates

inductive Call where
  | arrive (arrival : Arrival)
  | startLogger (next : Int)
  /-- A report out of schedule, under a stamp of its own or that of the last arrival. -/
  | report (stamp : Option String)
  deriving DecidableEq, Repr

def Call.arrival? : Call → Option Arrival
  | .arrive arrival => some arrival
  | _ => none

theorem Call.arrive_or_other (call : Call) :
    (∃ arrival, call = .arrive arrival) ∨ call.arrival? = none := by
  cases call with
  | arrive arrival => exact .inl ⟨arrival, rfl⟩
  | startLogger | report => exact .inr rfl

/-! ### Calls that count nothing -/

namespace Outcome

variable {σ α β : Type}

theorem andThen_done (first : Outcome σ α) (value : σ → α → β) :
    (first.andThen fun state answer => .done state (value state answer)) =
      ⟨first.state, first.result.map (value first.state), first.entries⟩ := by
  cases result : first.result with
  | error failure => rw [andThen_of_error result]; rfl
  | ok answer => rw [andThen_of_ok result, done, List.append_nil]; rfl

end Outcome

namespace Tracker

/-- The answer says whether the call recorded an arrival. -/
def perform (tracker : Tracker) : Call → Outcome Tracker Bool
  | .arrive arrival => tracker.deliver arrival
  | .startLogger next =>
    (tracker.markLoggerStarting next).andThen fun tracker () => .done tracker false
  | .report stamp => (tracker.report stamp).andThen fun tracker () => .done tracker false

theorem perform_startLogger (tracker : Tracker) (next : Int) :
    tracker.perform (.startLogger next) =
      ⟨(tracker.markLoggerStarting next).state,
        (tracker.markLoggerStarting next).result.map fun _ => false,
        (tracker.markLoggerStarting next).entries⟩ :=
  Outcome.andThen_done _ fun _ _ => false

theorem perform_report (tracker : Tracker) (stamp : Option String) :
    tracker.perform (.report stamp) =
      ⟨(tracker.report stamp).state, (tracker.report stamp).result.map fun _ => false,
        (tracker.report stamp).entries⟩ :=
  Outcome.andThen_done _ fun _ _ => false

/-- The tracker with other numbers of what it has written. -/
def withNotices (tracker : Tracker) (reportsEmitted gapNotices : Nat) : Tracker :=
  { tracker with reportsEmitted, gapNotices }

theorem Tallies.withNotices {source : String} {config : Config} {recorded : List Arrival}
    {closed : List Int} {tracker : Tracker}
    (tallies : Tallies source config recorded closed tracker) (reportsEmitted gapNotices : Nat) :
    Tallies source config recorded closed (tracker.withNotices reportsEmitted gapNotices) :=
  { tallies with }

/-- A call that counts nothing: the tracker differs in the numbers of what it has written, and all
that is written are lines. -/
structure Noticed (tracker : Tracker) (outcome : Outcome Tracker α) : Prop where
  state : ∃ reportsEmitted gapNotices,
    outcome.state = tracker.withNotices reportsEmitted gapNotices
  entries : ∃ lines : List String, outcome.entries = lines.map .line

theorem noticed_failed (tracker : Tracker) (failure : Failure) :
    Noticed tracker (.failed tracker failure : Outcome Tracker α) :=
  ⟨⟨_, _, rfl⟩, [], rfl⟩

theorem noticed_writeReport (tracker : Tracker) (stamp : String) :
    Noticed tracker (tracker.writeReport stamp) :=
  ⟨⟨_, _, rfl⟩, _, rfl⟩

theorem noticed_report (tracker : Tracker) (stamp : Option String) :
    Noticed tracker (tracker.report stamp) := by
  unfold report
  split
  · exact noticed_writeReport tracker _
  · split
    · exact noticed_failed tracker _
    · exact noticed_writeReport tracker _

theorem noticed_markLoggerStarting (tracker : Tracker) (next : Int) :
    Noticed tracker (tracker.markLoggerStarting next) := by
  unfold markLoggerStarting
  split
  · exact noticed_failed tracker _
  · exact ⟨⟨_, _, rfl⟩, [], rfl⟩
  · simp only
    split
    · exact ⟨⟨_, _, rfl⟩, [], rfl⟩
    · exact ⟨⟨_, _, rfl⟩, [_], rfl⟩

theorem noticed_perform (tracker : Tracker) {call : Call} (other : call.arrival? = none) :
    Noticed tracker (tracker.perform call) := by
  cases call with
  | arrive arrival => cases other
  | startLogger next =>
    obtain ⟨state, entries⟩ := noticed_markLoggerStarting tracker next
    rw [perform_startLogger]
    exact ⟨state, entries⟩
  | report stamp =>
    obtain ⟨state, entries⟩ := noticed_report tracker stamp
    rw [perform_report]
    exact ⟨state, entries⟩

end Tracker

/-! ### Runs -/

namespace Chronicle

variable {source : String} {config : Config} {chronicle : Chronicle}

def perform (chronicle : Chronicle) : Call → Chronicle
  | .arrive arrival => chronicle.next arrival
  | call =>
    { chronicle with
      tracker := (chronicle.tracker.perform call).state
      failures := chronicle.failures ++ (chronicle.tracker.perform call).failure?.toList }

theorem tracker_perform (chronicle : Chronicle) (call : Call) :
    (chronicle.perform call).tracker = (chronicle.tracker.perform call).state := by
  cases call <;> rfl

theorem failures_perform (chronicle : Chronicle) (call : Call) :
    (chronicle.perform call).failures =
      chronicle.failures ++ (chronicle.tracker.perform call).failure?.toList := by
  cases call <;> rfl

theorem tracker_other (chronicle : Chronicle) {call : Call} (other : call.arrival? = none) :
    ∃ reportsEmitted gapNotices,
      (chronicle.perform call).tracker =
        chronicle.tracker.withNotices reportsEmitted gapNotices := by
  rw [tracker_perform]
  exact (chronicle.tracker.noticed_perform other).state

theorem perform_other (chronicle : Chronicle) {call : Call} (other : call.arrival? = none) :
    (chronicle.perform call).recorded = chronicle.recorded ∧
      (chronicle.perform call).closed = chronicle.closed := by
  cases call with
  | arrive arrival => cases other
  | startLogger | report => exact ⟨rfl, rfl⟩

theorem sound_perform (accepted : config.Accepted) (sound : chronicle.Sound source config)
    (call : Call) : (chronicle.perform call).Sound source config := by
  rcases call.arrive_or_other with ⟨arrival, rfl⟩ | other
  · exact sound_next accepted sound arrival
  · obtain ⟨_, _, tracker⟩ := chronicle.tracker_other other
    obtain ⟨recorded, closed⟩ := chronicle.perform_other other
    unfold Sound
    rw [tracker, recorded, closed]
    exact Tracker.Tallies.withNotices sound _ _

end Chronicle

/-- A chronicle of calls of every kind, and what it does not keep of them. -/
structure Ledger extends Chronicle where
  /-- The lines that were written, in order. -/
  lines : List String := []
  /-- The statistics that resets threw away, one list for each reset. -/
  discarded : List (List Statistics) := []

namespace Ledger

def begin (source : String) (config : Config) : Ledger where
  toChronicle := .begin source config

/-- Makes a call. What a reset throws away are the statistics with the closed window added, since
it comes after the rollover of its call. -/
def perform (ledger : Ledger) (call : Call) : Ledger :=
  let outcome := ledger.tracker.perform call
  { toChronicle := ledger.toChronicle.perform call
    lines := ledger.lines ++ outcome.lines
    discarded :=
      if ledger.tracker.resetEntry ∈ outcome.entries then
        ledger.discarded ++ [ledger.tracker.rollover.state.statistics]
      else ledger.discarded }

def ofCalls (source : String) (config : Config) (calls : List Call) : Ledger :=
  calls.foldl perform (begin source config)

variable {source : String} {config : Config}

theorem ofCalls_concat (calls : List Call) (call : Call) :
    ofCalls source config (calls ++ [call]) = (ofCalls source config calls).perform call := by
  rw [ofCalls, List.foldl_concat, ofCalls]

theorem tracker_perform (ledger : Ledger) (call : Call) :
    (ledger.perform call).tracker = (ledger.tracker.perform call).state :=
  ledger.toChronicle.tracker_perform call

theorem discarded_arrive (ledger : Ledger) (arrival : Arrival) :
    (ledger.perform (.arrive arrival)).discarded =
      if ledger.tracker.resetEntry ∈ (ledger.tracker.deliver arrival).entries then
        ledger.discarded ++ [ledger.tracker.rollover.state.statistics]
      else ledger.discarded :=
  rfl

theorem recorded_arrive (ledger : Ledger) (arrival : Arrival) :
    (ledger.perform (.arrive arrival)).recorded =
      if (ledger.tracker.deliver arrival).accepted then ledger.recorded ++ [arrival]
      else ledger.recorded :=
  rfl

theorem tracker_other (ledger : Ledger) {call : Call} (other : call.arrival? = none) :
    ∃ reportsEmitted gapNotices,
      (ledger.perform call).tracker = ledger.tracker.withNotices reportsEmitted gapNotices :=
  ledger.toChronicle.tracker_other other

theorem recorded_other (ledger : Ledger) {call : Call} (other : call.arrival? = none) :
    (ledger.perform call).recorded = ledger.recorded :=
  (ledger.toChronicle.perform_other other).1

theorem closed_other (ledger : Ledger) {call : Call} (other : call.arrival? = none) :
    (ledger.perform call).closed = ledger.closed :=
  (ledger.toChronicle.perform_other other).2

theorem discarded_other (ledger : Ledger) {call : Call} (other : call.arrival? = none) :
    (ledger.perform call).discarded = ledger.discarded := by
  obtain ⟨-, lines, entries⟩ := ledger.tracker.noticed_perform other
  apply if_neg
  rw [entries]
  exact ledger.tracker.resetEntry_not_mem lines

/-- What holds at the start and is kept by every call of a sound run holds after every run. -/
theorem ofCalls_induction {motive : Ledger → Prop} (accepted : config.Accepted)
    (start : motive (begin source config))
    (step : ∀ (ledger : Ledger) (call : Call), ledger.Sound source config → motive ledger →
      motive (ledger.perform call))
    (calls : List Call) :
    (ofCalls source config calls).Sound source config ∧ motive (ofCalls source config calls) := by
  induction calls using List.reverseRecOn with
  | nil => exact ⟨Chronicle.sound_begin, start⟩
  | append_singleton calls call ih =>
    rw [ofCalls_concat]
    exact ⟨Chronicle.sound_perform accepted ih.1 call, step _ call ih.1 ih.2⟩

theorem sound_ofCalls (accepted : config.Accepted) (calls : List Call) :
    (ofCalls source config calls).Sound source config :=
  (ofCalls_induction (motive := fun _ => True) accepted trivial (fun _ _ _ _ => trivial) calls).1

end Ledger

end ArrivalRates
