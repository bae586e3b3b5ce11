import ArrivalRates.Proofs.WellFormed

/-!
# Which arrivals are recorded

Where the window of a tracker lies is decided by the latest of all arrivals, whether they were
recorded or not, and whichever calls failed. So the answer to an arrival follows from the moments
that came before it and the ids recorded in the window of the latest one. A window begins with an
arrival that is recorded in it, unless the call that opened it failed; that is why runs without
failures close no empty window.
-/

namespace ArrivalRates

open Arrivals

namespace Arrivals

def latest? (arrivals : List Arrival) : Option Int := (arrivals.map (·.moment)).max?

theorem latest?_concat (arrivals : List Arrival) (arrival : Arrival) :
    latest? (arrivals ++ [arrival]) =
      some ((latest? arrivals).elim arrival.moment (max · arrival.moment)) := by
  cases arrivals with
  | nil => rfl
  | cons first rest =>
    simp only [latest?, List.cons_append, List.map_cons, List.map_append, List.map_nil,
      List.max?_cons', List.foldl_append, List.foldl_cons, List.foldl_nil, Option.elim_some]

end Arrivals

namespace Span

variable {length moment : Int}

/-- A later moment inside the span has the same span around it. -/
theorem around_max (positive : 0 < length) {last : Int}
    (before : moment < (around length last).stop) :
    around length (max last moment) = around length last := by
  rcases le_total moment last with early | late
  · rw [max_eq_left early]
  · have low := (around_start_le positive last).trans late
    rw [max_eq_right late]
    exact around_eq positive (Int.dvd_mul_left ..) low before

end Span

namespace Tracker

variable {source : String} {config : Config} {recorded : List Arrival} {closed closed' : List Int}
  {tracker : Tracker} {arrival : Arrival} {moment : Int} {span : Span}

/-! ### Single steps -/

/-- If the window lies around the latest moment, it does so after an arrival. -/
theorem Advance.span_eq {outcome : Outcome Tracker Unit} (advance : Advance tracker moment outcome)
    (positive : 0 < tracker.window.length) {last : Option Int}
    (around : tracker.window.span = last.map (Span.around tracker.window.length)) :
    outcome.state.window.span =
      some (.around tracker.window.length (last.elim moment (max · moment))) := by
  cases advance with
  | unstarted inactive | opened inactive =>
    rw [inactive, eq_comm, Option.map_eq_none_iff] at around
    rw [around]
    rfl
  | stayed placed before =>
    rw [placed, eq_comm, Option.map_eq_some_iff] at around
    obtain ⟨last, rfl, rfl⟩ := around
    rw [Option.elim_some, Span.around_max positive before]
    exact placed
  | moved placed past due =>
    rw [placed, eq_comm, Option.map_eq_some_iff] at around
    obtain ⟨last, rfl, rfl⟩ := around
    have beyond := (Span.lt_around_stop positive last).trans_le past
    rw [due.window_eq, Option.elim_some, max_eq_right beyond.le]
    rfl

/-- A call that does not stay in its window leaves an empty one around the arrival. -/
theorem Advance.stayed_or_placed {outcome : Outcome Tracker Unit}
    (advance : Advance tracker moment outcome)
    (tallies : Tallies source config recorded closed tracker) :
    (∃ span, tracker.window.span = some span ∧ moment < span.stop ∧
        outcome = .done tracker ()) ∨
      outcome.state.window.span = some (.around tracker.window.length moment) ∧
        outcome.state.window.counters = [] := by
  cases advance with
  | unstarted inactive | opened inactive =>
    exact .inr ⟨rfl, (tallies.inactive inactive).2.2⟩
  | stayed placed before => exact .inl ⟨_, placed, before, rfl⟩
  | moved placed past due =>
    rw [due.window_eq]
    exact .inr ⟨rfl, rfl⟩

/-- A call that does not fail counts its arrival in the window that it was brought to. -/
theorem Tallies.deliver_of_ok (tallies : Tallies source config recorded closed tracker)
    (accepted : config.Accepted) (succeeds : (tracker.deliver arrival).failure? = none) :
    ∃ brought closed' span,
      Advance (tracker.noted arrival.moment) arrival.moment brought ∧
      Tallies source config recorded closed' brought.state ∧
      brought.state.window.span = some span ∧ arrival.moment < span.stop ∧
      tracker.deliver arrival = ⟨(brought.state.counted arrival).state,
        (brought.state.counted arrival).result, brought.entries⟩ := by
  have noted := tallies.noted arrival.moment
  have placing := noted.wellPlaced accepted
  have advance := advance_spec placing arrival.moment
  have after := noted.advance accepted advance
  rw [deliver_eq] at succeeds ⊢
  generalize (tracker.noted arrival.moment).advance arrival.moment = brought
    at advance after succeeds ⊢
  cases result : brought.result with
  | error failure =>
    rw [Outcome.andThen_of_error result] at succeeds
    cases succeeds
  | ok value =>
    obtain ⟨span, placed, before⟩ := advance.reached placing.positive result
    rw [Outcome.andThen_of_ok result]
    refine ⟨brought, _, span, advance, after, placed, before, ?_⟩
    exact congrArg (Outcome.mk _ _) (List.append_nil _)

/-- The answer follows from the ids that were recorded in the window where the call ended. -/
theorem Tallies.result_eq (tallies : Tallies source config recorded closed tracker)
    (accepted : config.Accepted) (succeeds : (tracker.deliver arrival).failure? = none)
    (placed : (tracker.deliver arrival).state.window.span = some span) :
    let known := ids (within span.start (span.start + config.windowMillis) recorded)
    (tracker.deliver arrival).result =
      .ok (decide (span.start ≤ arrival.moment ∧
        (arrival.messageId ∈ known ∨ known.length < config.maxMessages))) := by
  obtain ⟨brought, _, here, -, after, reached, before, delivered⟩ :=
    tallies.deliver_of_ok accepted succeeds
  have counting := after.counted_eq arrival reached before
  dsimp only at counting
  rw [delivered] at placed ⊢
  -- counting leaves the window where it is
  have same : here = span := by
    rw [counting] at placed
    apply Option.some.inj
    rw [← reached, ← placed]
    split <;> rfl
  subst same
  dsimp only
  rw [counting]
  split
  next room => rw [decide_eq_true room]; rfl
  next full => rw [decide_eq_false full]; rfl

theorem Tallies.start_le_of_recorded (tallies : Tallies source config recorded closed tracker)
    (accepted : config.Accepted) (answer : (tracker.deliver arrival).result = .ok true)
    (placed : (tracker.deliver arrival).state.window.span = some span) :
    span.start ≤ arrival.moment := by
  have succeeds : (tracker.deliver arrival).failure? = none := by rw [Outcome.failure?, answer]
  have room := (tallies.result_eq accepted succeeds placed).symm.trans answer
  exact (of_decide_eq_true (Except.ok.inj room)).1

/-- An arrival that a call does not record leaves nothing but its moment and its bucket. -/
theorem Tallies.recorded_or_noted (tallies : Tallies source config recorded closed tracker)
    (accepted : config.Accepted) (roomy : 1 ≤ config.maxMessages)
    (succeeds : (tracker.deliver arrival).failure? = none) :
    (tracker.deliver arrival).result = .ok true ∨
      ∃ index, tracker.deliver arrival = .done
        ((tracker.noted arrival.moment).withCounters index tracker.window.counters) false := by
  obtain ⟨brought, _, span, advance, after, placed, before, delivered⟩ :=
    tallies.deliver_of_ok accepted succeeds
  have counting := after.counted_eq arrival placed before
  dsimp only at counting
  rw [delivered]
  split at counting
  next => exact .inl (by rw [counting]; rfl)
  next full =>
    rcases advance.stayed_or_placed (tallies.noted arrival.moment) with
      ⟨_, -, -, rfl⟩ | ⟨around, empty⟩
    · exact .inr ⟨_, by rw [counting]; rfl⟩
    · -- a window that has just been placed has room for its first arrival
      obtain rfl := Option.some.inj (placed.symm.trans around)
      have counters := (after.current _ placed).counters_eq
      rw [empty, eq_comm, tally, List.map_eq_nil_iff] at counters
      have positive := (tallies.noted arrival.moment).wellPlaced accepted |>.positive
      refine absurd ⟨Span.around_start_le positive arrival.moment, .inr ?_⟩ full
      rw [counters, List.length_nil]
      omega

end Tracker

/-! ### Runs -/

namespace Chronicle

variable {source : String} {config : Config} {arrivals : List Arrival} {arrival : Arrival}

theorem failures_concat :
    (ofArrivals source config (arrivals ++ [arrival])).failures = [] ↔
      (ofArrivals source config arrivals).failures = [] ∧
        ((ofArrivals source config arrivals).tracker.deliver arrival).failure? = none := by
  rw [ofArrivals_concat]
  simp [next]

/-- The window lies around the latest arrival, whether it was recorded or not. -/
theorem span_ofArrivals (source : String) (accepted : config.Accepted) (arrivals : List Arrival) :
    (ofArrivals source config arrivals).tracker.window.span =
      (latest? arrivals).map (Span.around config.windowMillis) := by
  induction arrivals using List.reverseRecOn with
  | nil => rfl
  | append_singleton arrivals arrival ih =>
    have sound : (ofArrivals source config arrivals).Sound source config :=
      sound_ofArrivals accepted arrivals
    obtain ⟨brought, advance, -, -, -, same⟩ :=
      (Tracker.Tallies.deliver sound accepted arrival).1.brought
    have length := (Tracker.Tallies.noted sound arrival.moment).length_eq
    rw [ofArrivals_concat, latest?_concat]
    refine same.trans ?_
    rw [← length] at ih
    have moved := advance.span_eq (length ▸ accepted.windowMillis_pos) ih
    rwa [length] at moved

/-- As long as no call has failed, an arrival was recorded in the current window. -/
theorem occupied_ofArrivals (accepted : config.Accepted) (roomy : 1 ≤ config.maxMessages)
    (fine : (ofArrivals source config arrivals).failures = []) {span : Span}
    (placed : (ofArrivals source config arrivals).tracker.window.span = some span) :
    ∃ other ∈ (ofArrivals source config arrivals).recorded,
      span.start ≤ other.moment ∧ other.moment < span.stop := by
  induction arrivals using List.reverseRecOn generalizing span with
  | nil => cases placed
  | append_singleton arrivals arrival ih =>
    obtain ⟨earlier, succeeds⟩ := failures_concat.1 fine
    have sound : (ofArrivals source config arrivals).Sound source config :=
      sound_ofArrivals accepted arrivals
    have longer : (ofArrivals source config (arrivals ++ [arrival])).Sound source config :=
      sound_ofArrivals accepted (arrivals ++ [arrival])
    have after := longer.current span placed
    rw [ofArrivals_concat] at placed after ⊢
    rw [recorded_next] at after ⊢
    rcases Tracker.Tallies.recorded_or_noted sound accepted roomy succeeds with
      answer | ⟨index, unmoved⟩
    · have low := Tracker.Tallies.start_le_of_recorded sound accepted answer placed
      rw [Outcome.accepted, answer, if_pos rfl] at after ⊢
      have high := after.recorded_lt arrival List.mem_concat_self
      exact ⟨arrival, List.mem_concat_self, low, high⟩
    · have same : (ofArrivals source config arrivals).tracker.window.span = some span := by
        rw [← placed, tracker_next, unmoved]
        rfl
      rw [unmoved]
      exact ih earlier same

/-- In a run without failures an arrival is recorded if it does not lie before the window of the
latest arrival so far, this one included, and if its id is known there or has room. So the first
arrival of a window is always recorded and no window is closed without an arrival. One that is not
recorded leaves only its moment and its bucket behind. -/
theorem recorded_iff_room (source : String) (accepted : config.Accepted)
    (roomy : 1 ≤ config.maxMessages) (arrivals : List Arrival) (arrival : Arrival)
    (fine : (ofArrivals source config (arrivals ++ [arrival])).failures = []) {latest : Int}
    (reached : latest? (arrivals ++ [arrival]) = some latest) :
    let run := ofArrivals source config arrivals
    let before := run.tracker
    let outcome := before.deliver arrival
    let start := config.windowStart latest
    let known := ids (within start (start + config.windowMillis) run.recorded)
    (outcome.result = .ok true ∨ outcome.result = .ok false) ∧
      (outcome.result = .ok true ↔ start ≤ arrival.moment ∧
        (arrival.messageId ∈ known ∨ known.length < config.maxMessages)) ∧
      (outcome.state.window.span ≠ before.window.span → outcome.result = .ok true) ∧
      (∀ closing, before.closedWindow? outcome.state = some closing →
        ∃ other ∈ run.recorded,
          closing ≤ other.moment ∧ other.moment < closing + config.windowMillis) ∧
      (outcome.result = .ok false → outcome.entries = [] ∧
        ∃ currentIndex, outcome.state =
          { before with
            window := { before.window with lastEvent := some arrival.moment, currentIndex } }) := by
  intro run before outcome start known
  obtain ⟨earlier, succeeds⟩ := failures_concat.1 fine
  have sound : run.Sound source config := sound_ofArrivals accepted arrivals
  have placed : outcome.state.window.span = some (.around config.windowMillis latest) := by
    have around := span_ofArrivals source accepted (arrivals ++ [arrival])
    rw [reached] at around
    rw [ofArrivals_concat] at around
    exact around
  have answer : outcome.result = .ok (decide (start ≤ arrival.moment ∧
      (arrival.messageId ∈ known ∨ known.length < config.maxMessages))) :=
    sound.result_eq accepted succeeds placed
  have frame := sound.recorded_or_noted accepted roomy succeeds
  refine ⟨?_, ?_, ?_, ?_, ?_⟩
  · rw [answer, Except.ok.injEq, Except.ok.injEq]
    exact Bool.eq_false_or_eq_true _
  · rw [answer]
    simp
  · intro moved
    rcases frame with recorded | ⟨index, unmoved⟩
    · exact recorded
    · exact absurd (congrArg (fun after => after.state.window.span) unmoved) moved
  · intro closing closes
    unfold Tracker.closedWindow? at closes
    cases open_at : before.window.span with
    | none =>
      rw [open_at] at closes
      cases closes
    | some span =>
      rw [open_at] at closes
      dsimp only at closes
      split at closes
      · cases closes
      · obtain rfl := Option.some.inj closes
        rw [← (sound.current span open_at).stop_eq]
        exact occupied_ofArrivals accepted roomy earlier open_at
  · intro refused
    rcases frame with recorded | ⟨index, unmoved⟩
    · cases recorded.symm.trans refused
    · exact ⟨congrArg Outcome.entries unmoved, index, congrArg Outcome.state unmoved⟩

/-- A window with room for one id refuses another, and then the next window has begun when a late
arrival comes. -/
theorem recorded_iff_room_late :
    let config := { Config.standard with maxMessages := 1 }
    let arrivals : List Arrival :=
      [⟨"a", 0, false⟩, ⟨"b", 600000, false⟩, ⟨"a", 1200000, false⟩, ⟨"c", 7200000, false⟩]
    let late : Arrival := ⟨"c", 7199999, false⟩
    let run := ofArrivals "gate" config arrivals
    config.Accepted ∧ 1 ≤ config.maxMessages ∧
      (ofArrivals "gate" config (arrivals ++ [late])).failures = [] ∧
      latest? (arrivals ++ [late]) = some 7200000 ∧
      run.recorded.map (·.moment) = [0, 1200000, 7200000] ∧
      (run.tracker.deliver late).result = .ok false ∧
      (run.tracker.deliver late).state.window.counters = run.tracker.window.counters := by
  intro config arrivals late run
  have accepted : config.Accepted := ⟨by decide, rfl⟩
  have roomy : 1 ≤ config.maxMessages := by decide
  have fine : (ofArrivals "gate" config (arrivals ++ [late])).failures = [] := by decide +kernel
  have reached : latest? (arrivals ++ [late]) = some 7200000 := by decide
  obtain ⟨answered, room, -, -, frame⟩ :=
    recorded_iff_room "gate" accepted roomy arrivals late fine reached
  have refused : (run.tracker.deliver late).result = .ok false := by
    refine answered.resolve_left fun recorded => ?_
    exact absurd (room.1 recorded).1 (by decide)
  obtain ⟨-, index, state⟩ := frame refused
  exact ⟨accepted, roomy, fine, reached, by decide +kernel, refused, by rw [state]⟩

end Chronicle

end ArrivalRates
