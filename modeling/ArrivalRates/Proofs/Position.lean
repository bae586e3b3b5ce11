import ArrivalRates.Proofs.Acceptance
import Mathlib.Logic.Function.Iterate

/-!
# Where the window lies

In a run without failures the latest arrival decides where the window lies and which is its highest
bucket, in whatever order the arrivals came: one that comes late or is turned away changes neither.
Moving the window on by one length at a time, past windows in which nothing arrived, ends where a
first window would be placed for the arrival.
-/

namespace ArrivalRates

open Arrivals

namespace Window

/-- The moved span is the first one on its way that ends after the moment. -/
theorem advanceTo_eq_iterate (window : Window) (moment : Int) (span : Span) :
    ∃ steps, span.advanceTo window.length moment = window.next^[steps] span ∧
      ∀ fewer < steps, (window.next^[fewer] span).stop ≤ moment := by
  fun_induction Span.advanceTo window.length moment span with
  | case1 span h ih =>
    obtain ⟨steps, reached, before⟩ := ih
    refine ⟨steps + 1, reached, ?_⟩
    intro fewer less
    cases fewer with
    | zero => exact h.2
    | succ fewer => exact before fewer (by omega)
  | case2 span h => exact ⟨0, rfl, by simp⟩

end Window

/-! ### The highest bucket -/

/-- The bucket of a moment in the window around it. -/
def Config.bucketOf (config : Config) (moment : Int) : Int :=
  (moment - config.windowStart moment) / bucketMillis

namespace Config.Accepted

variable {config : Config}

theorem bucketOf_nonneg (accepted : config.Accepted) (moment : Int) :
    0 ≤ config.bucketOf moment := by
  have low := accepted.windowStart_le moment
  unfold bucketOf bucketMillis
  omega

theorem windowStart_mono (accepted : config.Accepted) {moment later : Int}
    (order : moment ≤ later) : config.windowStart moment ≤ config.windowStart later :=
  Int.mul_le_mul_of_nonneg_right (Int.ediv_le_ediv accepted.windowMillis_pos order)
    accepted.windowMillis_pos.le

/-- Within one window, later moments lie in later buckets. -/
theorem bucketOf_max (accepted : config.Accepted) {last moment : Int}
    (before : moment < (Span.around config.windowMillis last).stop) :
    config.bucketOf (max last moment) =
      max (config.bucketOf last) ((moment - config.windowStart last) / bucketMillis) := by
  have same : config.windowStart (max last moment) = config.windowStart last :=
    congrArg Span.start (Span.around_max accepted.windowMillis_pos before)
  unfold bucketOf
  rw [same]
  unfold bucketMillis
  omega

end Config.Accepted

namespace Tracker

variable {source : String} {config : Config} {recorded : List Arrival} {closed : List Int}
  {tracker : Tracker} {arrival : Arrival}

/-- If the window lies around the latest moment and its highest bucket is that of the latest moment,
then so it is after an arrival. -/
theorem Tallies.currentIndex_deliver (tallies : Tallies source config recorded closed tracker)
    (accepted : config.Accepted) (succeeds : (tracker.deliver arrival).failure? = none)
    {last : Option Int}
    (around : tracker.window.span = last.map (Span.around config.windowMillis))
    (highest : ∀ moment, last = some moment →
      tracker.window.currentIndex = config.bucketOf moment) :
    (tracker.deliver arrival).state.window.currentIndex =
      config.bucketOf (last.elim arrival.moment (max · arrival.moment)) := by
  obtain ⟨brought, _, span, advance, after, placed, before, delivered⟩ :=
    tallies.deliver_of_ok accepted succeeds
  have length := (tallies.noted arrival.moment).length_eq
  have index : (tracker.deliver arrival).state.window.currentIndex =
      max brought.state.window.currentIndex ((arrival.moment - span.start) / bucketMillis) := by
    rw [delivered]
    exact (Window.record_index placed after.bucket_eq ..).2
  rw [index]
  -- a window that has just been placed begins with its first bucket
  have fresh : brought.state.window.currentIndex = 0 →
      brought.state.window.span = some (.around (tracker.noted arrival.moment).window.length
        arrival.moment) →
      max brought.state.window.currentIndex ((arrival.moment - span.start) / bucketMillis) =
        config.bucketOf arrival.moment := by
    intro zero moved
    obtain rfl := Option.some.inj (placed.symm.trans moved)
    rw [zero, length]
    exact max_eq_right (accepted.bucketOf_nonneg arrival.moment)
  cases advance with
  | unstarted inactive | opened inactive =>
    have none : tracker.window.span = none := inactive
    rw [none, eq_comm, Option.map_eq_none_iff] at around
    rw [around]
    exact fresh rfl rfl
  | stayed here =>
    have open_at : tracker.window.span = some span := placed
    rw [open_at, eq_comm, Option.map_eq_some_iff] at around
    obtain ⟨last, rfl, rfl⟩ := around
    have unmoved : (tracker.noted arrival.moment).window.currentIndex = config.bucketOf last :=
      highest last rfl
    rw [Option.elim_some, accepted.bucketOf_max before, ← unmoved]
    rfl
  | moved here past due =>
    have open_at : tracker.window.span = some _ := here
    rw [open_at, eq_comm, Option.map_eq_some_iff] at around
    obtain ⟨last, rfl, rfl⟩ := around
    have beyond := (Span.lt_around_stop accepted.windowMillis_pos last).trans_le past
    rw [Option.elim_some, max_eq_right beyond.le]
    refine fresh ?_ ?_ <;> rw [due.window_eq] <;> rfl

end Tracker

/-! ### Runs -/

namespace Chronicle

variable {source : String} {config : Config} {arrivals : List Arrival} {arrival : Arrival}

theorem latest?_cases {latest : Int} (reached : latest? (arrivals ++ [arrival]) = some latest) :
    latest? arrivals = none ∧ latest = arrival.moment ∨
      ∃ last, latest? arrivals = some last ∧ latest = max last arrival.moment := by
  rw [latest?_concat] at reached
  obtain rfl := Option.some.inj reached
  cases latest? arrivals with
  | none => exact .inl ⟨rfl, rfl⟩
  | some last => exact .inr ⟨last, rfl, rfl⟩

theorem currentIndex_ofArrivals (accepted : config.Accepted)
    (fine : (ofArrivals source config arrivals).failures = []) {latest : Int}
    (reached : latest? arrivals = some latest) :
    (ofArrivals source config arrivals).tracker.window.currentIndex = config.bucketOf latest := by
  induction arrivals using List.reverseRecOn generalizing latest with
  | nil => cases reached
  | append_singleton arrivals arrival ih =>
    obtain ⟨earlier, succeeds⟩ := failures_concat.1 fine
    have sound : (ofArrivals source config arrivals).Sound source config :=
      sound_ofArrivals accepted arrivals
    rw [latest?_concat] at reached
    obtain rfl := Option.some.inj reached
    rw [ofArrivals_concat, tracker_next]
    exact Tracker.Tallies.currentIndex_deliver sound accepted succeeds
      (span_ofArrivals source accepted arrivals) fun _ => ih earlier

/-- After each call of a run without failures, the window is the one around the latest arrival so
far, its highest bucket that of the latest arrival, and the arrival of the call lies before its end.
The window never moves back. When it moves, the single steps end, where the first window would be
placed for the arrival, and no arrival that was not before the window is before it now. -/
theorem position_of_latest (source : String) (accepted : config.Accepted)
    (arrivals : List Arrival) (arrival : Arrival)
    (fine : (ofArrivals source config (arrivals ++ [arrival])).failures = []) {latest : Int}
    (reached : latest? (arrivals ++ [arrival]) = some latest) :
    let before := (ofArrivals source config arrivals).tracker.window
    let after := (ofArrivals source config (arrivals ++ [arrival])).tracker.window
    let start := latest / config.windowMillis * config.windowMillis
    after.span = some ⟨start, start + config.windowMillis⟩ ∧
      after.currentIndex = (latest - start) / bucketMillis ∧
      arrival.moment < start + config.windowMillis ∧
      (before.span = none → start ≤ arrival.moment) ∧
      ∀ span, before.span = some span →
        span.start ≤ start ∧ (span.start ≤ arrival.moment → start ≤ arrival.moment) ∧
        (span.stop ≤ arrival.moment →
          after.span = some (span.advanceTo before.length arrival.moment) ∧
          before.openAt arrival.moment = .ok { before with span := after.span, currentIndex := 0 } ∧
          ∃ steps, after.span = some (before.next^[steps] span) ∧
            ∀ fewer < steps, (before.next^[fewer] span).stop ≤ arrival.moment) := by
  intro before after start
  have positive := accepted.windowMillis_pos
  have low := accepted.windowStart_le arrival.moment
  have sound : (ofArrivals source config arrivals).Sound source config :=
    sound_ofArrivals accepted arrivals
  have length : before.length = config.windowMillis := Tracker.Tallies.length_eq sound
  have around : before.span = (latest? arrivals).map (Span.around config.windowMillis) :=
    span_ofArrivals source accepted arrivals
  have placed : after.span = some (.around config.windowMillis latest) := by
    rw [← Option.map_some, ← reached]
    exact span_ofArrivals source accepted (arrivals ++ [arrival])
  refine ⟨placed, currentIndex_ofArrivals accepted fine reached, ?_⟩
  rcases latest?_cases reached with ⟨first, rfl⟩ | ⟨last, earlier, rfl⟩
  · have inactive : before.span = none := by
      rw [around, first]
      rfl
    refine ⟨Span.lt_around_stop positive _, fun _ => low, ?_⟩
    intro span open_at
    cases inactive.symm.trans open_at
  · have active : before.span = some (.around config.windowMillis last) := by
      rw [around, earlier]
      rfl
    refine ⟨?_, ?_, ?_⟩
    · exact (le_max_right ..).trans_lt (Span.lt_around_stop positive _)
    · intro inactive
      cases active.symm.trans inactive
    · intro span open_at
      obtain rfl := Option.some.inj (active.symm.trans open_at)
      refine ⟨accepted.windowStart_mono (le_max_left ..), ?_, ?_⟩
      · intro kept
        show config.windowStart (max last arrival.moment) ≤ arrival.moment
        rcases le_total last arrival.moment with late | early
        · rwa [max_eq_right late]
        · rwa [max_eq_left early]
      · intro past
        have beyond := (Span.lt_around_stop positive last).trans_le past
        rw [max_eq_right beyond.le] at placed
        have jumped : (Span.around config.windowMillis last).advanceTo before.length
            arrival.moment = .around config.windowMillis arrival.moment := by
          rw [length]
          exact Span.advanceTo_eq_around positive (Int.dvd_mul_left ..) rfl
            ((Span.around_start_le positive last).trans beyond.le)
        obtain ⟨steps, stepped, short⟩ :=
          before.advanceTo_eq_iterate arrival.moment (.around config.windowMillis last)
        refine ⟨?_, ?_, steps, ?_, short⟩
        · rw [placed, jumped]
        · rw [Window.openAt_eq (length ▸ positive), placed, length]
        · rw [placed, ← stepped, jumped]

/-- Arrivals before zero, a late one, and one past two windows without arrivals. -/
theorem position_of_latest_negative :
    let arrivals : List Arrival :=
      [⟨"a", -1, false⟩, ⟨"b", -4200000, false⟩, ⟨"c", -9000000, true⟩, ⟨"d", 599999, false⟩]
    let arrival : Arrival := ⟨"a", 22200000, false⟩
    let before := (ofArrivals "gate" Config.standard arrivals).tracker.window
    let after := (ofArrivals "gate" Config.standard (arrivals ++ [arrival])).tracker.window
    Config.standard.Accepted ∧
      (ofArrivals "gate" Config.standard (arrivals ++ [arrival])).failures = [] ∧
      latest? (arrivals ++ [arrival]) = some 22200000 ∧
      before.span = some ⟨0, 7200000⟩ ∧
      after.span = some ⟨21600000, 28800000⟩ ∧ after.currentIndex = 1 ∧
      before.openAt arrival.moment =
        .ok { before with span := some ⟨21600000, 28800000⟩, currentIndex := 0 } := by
  intro arrivals arrival before after
  have accepted : Config.standard.Accepted := ⟨by decide, rfl⟩
  have fine : (ofArrivals "gate" Config.standard (arrivals ++ [arrival])).failures = [] := by
    decide +kernel
  have reached : latest? (arrivals ++ [arrival]) = some 22200000 := by decide
  have open_at : before.span = some ⟨0, 7200000⟩ := by decide +kernel
  obtain ⟨placed, index, -, -, moves⟩ :=
    position_of_latest "gate" accepted arrivals arrival fine reached
  obtain ⟨-, -, jump⟩ := moves _ open_at
  obtain ⟨-, opens, -⟩ := jump (by decide)
  have there : after.span = some ⟨21600000, 28800000⟩ := placed
  refine ⟨accepted, fine, reached, open_at, there, index, ?_⟩
  rw [← there]
  exact opens

end Chronicle

end ArrivalRates
