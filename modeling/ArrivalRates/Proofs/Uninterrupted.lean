import ArrivalRates.Proofs.Notices
import ArrivalRates.Proofs.UtcTime

/-!
# Events that never fail

On the clock of UTC, as in the standard configuration, every moment of the calendar can be shown:
the start of a window, the day of a report, and the ends of a gap, which lie between two events. So
events at moments of the calendar are all answered, in whatever order they come.
-/

namespace ArrivalRates

/-! ### Moments of the calendar -/

theorem WallTime.isSupported_ofMillis_between {first last moment : Int}
    (low : (ofMillis first).isSupported) (high : (ofMillis last).isSupported)
    (after : first ≤ moment) (before : moment ≤ last) : (ofMillis moment).isSupported := by
  rw [isSupported_ofMillis_iff, Day.isSupported_iff] at *
  dsimp only at *
  omega

theorem TimeZone.dayAt_utc {moment : Int} (supported : (WallTime.ofMillis moment).isSupported) :
    utc.dayAt moment = .ok ⟨moment / 86400000⟩ :=
  dayAt_utc_eq_ok_iff.2 ⟨WallTime.isSupported_ofMillis_iff.1 supported, rfl⟩

theorem TimeZone.exists_atMillis_utc {moment : Int}
    (supported : (WallTime.ofMillis moment).isSupported) :
    ∃ time, utc.atMillis moment = .ok time := by
  obtain ⟨micros, shown, second, -⟩ := utcMicros_spec supported
  exact ⟨_, atMillis_utc_of_utcMicros supported shown second⟩

theorem Config.standard_accepted : standard.Accepted := ⟨by decide, rfl⟩

/-- The windows of the standard configuration do not reach beyond a day. -/
theorem Config.isSupported_windowStart {moment : Int}
    (supported : (WallTime.ofMillis moment).isSupported) :
    (WallTime.ofMillis (standard.windowStart moment)).isSupported := by
  have length : standard.windowMillis = 7200000 := rfl
  rw [WallTime.isSupported_ofMillis_iff] at supported ⊢
  have same : standard.windowStart moment / 86400000 = moment / 86400000 := by
    rw [windowStart, length]
    omega
  rwa [same]

namespace Tracker

variable {source : String} {tracker : Tracker} {last : Option Int} {event : Event}

/-! ### One event -/

theorem exists_gapNotice (zone : tracker.config.zone = TimeZone.utc) {previous next : Int}
    {gap : Gap} (between : gap.Between previous next)
    (low : (WallTime.ofMillis previous).isSupported) (high : (WallTime.ofMillis next).isSupported) :
    ∃ line, tracker.gapNotice gap = .ok line := by
  have order := between.nonempty
  have begins := (nextBucket_spec previous).1
  have ends := (bucketStart_spec next).1
  rw [← between.start_eq] at begins
  rw [← between.stop_eq] at ends
  rw [← between.previous_eq] at low
  have inside : ∀ moment, previous ≤ moment → moment ≤ next →
      ∃ time, TimeZone.utc.atMillis moment = .ok time := fun moment after before =>
    TimeZone.exists_atMillis_utc (WallTime.isSupported_ofMillis_between
      (between.previous_eq ▸ low) high after before)
  obtain ⟨time, shown⟩ := TimeZone.exists_atMillis_utc low
  obtain ⟨start, shown'⟩ := inside gap.start begins (by omega)
  obtain ⟨stop, shown''⟩ := inside gap.stop (by omega) ends
  refine ⟨gapLine tracker.source time.wall gap.skipped start.wall stop.wall, ?_⟩
  rw [gapNotice, zone, shown, shown', shown'']
  rfl

/-- A tracker of the standard configuration with which nothing has gone wrong. -/
structure Unhindered (source : String) (last : Option Int) (tracker : Tracker) : Prop where
  tallies : ∃ recorded closed, Tallies source .standard recorded closed tracker
  running : tracker.window.span ≠ none → tracker.schedule.Running
  lastEvent_eq : tracker.window.lastEvent = last

theorem unhindered_fresh (source : String) : Unhindered source none (fresh source .standard) where
  tallies := ⟨_, _, tallies_fresh source .standard⟩
  running := fun active => absurd rfl active
  lastEvent_eq := rfl

theorem Unhindered.deliver (unhindered : Unhindered source last tracker) (arrival : Arrival)
    (supported : (WallTime.ofMillis arrival.moment).isSupported) :
    (∃ answer, (tracker.deliver arrival).result = .ok answer) ∧
      Unhindered source (some arrival.moment) (tracker.deliver arrival).state := by
  obtain ⟨recorded, closed, tallies⟩ := unhindered.tallies
  have accepted := Config.standard_accepted
  have noted := tallies.noted arrival.moment
  obtain ⟨delivery, after⟩ := tallies.deliver accepted arrival
  obtain ⟨brought, advance, -, failure, schedule, -⟩ := delivery.brought
  have succeeds : brought.result = .ok () := by
    cases result : brought.result with
    | ok => rfl
    | error cause =>
      rcases (advance.fails_iff unhindered.running fun span placed past stamp =>
        (noted.rolledTo accepted placed past).reportLines_ok accepted (by decide) _ stamp).1 result
        with ⟨-, missing⟩ | ⟨-, -, -, missing⟩
      · rw [noted.zone_eq, noted.length_eq] at missing
        have start := TimeZone.dayAt_utc (Config.isSupported_windowStart supported)
        exact absurd (start.symm.trans missing) nofun
      · rw [noted.zone_eq] at missing
        exact absurd ((TimeZone.dayAt_utc supported).symm.trans missing) nofun
  refine ⟨?_, ⟨_, _, after⟩, fun _ => ?_, delivery.lastEvent_eq⟩
  · cases result : (tracker.deliver arrival).result with
    | ok answer => exact ⟨answer, rfl⟩
    | error cause =>
      rw [Outcome.failure?, result, Outcome.failure?, succeeds] at failure
      cases failure
  · rw [schedule]
    exact advance.running unhindered.running succeeds

/-- An event after another one can announce the gap between them. -/
theorem Unhindered.consume (unhindered : Unhindered source last tracker)
    (supported : (WallTime.ofMillis event.arrival).isSupported)
    (earlier : ∀ previous ∈ last, (WallTime.ofMillis previous).isSupported) :
    (∃ answer, (tracker.consume event).result = .ok answer) ∧
      Unhindered source (some event.arrival) (tracker.consume event).state := by
  obtain ⟨recorded, closed, tallies⟩ := unhindered.tallies
  have marked : (tracker.marked event).result = .ok () := by
    unfold marked
    split
    next starting =>
      have found := gapBefore_of_starting tallies.bucket_eq starting
      cases answer : tracker.window.lastEvent.bind event.gapAfter? with
      | none =>
        rw [answer] at found
        simp only [markLoggerStarting, found]
        rfl
      | some gap =>
        rw [answer] at found
        obtain ⟨previous, last_eq, reported⟩ := Option.bind_eq_some_iff.1 answer
        rw [unhindered.lastEvent_eq] at last_eq
        obtain ⟨-, between⟩ := Event.gapAfter?_eq_some_iff.1 reported
        have zone : tracker.config.zone = TimeZone.utc := by rw [tallies.config_eq]; rfl
        obtain ⟨line, notice⟩ := exists_gapNotice zone between (earlier previous last_eq) supported
        rw [markLoggerStarting_of_gap found, notice]
        rfl
    next => rfl
  obtain ⟨notices, same, -⟩ := marked_eq tallies.bucket_eq marked
  rw [consume_eq, Outcome.andThen_of_ok marked, same]
  have shifted : Unhindered source last (tracker.shifted 0 notices.length) :=
    ⟨⟨_, _, tallies.withNotices _ _⟩, unhindered.running, unhindered.lastEvent_eq⟩
  exact shifted.deliver event.toArrival supported

/-! ### Some events -/

/-- Events at moments of the calendar are answered one after the other. -/
theorem answered_of_supported (source : String) {events : List Event}
    (supported : ∀ event ∈ events, (WallTime.ofMillis event.arrival).isSupported) :
    (∀ receipt ∈ receiptsFor consume (fresh source .standard) events, receipt.Answered) ∧
      Unhindered source (events.getLast?.map Event.arrival)
        (afterEvents consume (fresh source .standard) events) := by
  induction events using List.reverseRecOn with
  | nil => exact ⟨nofun, unhindered_fresh source⟩
  | append_singleton events event ih =>
    rw [List.forall_mem_append, List.forall_mem_singleton] at supported
    obtain ⟨answered, unhindered⟩ := ih supported.1
    obtain ⟨here, after⟩ := unhindered.consume supported.2 fun previous last => by
      obtain ⟨other, latest, rfl⟩ := Option.map_eq_some_iff.1 last
      exact supported.1 other (List.mem_of_getLast? latest)
    rw [receiptsFor_append, afterEvents_append, List.getLast?_concat]
    refine ⟨fun receipt member => ?_, after⟩
    rcases List.mem_append.1 member with before | last
    · exact answered receipt before
    · obtain rfl := List.mem_singleton.1 last
      exact here

/-- The same for the events of one key among those of others. -/
theorem own_answered_of_supported (key : String) {events : List Event}
    (supported : ∀ event ∈ events, (WallTime.ofMillis event.arrival).isSupported) :
    (∀ receipt ∈ receiptsFor consume (fresh key .standard) (Config.standard.eventsOf key events),
      receipt.Answered) ∧
      Unhindered key ((Config.standard.eventsOf key events).getLast?.map Event.arrival)
        (Config.standard.trackerAfter key events) :=
  answered_of_supported key fun event member => supported event (List.mem_of_mem_filter member)

end Tracker

theorem Registry.answered_of_supported {events : List Event}
    (supported : ∀ event ∈ events, (WallTime.ofMillis event.arrival).isSupported) :
    ∀ receipt ∈ receiptsFor consume (create .standard) events, receipt.Answered := by
  intro receipt member
  have own : receipt ∈ Config.standard.receiptsOf (Config.standard.keyOf receipt.event.source)
      (receiptsFor consume (create .standard) events) :=
    List.mem_filter.2 ⟨member, decide_eq_true rfl⟩
  rw [(holds_create .standard).receiptsOf_eq Config.standard_accepted] at own
  exact (Tracker.own_answered_of_supported _ supported).1 receipt own

end ArrivalRates
