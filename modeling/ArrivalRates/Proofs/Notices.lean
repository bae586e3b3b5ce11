import ArrivalRates.Proofs.Barrier
import ArrivalRates.Proofs.Written
import Mathlib.Data.Rat.Floor

/-!
# The notices of a stream in order

As long as the events of a key come in the order of their moments and none of them fails, the
arrival that came last is also the latest. So an event whose logger has just started reports the
whole buckets between the event before it and itself, and nothing arrived in them, neither before
nor later. The gaps that are reported lie one after the other. `gapsAfter` lists them without a
tracker; that a tracker reports these and no others is proved event by event.
-/

namespace ArrivalRates

/-! ### The gaps of a stream -/

namespace Event

/-- The gap that an event reports when the one before it came at a moment: its logger has just
started, and a whole bucket lies in between. -/
def gapAfter? (event : Event) (previous : Int) : Option Gap :=
  if event.loggerStarting ∧ nextBucket previous < bucketStart event.arrival then
    some (.spanning previous event.arrival)
  else none

/-- The gaps that some events report one after the other, the first of them after a moment. -/
def gapsAfter (previous : Option Int) : List Event → List Gap
  | [] => []
  | event :: rest =>
    (previous.bind event.gapAfter?).toList ++ gapsAfter (some event.arrival) rest

def gaps (events : List Event) : List Gap := gapsAfter none events

variable {event : Event} {previous : Int} {gap : Gap}

theorem gapAfter?_eq_some_iff :
    event.gapAfter? previous = some gap ↔
      event.loggerStarting = true ∧ gap.Between previous event.arrival := by
  unfold gapAfter?
  constructor
  · intro found
    split at found
    next apart => exact ⟨apart.1, Option.some.inj found ▸ Gap.between_spanning apart.2⟩
    · cases found
  · rintro ⟨starting, between⟩
    have apart := between.nonempty
    rw [between.start_eq, between.stop_eq] at apart
    rw [if_pos ⟨starting, apart⟩, between.eq_spanning]

theorem gapAfter?_isSome_iff :
    (event.gapAfter? previous).isSome ↔
      event.loggerStarting = true ∧ nextBucket previous < bucketStart event.arrival := by
  unfold gapAfter?
  split
  next apart => exact iff_of_true rfl apart
  next close => exact iff_of_false Bool.false_ne_true close

theorem gapsAfter_concat (previous : Option Int) (events : List Event) (event : Event) :
    gapsAfter previous (events ++ [event]) = gapsAfter previous events ++
      (((events.getLast?.map Event.arrival).or previous).bind event.gapAfter?).toList := by
  induction events generalizing previous with
  | nil => simp [gapsAfter]
  | cons first rest ih =>
    rw [List.cons_append, gapsAfter, gapsAfter, ih, List.append_assoc]
    cases rest with
    | nil => rfl
    | cons second rest =>
      rw [List.getLast?_cons_cons, List.getLast?_eq_some_getLast (List.cons_ne_nil second rest)]
      rfl

/-- The gap that an event reports when some events came before it. -/
def gapSince? (event : Event) (events : List Event) : Option Gap :=
  (events.getLast?.map arrival).bind event.gapAfter?

theorem gaps_concat (events : List Event) (event : Event) :
    gaps (events ++ [event]) = gaps events ++ (event.gapSince? events).toList := by
  rw [gaps, gapsAfter_concat, Option.or_none, gaps, gapSince?]

theorem gapSince?_eq_some_iff {events : List Event} :
    event.gapSince? events = some gap ↔ event.loggerStarting = true ∧
      ∃ previous, events.getLast? = some previous ∧
        gap.Between previous.arrival event.arrival := by
  rw [gapSince?, Option.bind_map, Option.bind_eq_some_iff]
  simp only [Function.comp_apply, gapAfter?_eq_some_iff, exists_and_left,
    and_left_comm (b := event.loggerStarting = true)]

theorem gapSince?_isSome_iff {events : List Event} :
    (event.gapSince? events).isSome ↔ event.loggerStarting = true ∧
      ∃ previous, events.getLast? = some previous ∧
        nextBucket previous.arrival < bucketStart event.arrival := by
  rw [gapSince?, Option.bind_map]
  cases events.getLast? <;> simp [gapAfter?_isSome_iff]

end Event

/-- Whole buckets, at least one, in which none of some moments lies past their start. -/
structure Gap.Clear (moments : List Int) (gap : Gap) : Prop where
  aligned : bucketMillis ∣ gap.start
  nonempty : gap.start < gap.stop
  skipped_eq : gap.skipped * bucketMillis = gap.stop - gap.start
  uncovered : ∀ moment ∈ moments, ¬gap.Covers moment

theorem Gap.Between.clear {previous next : Int} {gap : Gap} (between : gap.Between previous next)
    {moments : List Int} (outside : ∀ moment ∈ moments, moment ≤ previous ∨ next ≤ moment) :
    gap.Clear moments where
  aligned := by
    rw [between.start_eq]
    exact Int.dvd_mul_left ..
  nonempty := between.nonempty
  skipped_eq := between.skipped_eq
  uncovered := by
    rintro moment member ⟨low, high⟩
    rw [between.start_eq] at low
    rw [between.stop_eq] at high
    rcases outside moment member with before | after
    · exact absurd (before.trans (nextBucket_spec previous).1) (not_le.2 low)
    · exact absurd ((bucketStart_spec next).1.trans after) (not_le.2 high)

theorem Gap.Clear.concat {moments : List Int} {gap : Gap} (clear : gap.Clear moments) {moment : Int}
    (outside : ¬gap.Covers moment) : gap.Clear (moments ++ [moment]) :=
  { clear with
    uncovered := by
      intro other member
      rcases List.mem_append.1 member with before | same
      · exact clear.uncovered other before
      · exact List.mem_singleton.1 same ▸ outside }

namespace Event

variable {events : List Event} {event : Event} {gap : Gap}

theorem mem_gaps_concat :
    gap ∈ gaps (events ++ [event]) ↔
      gap ∈ gaps events ∨ event.gapSince? events = some gap := by
  rw [gaps_concat, List.mem_append, Option.mem_toList]

theorem exists_stop_le (member : gap ∈ gaps events) :
    ∃ event ∈ events, gap.stop ≤ event.arrival := by
  induction events using List.reverseRecOn with
  | nil => cases member
  | append_singleton events event ih =>
    rcases mem_gaps_concat.1 member with before | here
    · obtain ⟨other, known, reached⟩ := ih before
      exact ⟨other, List.mem_append_left _ known, reached⟩
    · obtain ⟨-, _, -, between⟩ := gapSince?_eq_some_iff.1 here
      refine ⟨event, List.mem_append_right _ List.mem_cons_self, ?_⟩
      rw [between.stop_eq]
      exact (bucketStart_spec event.arrival).1

/-- In order, the events that came before are none of them later than the last one. -/
theorem arrival_le_getLast? (ordered : events.Pairwise (·.arrival ≤ ·.arrival)) {last : Event}
    (latest : events.getLast? = some last) : ∀ event ∈ events, event.arrival ≤ last.arrival := by
  obtain ⟨earlier, rfl⟩ := List.getLast?_eq_some_iff.1 latest
  intro event member
  rcases List.mem_append.1 member with before | same
  · exact (List.pairwise_append.1 ordered).2.2 event before last List.mem_cons_self
  · exact (List.mem_singleton.1 same) ▸ le_rfl

/-- In order, no event of a stream lies in one of its gaps. -/
theorem clear_of_mem_gaps (ordered : events.Pairwise (·.arrival ≤ ·.arrival))
    (member : gap ∈ gaps events) : gap.Clear (events.map arrival) := by
  induction events using List.reverseRecOn with
  | nil => cases member
  | append_singleton events event ih =>
    obtain ⟨earlier, -, last⟩ := List.pairwise_append.1 ordered
    have bounded : ∀ other ∈ events, other.arrival ≤ event.arrival :=
      fun other known => last other known event List.mem_cons_self
    rw [List.map_append, List.map_singleton]
    rcases mem_gaps_concat.1 member with before | here
    · obtain ⟨other, known, reached⟩ := exists_stop_le before
      refine (ih earlier before).concat fun covered => ?_
      exact absurd covered.2 (not_lt.2 (reached.trans (bounded other known)))
    · obtain ⟨-, previous, latest, between⟩ := gapSince?_eq_some_iff.1 here
      refine between.clear fun moment inside => ?_
      rcases List.mem_append.1 inside with before | same
      · obtain ⟨other, known, rfl⟩ := List.mem_map.1 before
        exact .inl (arrival_le_getLast? earlier latest other known)
      · exact .inr (List.mem_singleton.1 same).ge

/-- In order, each gap of a stream ends before the next one begins. -/
theorem pairwise_gaps (ordered : events.Pairwise (·.arrival ≤ ·.arrival)) :
    (gaps events).Pairwise fun earlier later => earlier.stop ≤ later.start := by
  induction events using List.reverseRecOn with
  | nil => exact .nil
  | append_singleton events event ih =>
    obtain ⟨earlier, -, -⟩ := List.pairwise_append.1 ordered
    rw [gaps_concat, List.pairwise_append]
    refine ⟨ih earlier, ?_, fun gap before gap' here => ?_⟩
    · cases event.gapSince? events <;> simp
    · obtain ⟨-, previous, latest, between⟩ :=
        gapSince?_eq_some_iff.1 (Option.mem_toList.1 here)
      obtain ⟨other, known, reached⟩ := exists_stop_le before
      rw [between.start_eq]
      exact (reached.trans (arrival_le_getLast? earlier latest other known)).trans
        (nextBucket_spec previous.arrival).1

end Event

/-! ### What one event writes -/

/-- A line is the notice of a gap: the number of its buckets, and its three times as the clock of a
zone shows them. -/
def Gap.IsNotice (zone : TimeZone) (source : String) (gap : Gap) (line : String) : Prop :=
  ∃ time start stop : String, zone.Displays gap.previous time ∧ zone.Displays gap.start start ∧
    zone.Displays gap.stop stop ∧
    line = Text.withFields source (noticeFields time gap.skipped start stop)

/-- Some lines are the notices of some gaps, and after them a whole report if there is more. -/
structure Announces (config : Config) (source : String) (gaps : List Gap)
    (notices lines : List String) : Prop where
  shown : List.Forall₂ (Gap.IsNotice config.zone source) gaps notices
  others : ∃ others, lines = notices ++ others ∧
    (others = [] ∨ ∃ stamp statistics, IsReport source stamp statistics others)

theorem Announces.ne_nil_iff {config : Config} {source : String} {gap : Option Gap}
    {notices lines : List String} (announces : Announces config source gap.toList notices lines) :
    notices ≠ [] ↔ gap.isSome := by
  rw [← List.length_pos_iff, ← announces.shown.length_eq]
  cases gap <;> simp

namespace Tracker

variable {source : String} {config : Config} {recorded : List Arrival} {closed : List Int}
  {tracker : Tracker} {event : Event}

theorem isNotice_of_gapNotice {gap : Gap} {line : String}
    (notice : tracker.gapNotice gap = .ok line) :
    gap.IsNotice tracker.config.zone tracker.source line := by
  obtain ⟨time, shown, notice⟩ := bind_eq_ok notice
  obtain ⟨start, shown', notice⟩ := bind_eq_ok notice
  obtain ⟨stop, shown'', notice⟩ := bind_eq_ok notice
  obtain rfl := Except.ok.inj notice
  exact ⟨_, _, _, TimeZone.displays_stamp shown, TimeZone.displays_stamp shown',
    TimeZone.displays_stamp shown'', gapLine_eq ..⟩

theorem Advance.gapNotices_eq {moment : Int} {outcome : Outcome Tracker Unit}
    (advance : Advance tracker moment outcome) :
    outcome.state.gapNotices = tracker.gapNotices := by
  cases advance with
  | unstarted | opened | stayed => rfl
  | moved _ _ due =>
    cases due with
    | undecided | quiet | unstamped | unwritten => rfl
    | reported =>
      simp only [afterReport]
      split <;> rfl

theorem Delivery.gapNotices_eq {arrival : Arrival} {outcome : Outcome Tracker Bool}
    (delivery : Delivery tracker arrival outcome) :
    outcome.state.gapNotices = tracker.gapNotices := by
  cases delivery with
  | failed advance => exact advance.gapNotices_eq
  | answered advance => exact advance.gapNotices_eq

/-- An arrival whose call does not fail writes nothing or a whole report. -/
theorem Tallies.isReport_deliver (tallies : Tallies source config recorded closed tracker)
    (accepted : config.Accepted) {arrival : Arrival}
    (fine : (tracker.deliver arrival).failure? = none) :
    (tracker.deliver arrival).lines = [] ∨
      ∃ stamp statistics, IsReport source stamp statistics (tracker.deliver arrival).lines := by
  by_cases silent : (tracker.deliver arrival).lines = []
  · exact .inl silent
  · obtain ⟨_, _, time, reports⟩ := tallies.reports_of_lines accepted silent
    have report := isReport_reportLines (reports.whole fine)
    rw [← reports.lines, tallies.source_eq] at report
    exact .inr ⟨_, _, report⟩

theorem gapBefore_of_starting (buckets : tracker.window.bucket = bucketMillis)
    (starting : event.loggerStarting = true) :
    tracker.window.gapBefore event.arrival =
      .ok (tracker.window.lastEvent.bind event.gapAfter?) := by
  have same : event.gapAfter? = fun previous =>
      if nextBucket previous < bucketStart event.arrival then
        some (Gap.spanning previous event.arrival)
      else none := by
    funext previous
    simp only [Event.gapAfter?, starting, true_and]
  rw [Window.gapBefore_eq buckets, same]

/-- What an event does before it is counted. -/
def marked (tracker : Tracker) (event : Event) : Outcome Tracker Unit :=
  if event.loggerStarting then tracker.markLoggerStarting event.arrival else .done tracker ()

theorem consume_eq (tracker : Tracker) (event : Event) :
    tracker.consume event =
      (tracker.marked event).andThen fun tracker () => tracker.deliver event.toArrival :=
  rfl

theorem marked_eq (buckets : tracker.window.bucket = bucketMillis)
    (fine : (tracker.marked event).result = .ok ()) :
    ∃ notices : List String,
      tracker.marked event =
        ⟨tracker.shifted 0 notices.length, .ok (), notices.map .line⟩ ∧
      List.Forall₂ (Gap.IsNotice tracker.config.zone tracker.source)
        (tracker.window.lastEvent.bind event.gapAfter?).toList notices := by
  unfold marked at fine ⊢
  cases starting : event.loggerStarting with
  | false =>
    have none : tracker.window.lastEvent.bind event.gapAfter? = none :=
      Option.bind_eq_none_iff.2 fun previous _ => by simp [Event.gapAfter?, starting]
    rw [none]
    exact ⟨[], rfl, .nil⟩
  | true =>
    have found := gapBefore_of_starting buckets starting
    rw [starting, if_pos rfl] at fine
    rw [if_pos rfl]
    cases answer : tracker.window.lastEvent.bind event.gapAfter? with
    | none =>
      rw [answer] at found
      refine ⟨[], ?_, .nil⟩
      simp only [markLoggerStarting, found]
      rfl
    | some gap =>
      rw [answer] at found
      rw [markLoggerStarting_of_gap found] at fine ⊢
      cases notice : tracker.gapNotice gap with
      | error failure =>
        rw [notice] at fine
        cases fine
      | ok line => exact ⟨[line], rfl, .cons (isNotice_of_gapNotice notice) .nil⟩

/-- An event whose delivery does not fail announces the gap before it, if there is one, and then
writes what its arrival writes. -/
theorem Tallies.announces_consume (tallies : Tallies source config recorded closed tracker)
    (accepted : config.Accepted) {answer : Bool}
    (fine : (tracker.consume event).result = .ok answer) :
    (∃ recorded closed, Tallies source config recorded closed (tracker.consume event).state) ∧
      (tracker.consume event).state.window.lastEvent = some event.arrival ∧
      ∃ notices : List String,
        (tracker.consume event).state.gapNotices = tracker.gapNotices + notices.length ∧
        Announces config source (tracker.window.lastEvent.bind event.gapAfter?).toList notices
          (tracker.consume event).lines := by
  rw [consume_eq] at fine ⊢
  cases result : (tracker.marked event).result with
  | error failure =>
    rw [Outcome.andThen_of_error result] at fine
    cases fine
  | ok =>
    obtain ⟨notices, marked, announced⟩ := marked_eq tallies.bucket_eq result
    have before : Tallies source config recorded closed (tracker.shifted 0 notices.length) :=
      tallies.withNotices _ _
    rw [Outcome.andThen_of_ok result, marked] at fine ⊢
    obtain ⟨delivery, after⟩ := before.deliver accepted event.toArrival
    rw [tallies.config_eq, tallies.source_eq] at announced
    refine ⟨⟨_, _, after⟩, delivery.lastEvent_eq, notices, delivery.gapNotices_eq, announced, ?_⟩
    refine ⟨((tracker.shifted 0 notices.length).deliver event.toArrival).lines, ?_, ?_⟩
    · rw [Outcome.lines, List.filterMap_append, Entry.filterMap_line?]
      rfl
    · refine before.isReport_deliver accepted ?_
      rw [Outcome.failure?, fine]

end Tracker

/-! ### A stream of events -/

def Receipt.Answered (receipt : Receipt) : Prop := ∃ answer, receipt.result = .ok answer

instance (receipt : Receipt) : Decidable receipt.Answered :=
  decidable_of_iff (receipt.result.isOk = true) (by
    unfold Receipt.Answered
    cases receipt.result <;> simp [Except.isOk, Except.toBool])

namespace Tracker

/-- What some events have made of a tracker, and its notices so far. -/
structure Streamed (source : String) (config : Config) (events : List Event) (tracker : Tracker) :
    Prop where
  tallies : ∃ recorded closed, Tallies source config recorded closed tracker
  lastEvent_eq : tracker.window.lastEvent = events.getLast?.map Event.arrival
  gapNotices_eq : tracker.gapNotices = (Event.gaps events).length

variable {source : String} {config : Config} {events : List Event} {tracker : Tracker}
  {event : Event}

theorem streamed_fresh (source : String) (config : Config) :
    Streamed source config [] (fresh source config) where
  tallies := ⟨_, _, tallies_fresh source config⟩
  lastEvent_eq := rfl
  gapNotices_eq := rfl

theorem Streamed.consume (streamed : Streamed source config events tracker)
    (accepted : config.Accepted) {answer : Bool}
    (fine : (tracker.consume event).result = .ok answer) :
    Streamed source config (events ++ [event]) (tracker.consume event).state ∧
      ∃ notices, (tracker.consume event).state.gapNotices = tracker.gapNotices + notices.length ∧
        Announces config source (event.gapSince? events).toList notices
          (tracker.consume event).lines := by
  obtain ⟨recorded, closed, tallies⟩ := streamed.tallies
  obtain ⟨after, lastEvent, notices, count, announces⟩ := tallies.announces_consume accepted fine
  rw [streamed.lastEvent_eq, ← Event.gapSince?] at announces
  refine ⟨⟨after, ?_, ?_⟩, notices, count, announces⟩
  · rw [lastEvent, List.getLast?_concat]
    rfl
  · rw [count, streamed.gapNotices_eq, Event.gaps_concat, List.length_append]
    exact congrArg _ announces.shown.length_eq.symm

theorem streamed_afterEvents (source : String) (accepted : config.Accepted)
    (fine : ∀ receipt ∈ receiptsFor consume (fresh source config) events, receipt.Answered) :
    Streamed source config events (afterEvents consume (fresh source config) events) := by
  induction events using List.reverseRecOn with
  | nil => exact streamed_fresh source config
  | append_singleton events event ih =>
    rw [receiptsFor_append] at fine
    rw [afterEvents_append]
    obtain ⟨answer, here⟩ := fine _ (List.mem_append_right _ List.mem_cons_self)
    exact ((ih fun receipt member => fine receipt (List.mem_append_left _ member)).consume accepted
      here).1

end Tracker

/-! ### Streams among others -/

theorem bucketStart_eq_floor (moment : Int) :
    bucketStart moment = ⌊(moment : ℚ) / bucketMillis⌋ * bucketMillis :=
  congrArg (· * bucketMillis) (Rat.floor_intCast_div_natCast moment 600000).symm

theorem nextBucket_eq_ceil (moment : Int) :
    nextBucket moment = ⌈(moment : ℚ) / bucketMillis⌉ * bucketMillis := by
  have rounded : ⌈(moment : ℚ) / bucketMillis⌉ = -(-moment / 600000) :=
    Rat.ceil_intCast_div_natCast moment 600000
  rw [rounded]
  unfold nextBucket bucketStart bucketMillis
  omega

theorem nextBucket_lt_bucketStart_iff {previous next : Int} :
    nextBucket previous < bucketStart next ↔
      ⌈(previous : ℚ) / bucketMillis⌉ < ⌊(next : ℚ) / bucketMillis⌋ := by
  rw [nextBucket_eq_ceil, bucketStart_eq_floor]
  exact Int.mul_lt_mul_right (by decide)

theorem Config.eventsOf_concat (config : Config) {key : String} (earlier : List Event)
    {event : Event} (here : config.keyOf event.source = key) :
    config.eventsOf key (earlier ++ [event]) = config.eventsOf key earlier ++ [event] := by
  simp [Config.eventsOf, here]

namespace Registry

def gapNotices (registry : Registry) (key : String) : Nat :=
  (registry.findKey? key).elim 0 (·.gapNotices)

variable {config : Config}

theorem gapNotices_afterEvents (accepted : config.Accepted) (key : String) (events : List Event) :
    (afterEvents consume (create config) events).gapNotices key =
      (config.trackerAfter key events).gapNotices := by
  obtain ⟨holds, keys⟩ := (holds_create config).consumed accepted events
  rw [gapNotices, holds.findKey?_eq accepted]
  split
  · rfl
  next absent =>
    have none : config.eventsOf key events = [] := by
      by_contra some
      exact absent ((keys key).2 (.inr some))
    rw [Config.trackerAfter, none]
    rfl

/-- An event writes the notices of its tracker, which are counted under its key. -/
theorem announces_consume (accepted : config.Accepted) {key : String} {earlier : List Event}
    {event : Event} (here : config.keyOf event.source = key)
    (streamed : Tracker.Streamed key config (config.eventsOf key earlier)
      (config.trackerAfter key earlier)) {answer : Bool}
    (fine : ((config.trackerAfter key earlier).consume event).result = .ok answer) :
    let before := afterEvents consume (create config) earlier
    let outcome := before.consume event
    ∃ notices, outcome.state.gapNotices key = before.gapNotices key + notices.length ∧
      Announces config key (event.gapSince? (config.eventsOf key earlier)).toList notices
        outcome.lines := by
  intro before outcome
  obtain ⟨-, notices, count, announces⟩ := streamed.consume accepted fine
  have lines : outcome.lines = ((config.trackerAfter key earlier).consume event).lines := by
    subst here
    exact (((holds_create config).consumed accepted earlier).1.consume accepted event).lines_eq
  have after : outcome.state = afterEvents consume (create config) (earlier ++ [event]) :=
    (afterEvents_append consume _ earlier [event]).symm
  refine ⟨notices, ?_, lines ▸ announces⟩
  rw [after, gapNotices_afterEvents accepted, gapNotices_afterEvents accepted, ← count,
    Config.trackerAfter, config.eventsOf_concat earlier here, afterEvents_append]
  rfl

/-- The events of one key come in order, among those of others, and none of them fails. Then an
event writes a notice exactly if its logger has just started and a whole bucket lies between the
event before it and itself. The notice shows these buckets and their number. No event of the key
lies in them past their start, and each notice is about buckets after those of the one before. -/
theorem notices_in_order (accepted : config.Accepted) (key : String) (events : List Event)
    (ordered : (config.eventsOf key events).Pairwise (·.arrival ≤ ·.arrival))
    (fine : ∀ receipt ∈ config.receiptsOf key (receiptsFor consume (create config) events),
      receipt.Answered) :
    let gaps := fun events => Event.gaps (config.eventsOf key events)
    (∀ earlier event later, events = earlier ++ event :: later → config.keyOf event.source = key →
      let before := afterEvents consume (create config) earlier
      let outcome := before.consume event
      let last := (config.eventsOf key earlier).getLast?
      let gap := event.gapSince? (config.eventsOf key earlier)
      gaps (earlier ++ [event]) = gaps earlier ++ gap.toList ∧
      ∃ notices, outcome.state.gapNotices key = before.gapNotices key + notices.length ∧
        Announces config key gap.toList notices outcome.lines ∧
        (notices ≠ [] ↔ event.loggerStarting = true ∧ ∃ previous, last = some previous ∧
          ⌈(previous.arrival : ℚ) / bucketMillis⌉ < ⌊(event.arrival : ℚ) / bucketMillis⌋) ∧
        ∀ found, gap = some found → ∃ previous, last = some previous ∧
          found.previous = previous.arrival ∧
          found.start = ⌈(previous.arrival : ℚ) / bucketMillis⌉ * bucketMillis ∧
          found.stop = ⌊(event.arrival : ℚ) / bucketMillis⌋ * bucketMillis) ∧
      (afterEvents consume (create config) events).gapNotices key = (gaps events).length ∧
      (∀ gap ∈ gaps events, gap.Clear ((config.eventsOf key events).map Event.arrival)) ∧
      (gaps events).Pairwise fun earlier later => earlier.stop ≤ later.start := by
  intro gaps
  rw [(holds_create config).receiptsOf_eq accepted] at fine
  refine ⟨?_, ?_, fun gap member => Event.clear_of_mem_gaps ordered member,
    Event.pairwise_gaps ordered⟩
  · intro earlier event later parts here before outcome last gap
    have own := config.eventsOf_concat earlier here
    rw [parts, List.append_cons, config.eventsOf_append, own, receiptsFor_append,
      receiptsFor_append] at fine
    obtain ⟨answer, answered⟩ := fine _
      (List.mem_append_left _ (List.mem_append_right _ List.mem_cons_self))
    have streamed : Tracker.Streamed key config (config.eventsOf key earlier)
        (config.trackerAfter key earlier) :=
      Tracker.streamed_afterEvents key accepted fun receipt member =>
        fine receipt (List.mem_append_left _ (List.mem_append_left _ member))
    obtain ⟨notices, count, announces⟩ := announces_consume accepted here streamed answered
    refine ⟨?_, notices, count, announces, ?_, ?_⟩
    · exact (congrArg Event.gaps own).trans (Event.gaps_concat ..)
    · simp only [announces.ne_nil_iff, Event.gapSince?_isSome_iff, nextBucket_lt_bucketStart_iff,
        last]
    · intro found reported
      obtain ⟨-, previous, latest, between⟩ := Event.gapSince?_eq_some_iff.1 reported
      exact ⟨previous, latest, between.previous_eq,
        between.start_eq.trans (nextBucket_eq_ceil _),
        between.stop_eq.trans (bucketStart_eq_floor _)⟩
  · rw [gapNotices_afterEvents accepted]
    exact (Tracker.streamed_afterEvents key accepted fine).gapNotices_eq

/-- Two sources that are counted together and one that is not. The first event of a key reports no
gap, nor does one less than a whole bucket after the event before it. -/
theorem notices_in_order_gates :
    let earlier : List Event :=
      [⟨"north", "a", 0, false, true⟩, ⟨"pier", "b", 600000, true, true⟩,
        ⟨"south", "c", 1800000, false, true⟩, ⟨"north", "d", 1800001, false, true⟩]
    let event : Event := ⟨"south", "e", 3000001, false, true⟩
    let events := earlier ++ [event, ⟨"pier", "f", 0, false, false⟩]
    let own := gates.eventsOf "gates" events
    let outcome := (afterEvents consume (create gates) earlier).consume event
    let notice := "gates, 01/01/1970 00:30:00, Logger Unavailable For (10 min intervals)=1, " ++
      "emptyIntervalStart=01/01/1970 00:40:00, emptyIntervalEnd=01/01/1970 00:50:00"
    gates.Accepted ∧ own.Pairwise (·.arrival ≤ ·.arrival) ∧
      (∀ receipt ∈ gates.receiptsOf "gates" (receiptsFor consume (create gates) events),
        receipt.Answered) ∧
      Event.gaps own = [⟨3, 0, 0, 1800000⟩, ⟨1, 1800001, 2400000, 3000000⟩] ∧
      (afterEvents consume (create gates) events).gapNotices "gates" = 2 ∧
      outcome.lines = [notice] ∧
      (⟨1, 1800001, 2400000, 3000000⟩ : Gap).IsNotice gates.zone "gates" notice ∧
      ∀ gap ∈ Event.gaps own, ∀ moment ∈ own.map Event.arrival, ¬gap.Covers moment := by
  intro earlier event events own outcome notice
  have accepted : gates.Accepted := ⟨by decide, rfl⟩
  have ordered : own.Pairwise (·.arrival ≤ ·.arrival) := by decide
  have fine : ∀ receipt ∈ gates.receiptsOf "gates" (receiptsFor consume (create gates) events),
      receipt.Answered := by decide +kernel
  have gaps : Event.gaps own = [⟨3, 0, 0, 1800000⟩, ⟨1, 1800001, 2400000, 3000000⟩] := by
    decide +kernel
  obtain ⟨each, count, clear, -⟩ := notices_in_order accepted "gates" events ordered fine
  obtain ⟨-, notices, -, ⟨shown, others, lines, -⟩, -, -⟩ := each earlier event _ rfl (by decide)
  have lines : outcome.lines = notices ++ others := lines
  have gap : event.gapSince? (gates.eventsOf "gates" earlier) =
      some ⟨1, 1800001, 2400000, 3000000⟩ := by decide +kernel
  have text : outcome.lines = [notice] := by decide +kernel
  refine ⟨accepted, ordered, fine, gaps, ?_, text, ?_, fun gap member =>
    (clear gap member).uncovered⟩
  · rw [count]
    exact congrArg List.length gaps
  · rw [gap] at shown
    obtain ⟨first, rest, is_notice, none, rfl⟩ := List.forall₂_cons_left_iff.1 shown
    rw [text, List.cons_append, List.cons.injEq] at lines
    exact lines.1 ▸ is_notice

end Registry

end ArrivalRates
