import ArrivalRates.LoadGenerator.Run
import ArrivalRates.Proofs.SimulatedStreams
import ArrivalRates.Proofs.Uninterrupted

/-!
# Outages are noticed

The messages of a simulated stream are sent in the order of their texts, which keeps those of each
source in the order of their times. `Message.Denotes` is the event that a message stands for, at its
time cut to the millisecond, and a registry of the standard configuration counts these events. Half
a minute and some whole hours lie between two events of a source, so the notice of an outage counts
six buckets for each hour, or one less if the event before the outage was not at the start of a
bucket.
-/

namespace ArrivalRates

/-! ### Reading a message -/

namespace Validation

variable {α : Type} {record value : Json} {name : String} {decode : Json → Checked α} {result : α}

theorem required_eq_ok (found : record.field? name = some value)
    (read : decode value = .ok result) : required record name decode = .ok result := by
  rw [required, found]
  dsimp only
  rw [read]
  rfl

theorem optional_eq_ok {default : α} (found : record.field? name = some value)
    (read : decode value = .ok result) : optional record name default decode = .ok result := by
  rw [optional, found]
  dsimp only
  rw [read]
  rfl

theorem nonEmptyText_eq_ok {text : String} (full : text ≠ "") :
    nonEmptyText (.str text) = .ok text := by
  have some : text.isEmpty = false := by simpa using full
  show (if text.isEmpty then fail .textTooShort else .ok text) = _
  rw [some]
  rfl

theorem instant_render {time : Timestamp} (supported : time.wall.isSupported)
    (minutes : time.HasMinutes) : instant (.str time.render) = .ok time.instant := by
  rw [instant, Timestamp.parse?_render supported minutes]

end Validation

open Validation in
theorem Event.decode_eq_ok {fields : List (String × Json)} {source messageId : String}
    {micros : Int} {secondary starting : Bool}
    (source_eq : required (.obj fields) "source" nonEmptyText = .ok source)
    (messageId_eq : required (.obj fields) "message_id" nonEmptyText = .ok messageId)
    (timestamp_eq : required (.obj fields) "timestamp" instant = .ok micros)
    (secondary_eq : optional (.obj fields) "secondary" false boolean = .ok secondary)
    (starting_eq : optional (.obj fields) "logger_starting" false boolean = .ok starting) :
    decode (.obj fields) =
      .ok ⟨source, messageId, arrivalOfInstant micros, secondary, starting⟩ := by
  rw [decode, source_eq, messageId_eq, timestamp_eq, secondary_eq, starting_eq]
  rfl

namespace LoadGenerator

/-- A message stands for an event: the names, which are not empty, the marks, and the millisecond of
the moment whose time was written. -/
structure Message.Denotes (message : Message) (event : Event) : Prop where
  source_eq : message.source = .str event.source
  source_ne : event.source ≠ ""
  messageId_eq : message.messageId = .str event.messageId
  messageId_ne : event.messageId ≠ ""
  secondary_eq : message.secondary = event.secondary
  starting_eq : message.loggerStarting = .bool event.loggerStarting
  written : ∃ (time : Timestamp) (micros : Int), message.timestamp = time.render ∧
    time.wall.isSupported ∧ time.HasMinutes ∧ time.Means micros ∧ event.arrival = micros / 1000

open Validation in
/-- A message is read as the event that it denotes. -/
theorem Message.Denotes.decode {message : Message} {event : Event}
    (denotes : message.Denotes event) : Event.decode message.toJson = .ok event := by
  obtain ⟨_, _, timestamp, _, _⟩ := message
  obtain ⟨rfl, source, rfl, messageId, rfl, rfl, time, micros, written, supported, minutes, means,
    arrival⟩ := denotes
  obtain rfl := Timestamp.means_iff.1 means
  obtain rfl : timestamp = time.render := written
  have same : Event.arrivalOfInstant time.instant = event.arrival := arrival.symm
  exact (Event.decode_eq_ok (required_eq_ok rfl (nonEmptyText_eq_ok source))
    (required_eq_ok rfl (nonEmptyText_eq_ok messageId))
    (required_eq_ok rfl (instant_render supported minutes)) (optional_eq_ok rfl rfl)
    (optional_eq_ok rfl rfl)).trans (same ▸ rfl)

theorem Message.filterMap_decode {messages : List Message} {events : List Event}
    (denote : List.Forall₂ Message.Denotes messages events) :
    messages.filterMap (fun message => (Event.decode message.toJson).toOption) = events := by
  induction denote with
  | nil => rfl
  | cons here _ ih => rw [List.filterMap_cons, here.decode, ih]; rfl

def Sent.event (sent : Sent) : Event :=
  ⟨sent.source, sent.messageId, Event.arrivalOfInstant sent.time.instant, sent.secondary,
    decide (0 < sent.hours)⟩

theorem Sent.denotes {sent : Sent} (source : sent.source ≠ "") (messageId : sent.messageId ≠ "")
    (supported : sent.time.wall.isSupported) (minutes : sent.time.HasMinutes) :
    sent.message.Denotes sent.event where
  source_eq := rfl
  source_ne := source
  messageId_eq := rfl
  messageId_ne := messageId
  secondary_eq := rfl
  starting_eq := rfl
  written := ⟨sent.time, _, rfl, supported, minutes, Timestamp.means_iff.2 rfl, rfl⟩

/-! ### The order of the messages -/

/-- A message is sent after a moment, on the same clock and with the same fraction of a second. -/
structure Sent.After (start : Timestamp) (sent : Sent) : Prop where
  supported : sent.time.wall.isSupported
  offset_eq : sent.time.offset = start.offset
  fraction_eq : sent.time.wall.microsecond = start.wall.microsecond
  later : start.wall.micros < sent.time.wall.micros

variable {source : String} {start : Timestamp} {sents earlier rest : List Sent} {sent : Sent}

theorem Sent.after_of_step
    (step : later start (sent.hours * microsPerHour + messageGap) = .ok sent.time) :
    sent.After start := by
  obtain ⟨supported, time⟩ := later_eq_ok_iff.1 step
  refine ⟨time ▸ supported, by rw [time], ?_, ?_⟩ <;> rw [time]
  · simp only [WallTime.microsecond, WallTime.microsPerSecond, microsPerHour, messageGap]
    omega
  · simp only [microsPerHour, messageGap]
    omega

theorem Sent.After.trans {first second : Sent} (before : first.After start)
    (after : second.After first.time) : second.After start where
  supported := after.supported
  offset_eq := after.offset_eq.trans before.offset_eq
  fraction_eq := after.fraction_eq.trans before.fraction_eq
  later := before.later.trans after.later

/-- On UTC the arrival of a message lies on the day that was written. -/
theorem Sent.After.arrival_isSupported (after : sent.After start)
    (utc : start.offset.getD 0 = 0) : (WallTime.ofMillis sent.event.arrival).isSupported := by
  have day : (WallTime.ofMillis sent.event.arrival).day = sent.time.wall.day := by
    rw [WallTime.day_ofMillis]
    simp only [Sent.event, Event.arrivalOfInstant, Timestamp.instant, after.offset_eq, utc,
      WallTime.day, WallTime.microsPerDay, WallTime.microsPerSecond, Day.mk.injEq]
    omega
  rw [WallTime.isSupported, day]
  exact after.supported

namespace Course

theorem after (course : Course source start sents) : ∀ sent ∈ sents, sent.After start := by
  induction course with
  | nil => exact nofun
  | cons _ _ step _ ih =>
    have first := Sent.after_of_step step
    exact List.forall_mem_cons.2 ⟨first, fun sent member => first.trans (ih sent member)⟩

theorem denotes (course : Course source start sents) (named : source ≠ "")
    (minutes : start.HasMinutes) : ∀ sent ∈ sents, sent.message.Denotes sent.event := by
  intro sent member
  have after := course.after sent member
  refine Sent.denotes ?_ (course.messageId_ne sent member) after.supported ?_
  · rw [course.source_eq sent member]
    exact named
  · intro offset here
    exact minutes offset (after.offset_eq ▸ here)

theorem pairwise_render (course : Course source start sents) :
    sents.Pairwise fun a b => a.time.render < b.time.render := by
  induction course with
  | nil => exact .nil
  | cons _ _ step others ih =>
    refine .cons (fun sent member => ?_) ih
    have first := Sent.after_of_step step
    have second := others.after sent member
    exact Timestamp.render_lt first.supported second.supported second.offset_eq.symm
      second.fraction_eq.symm second.later

end Course

/-- Not later, by the texts of the times. -/
def Sent.notLater (a b : Sent) : Bool := !decide (b.time.render < a.time.render)

theorem filter_mergeSort {α : Type} {le : α → α → Bool}
    (trans : ∀ a b c, le a b = true → le b c = true → le a c = true)
    (total : ∀ a b, (le a b || le b a) = true) {p : α → Bool} {items : List α}
    (ordered : (items.filter p).Pairwise fun a b => le a b = true) :
    (items.mergeSort le).filter p = items.filter p := by
  have part : (items.filter p).Sublist ((items.mergeSort le).filter p) := by
    have all := (List.sublist_mergeSort trans total ordered List.filter_sublist).filter p
    rwa [List.filter_filter, List.filter_congr (fun _ _ => Bool.and_self _)] at all
  have length := ((List.mergeSort_perm items le).filter p).length_eq
  exact (part.eq_of_length length.symm).symm

theorem Sent.notLater_trans (a b c : Sent) (first : a.notLater b = true)
    (second : b.notLater c = true) : a.notLater c = true := by
  simp only [notLater, Bool.not_eq_true', decide_eq_false_iff_not, not_lt] at *
  exact first.trans second

theorem Sent.notLater_total (a b : Sent) : (a.notLater b || b.notLater a) = true := by
  simp only [notLater, Bool.or_eq_true, Bool.not_eq_true', decide_eq_false_iff_not, not_lt]
  exact le_total _ _

/-- The order of the texts keeps messages of one source as they are. -/
theorem filter_ordered (courses : ∀ source, Course source start (sents.filter (·.source = source)))
    {p : Sent → Bool} (own : ∀ sent ∈ sents, p sent = true → sent.source = source) :
    (sents.mergeSort Sent.notLater).filter p = sents.filter p := by
  have part : sents.filter p = (sents.filter (·.source = source)).filter p := by
    rw [List.filter_filter]
    refine List.filter_congr fun sent member => ?_
    cases here : p sent with
    | false => rfl
    | true => simp [own sent member here]
  refine filter_mergeSort Sent.notLater_trans Sent.notLater_total ?_
  have course := (courses source).pairwise_render.sublist (List.filter_sublist (p := p))
  rw [part]
  refine course.imp fun less => ?_
  simp only [Sent.notLater, Bool.not_eq_true', decide_eq_false_iff_not, not_lt]
  exact less.le

/-- The order of the texts keeps the messages of each source as they are. -/
theorem filter_inOrder (courses : ∀ source, Course source start (sents.filter (·.source = source)))
    (source : String) :
    (sents.mergeSort Sent.notLater).filter (·.source = source) =
      sents.filter (·.source = source) :=
  filter_ordered courses fun _ _ same => of_decide_eq_true same

/-! ### The gaps of a source -/

/-- Between two messages with some hours of outage lie that many hours, less a bucket if the first
message is not at the start of one. -/
theorem skipped_of_hours {previous next : Int} {hours : Nat}
    (apart : next = previous + (hours * 3600000 + 30000)) :
    (nextBucket previous < bucketStart next ↔ 0 < hours) ∧
      ((Gap.spanning previous next).skipped = 6 * hours ∨
        (Gap.spanning previous next).skipped = 6 * hours - 1) := by
  simp only [Gap.spanning, nextBucket, bucketStart, bucketMillis]
  omega

/-- Arrivals are as far apart as the times that were written. -/
theorem Sent.arrival_eq
    (step : later start (sent.hours * microsPerHour + messageGap) = .ok sent.time) :
    sent.event.arrival =
      Event.arrivalOfInstant start.instant + (sent.hours * 3600000 + 30000) := by
  obtain ⟨-, time⟩ := later_eq_ok_iff.1 step
  simp only [Sent.event, Event.arrivalOfInstant, time, Timestamp.instant, microsPerHour, messageGap]
  omega

/-- A message reports a gap exactly if its source was out before it. -/
theorem Sent.gapAfter_of_step
    (step : later start (sent.hours * microsPerHour + messageGap) = .ok sent.time) :
    ((sent.event.gapAfter? (Event.arrivalOfInstant start.instant)).isSome ↔ 0 < sent.hours) ∧
      ∀ gap ∈ sent.event.gapAfter? (Event.arrivalOfInstant start.instant),
        gap.skipped = 6 * sent.hours ∨ gap.skipped = 6 * sent.hours - 1 := by
  obtain ⟨apart, skipped⟩ := skipped_of_hours (Sent.arrival_eq step)
  refine ⟨?_, fun gap found => ?_⟩
  · rw [Event.gapAfter?_isSome_iff, apart]
    exact ⟨And.right, fun out => ⟨decide_eq_true out, out⟩⟩
  · rw [(Event.gapAfter?_eq_some_iff.1 found).2.eq_spanning]
    exact skipped

namespace Course

/-- Of the messages behind another one, each after an outage has its gap. -/
theorem length_gapsAfter (course : Course source start sents) :
    (Event.gapsAfter (some (Event.arrivalOfInstant start.instant)) (sents.map Sent.event)).length =
      (sents.map Sent.event).countP (·.loggerStarting) := by
  induction course with
  | nil => rfl
  | @cons start sent rest _ _ step _ ih =>
    have found := (Sent.gapAfter_of_step step).1
    rw [List.map_cons, Event.gapsAfter, List.length_append, List.countP_cons, Nat.add_comm]
    refine congrArg₂ (· + ·) ih ?_
    rw [Option.bind_some]
    cases gap : sent.event.gapAfter? (Event.arrivalOfInstant start.instant) with
    | none =>
      rw [gap] at found
      have inside : sent.event.loggerStarting = false :=
        decide_eq_false fun out => Bool.false_ne_true (found.2 out)
      rw [inside]
      rfl
    | some gap' =>
      rw [gap] at found
      have out : sent.event.loggerStarting = true := decide_eq_true (found.1 rfl)
      rw [out]
      rfl

theorem length_gaps (course : Course source start sents) :
    (Event.gaps (sents.map Sent.event)).length =
      ((sents.map Sent.event).drop 1).countP (·.loggerStarting) := by
  cases course with
  | nil => rfl
  | cons _ _ _ others => exact others.length_gapsAfter

/-- What a message reports when some messages of its source came before it. -/
theorem gapSince (course : Course source start (earlier ++ sent :: rest)) :
    ((sent.event.gapSince? (earlier.map Sent.event)).isSome ↔ 0 < sent.hours ∧ earlier ≠ []) ∧
      ∀ gap ∈ sent.event.gapSince? (earlier.map Sent.event),
        gap.skipped = 6 * sent.hours ∨ gap.skipped = 6 * sent.hours - 1 := by
  have step := course.step_of_append
  rw [Event.gapSince?, List.getLast?_map, Option.map_map]
  cases latest : earlier.getLast? with
  | none => simp [List.getLast?_eq_none_iff.1 latest]
  | some previous =>
    have some : earlier ≠ [] := by
      rintro rfl
      cases latest
    rw [latest] at step
    rw [and_iff_left some]
    exact Sent.gapAfter_of_step step

end Course

/-! ### The stream in order -/

/-- The messages with their outages in the order in which they are sent. -/
def inSendingOrder (noted : List (Message × Nat)) : List (Message × Nat) :=
  noted.mergeSort fun a b => !decide (b.1.timestamp < a.1.timestamp)

theorem inTimeOrder_eq (noted : List (Message × Nat)) :
    inTimeOrder (noted.map Prod.fst) = (inSendingOrder noted).map Prod.fst :=
  (List.map_mergeSort (f := Prod.fst) fun _ _ _ _ => rfl).symm

theorem inSendingOrder_map_noted (sents : List Sent) :
    inSendingOrder (sents.map Sent.noted) = (sents.mergeSort Sent.notLater).map Sent.noted :=
  (List.map_mergeSort (f := Sent.noted) fun _ _ _ _ => rfl).symm

theorem eventsOf_map_event (key : String) (sents : List Sent) :
    Config.standard.eventsOf key (sents.map Sent.event) =
      (sents.filter (·.source = key)).map Sent.event :=
  List.filter_map

/-- With the messages of its source in their course, one of them writes the notice of its gap. -/
theorem Course.announces (course : Course source start (earlier ++ sent :: rest))
    {events : List Event} (own : Config.standard.eventsOf source events = earlier.map Sent.event)
    (supported : ∀ event ∈ events, (WallTime.ofMillis event.arrival).isSupported)
    (here : (WallTime.ofMillis sent.event.arrival).isSupported) :
    let before := afterEvents Registry.consume (.create .standard) events
    let outcome := before.consume sent.event
    ∃ notices, outcome.state.gapNotices source = before.gapNotices source + notices.length ∧
      Announces .standard source (sent.event.gapSince? (earlier.map Sent.event)).toList notices
        outcome.lines := by
  have key : Config.standard.keyOf sent.event.source = source :=
    course.source_eq sent (List.mem_append_right _ List.mem_cons_self)
  obtain ⟨answered, unhindered⟩ := Tracker.own_answered_of_supported source supported
  obtain ⟨⟨answer, fine⟩, -⟩ := unhindered.consume here fun previous last => by
    obtain ⟨other, latest, rfl⟩ := Option.map_eq_some_iff.1 last
    exact supported other (List.mem_of_mem_filter (List.mem_of_getLast? latest))
  have streamed := Tracker.streamed_afterEvents source Config.standard_accepted answered
  obtain ⟨notices, count, announces⟩ :=
    Registry.announces_consume Config.standard_accepted key streamed fine
  rw [← own]
  exact ⟨notices, count, announces⟩

/-- The number of notices of a source is that of its outages between two of its messages. -/
theorem Course.gapNotices_eq {events : List Event} (course : Course source start sents)
    (own : Config.standard.eventsOf source events = sents.map Sent.event)
    (supported : ∀ event ∈ events, (WallTime.ofMillis event.arrival).isSupported) :
    (afterEvents Registry.consume (.create .standard) events).gapNotices source =
      ((Config.standard.eventsOf source events).drop 1).countP (·.loggerStarting) := by
  have streamed := Tracker.streamed_afterEvents source Config.standard_accepted
    (Tracker.own_answered_of_supported source supported).1
  rw [Registry.gapNotices_afterEvents Config.standard_accepted, Config.trackerAfter,
    streamed.gapNotices_eq, own]
  exact course.length_gaps

/-- A line is the notice of some hours of outage under a source: it counts six buckets for each of
them, or one less. -/
def IsOutageNotice (source : String) (hours : Nat) (line : String) : Prop :=
  ∃ (skipped : Int) (time start stop : String),
    (skipped = 6 * hours ∨ skipped = 6 * hours - 1) ∧
      line = Text.withFields source [time,
        "Logger Unavailable For (10 min intervals)=" ++ toString skipped,
        "emptyIntervalStart=" ++ start, "emptyIntervalEnd=" ++ stop]

theorem isOutageNotice_of_announces {config : Config} {gap : Option Gap} {hours : Nat}
    {notices lines : List String} (announces : Announces config source gap.toList notices lines)
    (skipped : ∀ found ∈ gap, found.skipped = 6 * hours ∨ found.skipped = 6 * hours - 1) :
    ∀ notice ∈ notices, IsOutageNotice source hours notice := by
  intro notice member
  obtain ⟨i, inside, rfl⟩ := List.getElem_of_mem member
  have known : i < gap.toList.length := announces.shown.length_eq ▸ inside
  obtain ⟨time, start, stop, -, -, -, text⟩ := announces.shown.get known inside
  exact ⟨_, time, start, stop, skipped _ (Option.mem_toList.1 (List.getElem_mem known)), text⟩

/-- What one message writes when those of its source came before it in their course. -/
theorem Course.notice (course : Course source start (earlier ++ sent :: rest)) {events : List Event}
    (own : Config.standard.eventsOf source events = earlier.map Sent.event)
    (supported : ∀ event ∈ events, (WallTime.ofMillis event.arrival).isSupported)
    (here : (WallTime.ofMillis sent.event.arrival).isSupported) :
    let before := afterEvents Registry.consume (.create .standard) events
    let outcome := before.consume sent.event
    let own := Config.standard.eventsOf source events
    ∃ (gap : Option Gap) (notices : List String),
      outcome.state.gapNotices source = before.gapNotices source + notices.length ∧
      Announces .standard source gap.toList notices outcome.lines ∧
      notices.length = (if sent.event.loggerStarting = true ∧ own ≠ [] then 1 else 0) ∧
      (∀ notice ∈ notices, IsOutageNotice source sent.hours notice) ∧
      (gap.isSome ↔ sent.event.loggerStarting = true ∧ own ≠ []) ∧
      ∀ found ∈ gap, found.skipped = 6 * sent.hours ∨ found.skipped = 6 * sent.hours - 1 := by
  intro before outcome known
  obtain ⟨notices, count, announces⟩ := course.announces own supported here
  obtain ⟨reported, skipped⟩ := course.gapSince
  have found : (sent.event.gapSince? (earlier.map Sent.event)).isSome ↔
      sent.event.loggerStarting = true ∧ known ≠ [] := by
    rw [reported, show known = earlier.map Sent.event from own]
    exact and_congr decide_eq_true_iff.symm (not_congr List.map_eq_nil_iff.symm)
  refine ⟨_, notices, count, announces, ?_, isOutageNotice_of_announces announces skipped, found,
    skipped⟩
  rw [← announces.shown.length_eq]
  simp only [← found]
  cases sent.event.gapSince? _ <;> rfl

/-- A stream is made if the calendar has room for it. Its messages, in the order of their texts,
stand for events that are answered at moments of the calendar, and an event writes a notice exactly
if its source was out straight before it and had sent a message before that. The notice says six
buckets for each hour of the outage or one less; no other event writes one. On the clock of UTC all
the moments are of the calendar. -/
theorem outages_noticed (start : Timestamp) (draws : Draws) (minutes : start.HasMinutes) :
    (draws.Unfailing → start.wall.isSupported →
      (WallTime.mk (start.wall.micros + streamLength)).isSupported →
      ∃ noted, outageStream {} start draws = .ok noted) ∧
    ∀ noted, outageStream {} start draws = .ok noted →
      let messages := noted.map Prod.fst
      let sent := inSendingOrder noted
      stream {} start draws = .ok messages ∧ inTimeOrder messages = sent.map Prod.fst ∧
      ∃ events,
        List.Forall₂ Message.Denotes (sent.map Prod.fst) events ∧
        (start.offset.getD 0 = 0 →
          ∀ event ∈ events, (WallTime.ofMillis event.arrival).isSupported) ∧
        ((∀ event ∈ events, (WallTime.ofMillis event.arrival).isSupported) →
          let registry := fun events => afterEvents Registry.consume (.create .standard) events
          (∀ receipt ∈ receiptsFor Registry.consume (.create .standard) events,
            receipt.Answered) ∧
          (∀ source, (registry events).gapNotices source =
            ((Config.standard.eventsOf source events).drop 1).countP (·.loggerStarting)) ∧
          ∀ earlier event later, events = earlier ++ event :: later →
            let own := Config.standard.eventsOf event.source earlier
            let outcome := (registry earlier).consume event
            ∃ message hours, ∃ (gap : Option Gap) (notices : List String),
              sent[earlier.length]? = some (message, hours) ∧
              (event.loggerStarting = true ↔ 0 < hours) ∧
              outcome.state.gapNotices event.source =
                (registry earlier).gapNotices event.source + notices.length ∧
              Announces .standard event.source gap.toList notices outcome.lines ∧
              notices.length = (if event.loggerStarting = true ∧ own ≠ [] then 1 else 0) ∧
              (∀ notice ∈ notices, IsOutageNotice event.source hours notice) ∧
              (gap.isSome ↔ event.loggerStarting = true ∧ own ≠ []) ∧
              ∀ found ∈ gap, found.skipped = 6 * hours ∨ found.skipped = 6 * hours - 1) := by
  refine ⟨fun unfailing first last => outageStream_of_unfailing first last unfailing, ?_⟩
  intro noted made messages sent
  obtain ⟨sents, rfl, named, courses⟩ := outageStream_course made
  have own_course : ∀ s ∈ sents, s ∈ sents.filter (·.source = s.source) := fun s member =>
    List.mem_filter.2 ⟨member, decide_eq_true rfl⟩
  have after : ∀ s ∈ sents, s.After start := fun s member =>
    (courses s.source).after s (own_course s member)
  have sorted : sent = (sents.mergeSort Sent.notLater).map Sent.noted := inSendingOrder_map_noted _
  have order := filter_inOrder courses
  have perm : (sents.mergeSort Sent.notLater).Perm sents := List.mergeSort_perm _ _
  generalize sents.mergeSort Sent.notLater = ordered at sorted order perm
  refine ⟨?_, inTimeOrder_eq _, ordered.map Sent.event, ?_, ?_, ?_⟩
  · rw [stream_eq, made]
    rfl
  · rw [sorted, List.forall₂_map_left_iff, List.forall₂_map_left_iff, List.forall₂_map_right_iff,
      List.forall₂_same]
    intro s member
    have known := perm.mem_iff.1 member
    exact (courses s.source).denotes (named s known) minutes s (own_course s known)
  · intro utc event member
    obtain ⟨s, known, rfl⟩ := List.mem_map.1 member
    exact (after s (perm.mem_iff.1 known)).arrival_isSupported utc
  · intro supported registry
    refine ⟨Registry.answered_of_supported supported, fun source => ?_, ?_⟩
    · refine (courses source).gapNotices_eq ?_ supported
      rw [eventsOf_map_event, order]
    · intro earlier event later parts own outcome
      rw [parts, List.forall_mem_append, List.forall_mem_cons] at supported
      obtain ⟨before, behind, rfl, rfl, tail⟩ := List.map_eq_append_iff.1 parts
      obtain ⟨s, rest, rfl, rfl, rfl⟩ := List.map_eq_cons_iff.1 tail
      have split : sents.filter (·.source = s.source) = before.filter (·.source = s.source) ++
          s :: rest.filter (·.source = s.source) := by
        rw [← order, List.filter_append, List.filter_cons_of_pos (by simp)]
      have course := split ▸ courses s.source
      have same : own = (before.filter (·.source = s.source)).map Sent.event :=
        eventsOf_map_event s.source before
      obtain ⟨gap, notices, notice⟩ := course.notice same supported.1 supported.2.1
      refine ⟨s.message, s.hours, gap, notices, ?_, decide_eq_true_iff, notice⟩
      rw [sorted, List.map_append, List.map_cons, List.length_map,
        List.getElem?_append_right (by simp)]
      simp [Sent.noted]

/-- One source is out for two hours between two buckets and for the rest of the time, the others
all the time. The start lies inside a bucket and inside a millisecond. -/
theorem outages_noticed_two_hours :
    let start : Timestamp := ⟨⟨1704067500000400⟩, some 0⟩
    let draws : Draws :=
      { rolls := fun n => .ok (.int (if n < 21 ∨ 23 ≤ n ∧ n < 44 then 1 else 0))
        choices := fun n => .ok n }
    let event : Event := ⟨"host-a", "MSG0020", 1704075330000, false, true⟩
    let notice := "host-a, 01/01/2024 00:15:00, Logger Unavailable For (10 min intervals)=11, " ++
      "emptyIntervalStart=01/01/2024 00:20:00, emptyIntervalEnd=01/01/2024 02:10:00"
    let registry := fun events => afterEvents Registry.consume (.create .standard) events
    start.render = "2024-01-01T00:05:00.000400+00:00" ∧ start.HasMinutes ∧
      ∃ noted, outageStream {} start draws = .ok noted ∧
        noted.map Prod.snd = List.replicate 20 0 ++ 2 :: List.replicate 19 0 ∧
        ∃ earlier later, earlier.length = 20 ∧
          List.Forall₂ Message.Denotes ((inSendingOrder noted).map Prod.fst)
            (earlier ++ event :: later) ∧
          ((registry earlier).consume event).lines = [notice] ∧
          IsOutageNotice "host-a" 2 notice ∧
          ∀ source, (registry (earlier ++ event :: later)).gapNotices source =
            ((Config.standard.eventsOf source (earlier ++ event :: later)).drop 1).countP
              (·.loggerStarting) := by
  intro start draws event notice registry
  have minutes : start.HasMinutes := by
    rintro _ ⟨⟩
    decide
  have unfailing : draws.Unfailing := ⟨fun n => ⟨_, rfl⟩, fun n => ⟨_, rfl⟩⟩
  obtain ⟨some, noticed⟩ := outages_noticed start draws minutes
  obtain ⟨noted, made⟩ := some unfailing (by decide +kernel) (by decide +kernel)
  have checked : ((outageStream {} start draws).toOption.map fun noted =>
      let events := (noted.map Prod.fst).filterMap fun message =>
        (Event.decode message.toJson).toOption
      (noted.map Prod.snd, events[20]?, ((registry (events.take 20)).consume event).lines,
        decide (Config.standard.eventsOf "host-a" (events.take 20) ≠ []),
        decide (noted.Pairwise fun a b => !decide (b.1.timestamp < a.1.timestamp)))) =
      .some (List.replicate 20 0 ++ 2 :: List.replicate 19 0, .some event, [notice], true,
        true) := by
    decide +kernel
  rw [made] at checked
  have checked := Option.some.inj checked
  simp only [Prod.mk.injEq, decide_eq_true_eq] at checked
  obtain ⟨hours, found, lines, own, ordered⟩ := checked
  have sorted : inSendingOrder noted = noted := List.mergeSort_of_pairwise ordered
  obtain ⟨-, -, events, denote, utc, after⟩ := noticed noted made
  rw [sorted] at denote after
  rw [Message.filterMap_decode denote] at found lines own
  obtain ⟨inside, found⟩ := List.getElem?_eq_some_iff.1 found
  have split : events = events.take 20 ++ event :: events.drop 21 := by
    rw [← found, List.cons_getElem_drop_succ, List.take_append_drop]
  have length : (events.take 20).length = 20 := List.length_take_of_le (by omega)
  obtain ⟨-, count, each⟩ := after (utc rfl)
  obtain ⟨message, out, gap, notices, here, -, -, ⟨-, others, shown, -⟩, single, known, -⟩ :=
    each _ _ _ split
  refine ⟨by decide +kernel, minutes, noted, made, hours, events.take 20, events.drop 21, length,
    by rwa [sorted, ← split], lines, ?_, split ▸ count⟩
  have same : (noted.map Prod.snd)[20]? = .some out := by
    rw [List.getElem?_map, ← length, here]
    rfl
  rw [hours] at same
  obtain rfl : 2 = out := Option.some.inj same
  rw [if_pos ⟨rfl, own⟩] at single
  obtain ⟨only, rfl⟩ := List.length_eq_one_iff.1 single
  obtain ⟨rfl, -⟩ := List.cons.inj (lines.symm.trans shown)
  exact known _ List.mem_cons_self

end LoadGenerator

end ArrivalRates
