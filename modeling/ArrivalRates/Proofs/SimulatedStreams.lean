import ArrivalRates.LoadGenerator.Stream
import ArrivalRates.Proofs.WrittenTimes

/-!
# The course of a simulated stream

The messages of a source come half a minute after one another, as long as the source is not out. An
outage lasts a number of hours, each of them a round of the walk, and the message after it says that
the logger starts again. `outageStream` is the stream with the hours of outage straight before each
message, and `Course` says how the messages of a source follow one another.
-/

namespace ArrivalRates.LoadGenerator

/-! ### Streams with their outages -/

/-- The messages of one round: only the first can have an outage straight before it. -/
def afterOutage (hours : Nat) : List Message → List (Message × Nat)
  | [] => []
  | first :: rest => (first, hours) :: rest.map (·, 0)

/-- The messages of a source with the hours of outage straight before each of them. A round without
messages is one more hour. -/
def sourceOutages (simulation : Simulation) (source : Json) (stop : Int) :
    Nat → Nat → Walk → Except Failure (List (Message × Nat) × Draws)
  | 0, _, walk => .ok ([], walk.draws)
  | fuel + 1, hours, walk =>
    if walk.time.wall.micros < stop then do
      let (first, walk) ← round simulation source walk
      let (rest, draws) ← sourceOutages simulation source stop fuel
        (if first.isEmpty then hours + 1 else 0) walk
      return (afterOutage hours first ++ rest, draws)
    else .ok ([], walk.draws)

def outageStreamOf (simulation : Simulation) (start : Timestamp) :
    List Json → Draws → Except Failure (List (Message × Nat) × Draws)
  | [], draws => .ok ([], draws)
  | source :: rest, draws => do
    let length ← (← simulation.simulatedHours).duration microsPerHour
    let stop ← later start length
    let fuel := (stop.wall.micros - start.wall.micros).toNat + 1
    let (first, draws) ←
      sourceOutages simulation source stop.wall.micros fuel 0 ⟨start, false, draws⟩
    let (others, draws) ← outageStreamOf simulation start rest draws
    return (first ++ others, draws)

/-- The stream with the hours of outage straight before each message. -/
def outageStream (simulation : Simulation) (start : Timestamp) (draws : Draws) :
    Except Failure (List (Message × Nat)) := do
  let sources ← simulation.sources
  (outageStreamOf simulation start sources draws).map (·.1)

theorem map_fst_afterOutage (hours : Nat) (messages : List Message) :
    (afterOutage hours messages).map Prod.fst = messages := by
  cases messages with
  | nil => rfl
  | cons first rest => simp [afterOutage, Function.comp_def]

/-- A list with its outages as the list without them. -/
def forget (stream : List (Message × Nat) × Draws) : List Message × Draws :=
  (stream.1.map Prod.fst, stream.2)

theorem sourceMessages_eq (simulation : Simulation) (source : Json) (stop : Int) (fuel hours : Nat)
    (walk : Walk) :
    sourceMessages simulation source stop fuel walk =
      forget <$> sourceOutages simulation source stop fuel hours walk := by
  induction fuel generalizing hours walk with
  | zero => rfl
  | succ fuel ih =>
    rw [sourceMessages, sourceOutages]
    split
    · rw [map_bind]
      refine bind_congr fun (first, after) => ?_
      simp only [ih (if first.isEmpty then hours + 1 else 0), map_bind, bind_map_left, map_pure,
        forget, List.map_append, map_fst_afterOutage]
    · rfl

theorem streamOf_eq (simulation : Simulation) (start : Timestamp) (sources : List Json)
    (draws : Draws) :
    streamOf simulation start sources draws =
      forget <$> outageStreamOf simulation start sources draws := by
  induction sources generalizing draws with
  | nil => rfl
  | cons source rest ih =>
    simp only [streamOf, outageStreamOf, map_bind, sourceMessages_eq _ _ _ _ 0, ih, bind_map_left,
      map_pure, forget, List.map_append]

/-- The outages are only noted: the stream is the one without them. -/
theorem stream_eq (simulation : Simulation) (start : Timestamp) (draws : Draws) :
    stream simulation start draws = List.map Prod.fst <$> outageStream simulation start draws := by
  unfold stream outageStream
  rw [map_bind]
  refine bind_congr fun sources => ?_
  rw [streamOf_eq]
  cases outageStreamOf simulation start sources draws <;> rfl

/-! ### What is drawn -/

/-- A message of a simulated stream, with the hours of outage straight before it. -/
structure Sent where
  source : String
  messageId : String
  time : Timestamp
  secondary : Bool
  hours : Nat

namespace Sent

def message (sent : Sent) : Message :=
  ⟨.str sent.source, .str sent.messageId, sent.time.render, sent.secondary,
    .bool (decide (0 < sent.hours))⟩

def noted (sent : Sent) : Message × Nat := (sent.message, sent.hours)

end Sent

/-- The time between two messages of a bucket, in microseconds. -/
def messageGap : Int := 30000000

theorem later_eq (time : Timestamp) (micros : Int) :
    later time micros =
      if (WallTime.mk (time.wall.micros + micros)).isSupported then
        .ok ⟨⟨time.wall.micros + micros⟩, time.offset⟩
      else .error .dateOutOfRange := by
  unfold later Timestamp.shift?
  dsimp only
  by_cases inside : (WallTime.mk (time.wall.micros + micros)).isSupported = true
  · rw [if_pos inside, if_pos inside]
  · rw [if_neg inside, if_neg inside]

theorem later_eq_ok_iff {time moved : Timestamp} {micros : Int} :
    later time micros = .ok moved ↔
      (WallTime.mk (time.wall.micros + micros)).isSupported ∧
        moved = ⟨⟨time.wall.micros + micros⟩, time.offset⟩ := by
  rw [later_eq]
  split
  next inside => rw [Except.ok.injEq, eq_comm, and_iff_right inside]
  next outside => exact iff_of_false (fun same => by cases same) fun both => outside both.1

variable {source : String} {draws : Draws}

theorem mem_of_choose {items : List α} {item : α} {after : Draws}
    (chosen : draws.choose items = .ok (item, after)) : item ∈ items := by
  obtain ⟨position, -, chosen⟩ := bind_eq_ok chosen
  split at chosen
  next found =>
    obtain ⟨rfl, -⟩ := Prod.mk.inj (Except.ok.inj chosen)
    exact List.mem_of_getElem? found
  next => cases chosen

theorem message_spec {time : Timestamp} {starting : Json} {made : Message} {after : Draws}
    (drawn : message {} (.str source) time starting draws = .ok (made, after)) :
    ∃ messageId secondary, messageId ≠ "" ∧
      made = ⟨.str source, .str messageId, time.render, secondary, starting⟩ := by
  obtain ⟨items, listed, drawn⟩ := bind_eq_ok drawn
  obtain ⟨⟨item, chosen⟩, choice, drawn⟩ := bind_eq_ok drawn
  obtain ⟨⟨roll, rolled⟩, -, drawn⟩ := bind_eq_ok drawn
  obtain ⟨share, -, drawn⟩ := bind_eq_ok drawn
  obtain rfl := Except.ok.inj listed
  obtain ⟨n, -, rfl⟩ := List.mem_map.1 (mem_of_choose choice)
  obtain ⟨rfl, -⟩ := Prod.mk.inj (Except.ok.inj drawn)
  exact ⟨_, _, by simp, rfl⟩

/-! ### The course of one source -/

/-- Messages of one source after a moment, each half a minute and its hours of outage after the one
before it. -/
inductive Course (source : String) : Timestamp → List Sent → Prop where
  | nil (time : Timestamp) : Course source time []
  | cons {time : Timestamp} {sent : Sent} {rest : List Sent} (own : sent.source = source)
      (named : sent.messageId ≠ "")
      (step : later time (sent.hours * microsPerHour + messageGap) = .ok sent.time)
      (others : Course source sent.time rest) : Course source time (sent :: rest)

/-- A walk that has been out for some hours since a moment. -/
structure Walk.Out (time : Timestamp) (hours : Nat) (walk : Walk) : Prop where
  micros_eq : walk.time.wall.micros = time.wall.micros + hours * microsPerHour
  offset_eq : walk.time.offset = time.offset
  restarting_eq : walk.restarting = decide (0 < hours)

theorem Walk.out_zero {walk : Walk} (going : walk.restarting = false) :
    walk.Out walk.time 0 where
  micros_eq := by simp
  offset_eq := rfl
  restarting_eq := going

theorem Walk.Out.time_eq {walk : Walk} {time : Timestamp} (out : walk.Out time 0) :
    walk.time = time := by
  have micros := out.micros_eq
  have offset := out.offset_eq
  rw [Nat.cast_zero, Int.zero_mul, Int.add_zero] at micros
  show Timestamp.mk ⟨walk.time.wall.micros⟩ walk.time.offset = time
  rw [micros, offset]

theorem spacing_twenty : spacing 20 = .ok messageGap := by decide +kernel

/-- A message after some hours of outage begins the course of those behind it. -/
theorem Walk.Out.course {walk : Walk} {time moved : Timestamp} {hours : Nat}
    (out : walk.Out time hours) (step : later walk.time messageGap = .ok moved) {made : Message}
    {after : Draws}
    (drawn : message {} (.str source) moved (.bool walk.restarting) draws = .ok (made, after)) :
    ∃ sent : Sent, (made, hours) = sent.noted ∧ sent.time = moved ∧
      ∀ {others}, Course source moved others → Course source time (sent :: others) := by
  obtain ⟨messageId, secondary, named, rfl⟩ := message_spec drawn
  rw [later_eq_ok_iff, out.micros_eq, out.offset_eq, Int.add_assoc, ← later_eq_ok_iff] at step
  refine ⟨⟨source, messageId, moved, secondary, hours⟩, ?_, rfl, fun course => ?_⟩
  · rw [out.restarting_eq]
    rfl
  · exact .cons rfl named step course

theorem afterOutage_zero (messages : List Message) :
    afterOutage 0 messages = messages.map (·, 0) := by
  cases messages <;> rfl

/-- The messages of a bucket follow one another, the first of them an outage. -/
theorem bucketMessages_course {count : Nat} {walk after : Walk} {messages : List Message}
    {time : Timestamp} {hours : Nat} (out : walk.Out time hours) (any : hours = 0 ∨ 0 < count)
    (made : bucketMessages {} (.str source) (spacing 20) count walk = .ok (messages, after)) :
    messages.length = count ∧ after.restarting = false ∧ ∃ sents : List Sent,
      afterOutage hours messages = sents.map Sent.noted ∧
        ∀ {others}, Course source after.time others → Course source time (sents ++ others) := by
  induction count generalizing walk messages time hours with
  | zero =>
    obtain rfl : hours = 0 := any.resolve_right (lt_irrefl 0)
    obtain ⟨rfl, rfl⟩ := Prod.mk.inj (Except.ok.inj made)
    exact ⟨rfl, out.restarting_eq, [], rfl, fun course => out.time_eq ▸ course⟩
  | succ count ih =>
    rw [bucketMessages, spacing_twenty] at made
    obtain ⟨gap, same, made⟩ := bind_eq_ok made
    obtain rfl := Except.ok.inj same
    obtain ⟨moved, step, made⟩ := bind_eq_ok made
    obtain ⟨⟨first, drawn⟩, message, made⟩ := bind_eq_ok made
    obtain ⟨⟨rest, last⟩, others, made⟩ := bind_eq_ok made
    obtain ⟨rfl, rfl⟩ := Prod.mk.inj (Except.ok.inj made)
    obtain ⟨sent, noted, rfl, course⟩ := out.course step message
    obtain ⟨length, going, sents, same, behind⟩ :=
      ih (Walk.out_zero rfl) (.inl rfl) (spacing_twenty ▸ others)
    rw [afterOutage_zero] at same
    refine ⟨congrArg (· + 1) length, going, sent :: sents, ?_, fun tail => course (behind tail)⟩
    rw [afterOutage, List.map_cons, noted, same]

/-- A round is one more hour of outage, or a bucket of messages after it. -/
theorem round_course {walk after : Walk} {messages : List Message} {time : Timestamp} {hours : Nat}
    (out : walk.Out time hours) (made : round {} (.str source) walk = .ok (messages, after)) :
    messages = [] ∧ after.Out time (hours + 1) ∨
      messages ≠ [] ∧ after.Out after.time 0 ∧ ∃ sents : List Sent,
        afterOutage hours messages = sents.map Sent.noted ∧
          ∀ {others}, Course source after.time others → Course source time (sents ++ others) := by
  obtain ⟨⟨roll, draws⟩, -, made⟩ := bind_eq_ok made
  obtain ⟨share, -, made⟩ := bind_eq_ok made
  split at made
  · obtain ⟨moved, step, made⟩ := bind_eq_ok made
    obtain ⟨rfl, rfl⟩ := Prod.mk.inj (Except.ok.inj made)
    obtain ⟨-, rfl⟩ := later_eq_ok_iff.1 step
    refine .inl ⟨rfl, ?_, out.offset_eq, by simp⟩
    dsimp only
    rw [out.micros_eq]
    push_cast
    ring
  · obtain ⟨number, counted, made⟩ := bind_eq_ok made
    obtain rfl := Except.ok.inj counted
    obtain ⟨count, whole, made⟩ := bind_eq_ok made
    obtain rfl := Except.ok.inj whole
    have some : 0 < Int.toNat 20 := by decide
    have drawn : Walk.Out time hours { walk with draws } :=
      ⟨out.micros_eq, out.offset_eq, out.restarting_eq⟩
    obtain ⟨length, going, course⟩ := bucketMessages_course drawn (.inr some) made
    refine .inr ⟨?_, Walk.out_zero going, course⟩
    rintro rfl
    cases length

/-- The messages of a source from a moment on, after some hours of outage. -/
theorem sourceOutages_course {stop : Int} {fuel hours : Nat} {walk : Walk} {time : Timestamp}
    {noted : List (Message × Nat)} {after : Draws} (out : walk.Out time hours)
    (made : sourceOutages {} (.str source) stop fuel hours walk = .ok (noted, after)) :
    ∃ sents : List Sent, noted = sents.map Sent.noted ∧ Course source time sents := by
  induction fuel generalizing hours walk time noted with
  | zero =>
    obtain ⟨rfl, -⟩ := Prod.mk.inj (Except.ok.inj made)
    exact ⟨[], rfl, .nil time⟩
  | succ fuel ih =>
    rw [sourceOutages] at made
    split at made
    · obtain ⟨⟨messages, walk'⟩, round, made⟩ := bind_eq_ok made
      obtain ⟨⟨rest, draws⟩, others, made⟩ := bind_eq_ok made
      obtain ⟨rfl, rfl⟩ := Prod.mk.inj (Except.ok.inj made)
      rcases round_course out round with ⟨rfl, longer⟩ | ⟨some, going, sents, same, course⟩
      · exact ih longer others
      · rw [if_neg (by simpa using some)] at others
        obtain ⟨tail, rfl, behind⟩ := ih going others
        exact ⟨sents ++ tail, by rw [same, List.map_append], course behind⟩
    · obtain ⟨rfl, -⟩ := Prod.mk.inj (Except.ok.inj made)
      exact ⟨[], rfl, .nil time⟩

namespace Course

variable {start : Timestamp} {sents earlier rest : List Sent} {sent : Sent}

theorem source_eq (course : Course source start sents) : ∀ sent ∈ sents, sent.source = source := by
  induction course with
  | nil => exact fun _ member => nomatch member
  | cons own _ _ _ ih => exact List.forall_mem_cons.2 ⟨own, ih⟩

theorem messageId_ne (course : Course source start sents) :
    ∀ sent ∈ sents, sent.messageId ≠ "" := by
  induction course with
  | nil => exact fun _ member => nomatch member
  | cons _ named _ _ ih => exact List.forall_mem_cons.2 ⟨named, ih⟩

/-- Each message comes after the one before it, the first one after the start. -/
theorem step_of_append (course : Course source start (earlier ++ sent :: rest)) :
    later (earlier.getLast?.elim start Sent.time) (sent.hours * microsPerHour + messageGap) =
      .ok sent.time := by
  induction earlier generalizing start with
  | nil =>
    cases course with
    | cons _ _ step _ => exact step
  | cons first earlier ih =>
    cases course with
    | cons _ _ _ others =>
      have last := ih others
      rw [List.getLast?_cons, Option.elim_some]
      cases found : earlier.getLast? <;> rw [found] at last <;> exact last

end Course

/-- The messages of several sources, those of each one on their own course. -/
theorem outageStreamOf_course {start : Timestamp} {names : List String} (nodup : names.Nodup)
    {noted : List (Message × Nat)} {after : Draws}
    (made : outageStreamOf {} start (names.map .str) draws = .ok (noted, after)) :
    ∃ sents : List Sent, noted = sents.map Sent.noted ∧ (∀ sent ∈ sents, sent.source ∈ names) ∧
      ∀ source, Course source start (sents.filter (·.source = source)) := by
  induction names generalizing draws noted with
  | nil =>
    obtain ⟨rfl, -⟩ := Prod.mk.inj (Except.ok.inj made)
    exact ⟨[], rfl, nofun, fun source => .nil start⟩
  | cons name names ih =>
    obtain ⟨absent, nodup⟩ := List.nodup_cons.1 nodup
    obtain ⟨hours, -, made⟩ := bind_eq_ok made
    obtain ⟨length, -, made⟩ := bind_eq_ok made
    obtain ⟨stop, -, made⟩ := bind_eq_ok made
    obtain ⟨⟨first, draws'⟩, own, made⟩ := bind_eq_ok made
    obtain ⟨⟨rest, last⟩, others, made⟩ := bind_eq_ok made
    obtain ⟨rfl, rfl⟩ := Prod.mk.inj (Except.ok.inj made)
    obtain ⟨sents, rfl, course⟩ := sourceOutages_course (Walk.out_zero rfl) own
    obtain ⟨tail, rfl, known, courses⟩ := ih nodup others
    refine ⟨sents ++ tail, List.map_append.symm, ?_, fun source => ?_⟩
    · intro sent member
      rcases List.mem_append.1 member with here | there
      · exact course.source_eq sent here ▸ List.mem_cons_self
      · exact List.mem_cons_of_mem _ (known sent there)
    · rw [List.filter_append]
      by_cases same : name = source
      · subst same
        have all : sents.filter (·.source = name) = sents :=
          List.filter_eq_self.2 fun sent member => decide_eq_true (course.source_eq sent member)
        have none : tail.filter (·.source = name) = [] := by
          refine List.filter_eq_nil_iff.2 fun sent member here => absent ?_
          exact of_decide_eq_true here ▸ known sent member
        rw [all, none, List.append_nil]
        exact course
      · have none : sents.filter (·.source = source) = [] := by
          refine List.filter_eq_nil_iff.2 fun sent member here => same ?_
          exact (course.source_eq sent member).symm.trans (of_decide_eq_true here)
        rw [none]
        exact courses source

theorem outageStream_course {start : Timestamp} {noted : List (Message × Nat)}
    (made : outageStream {} start draws = .ok noted) :
    ∃ sents : List Sent, noted = sents.map Sent.noted ∧ (∀ sent ∈ sents, sent.source ≠ "") ∧
      ∀ source, Course source start (sents.filter (·.source = source)) := by
  obtain ⟨sources, listed, made⟩ := bind_eq_ok made
  obtain rfl := Except.ok.inj listed
  obtain ⟨⟨found, after⟩, all, rfl⟩ := map_eq_ok made
  have named : "" ∉ ["host-a", "host-b", "host-c"] := by decide
  obtain ⟨sents, same, known, courses⟩ := outageStreamOf_course (by decide) all
  exact ⟨sents, same, fun sent member empty => named (empty ▸ known sent member), courses⟩

/-- The messages of a stream as they are made, those of each source on their own course. -/
theorem stream_courses {start : Timestamp} {messages : List Message}
    (made : stream {} start draws = .ok messages) :
    ∃ sents : List Sent, messages = sents.map Sent.message ∧
      ∀ source, Course source start (sents.filter (·.source = source)) := by
  rw [stream_eq] at made
  obtain ⟨noted, drawn, rfl⟩ := map_eq_ok made
  obtain ⟨sents, rfl, -, courses⟩ := outageStream_course drawn
  exact ⟨sents, List.map_map, courses⟩

/-! ### Streams that can be made -/

/-- A sequence whose first part has a value goes on with it. -/
theorem bind_of_eq_ok {α β : Type} {first : Except Failure α} {value : α}
    (succeeds : first = .ok value) (rest : α → Except Failure β) :
    (first >>= rest) = rest value := by
  rw [succeeds]
  rfl

structure Draws.Unfailing (draws : Draws) : Prop where
  rolls : ∀ n, ∃ roll, draws.rolls n = .ok roll
  choices : ∀ n, ∃ position, draws.choices n = .ok position

section Unfailing

variable {walk : Walk} {low high : Int}

/-- Times between two times of the calendar are times of the calendar. -/
theorem isSupported_between (first : (WallTime.mk low).isSupported)
    (last : (WallTime.mk high).isSupported) {micros : Int} (after : low ≤ micros)
    (before : micros ≤ high) : (WallTime.mk micros).isSupported := by
  rw [WallTime.isSupported, Day.isSupported_iff] at *
  simp only [WallTime.day, WallTime.microsPerDay, WallTime.microsPerSecond] at *
  omega

theorem Draws.Unfailing.roll (unfailing : draws.Unfailing) :
    ∃ number after, draws.roll = .ok (number, after) ∧ after.Unfailing := by
  obtain ⟨number, drawn⟩ := unfailing.rolls draws.rolled
  refine ⟨number, { draws with rolled := draws.rolled + 1 }, ?_, unfailing.rolls, unfailing.choices⟩
  rw [Draws.roll, drawn]
  rfl

theorem Draws.Unfailing.choose (unfailing : draws.Unfailing) {items : List α} (some : items ≠ []) :
    ∃ item after, draws.choose items = .ok (item, after) ∧ after.Unfailing := by
  obtain ⟨position, drawn⟩ := unfailing.choices draws.chosen
  have length : 0 < (items.length : Int) := by exact_mod_cast List.length_pos_iff.2 some
  have inside : (position % items.length).toNat < items.length := by
    have below := Int.emod_lt_of_pos position length
    have nonneg := Int.emod_nonneg position length.ne'
    omega
  refine ⟨items[(position % items.length).toNat], { draws with chosen := draws.chosen + 1 }, ?_,
    unfailing.rolls, unfailing.choices⟩
  rw [Draws.choose, drawn]
  simp only [bind, Except.bind, List.getElem?_eq_getElem inside]
  rfl

theorem Draws.Unfailing.message (unfailing : draws.Unfailing) (source : Json) (time : Timestamp)
    (starting : Json) :
    ∃ made after, message {} source time starting draws = .ok (made, after) ∧ after.Unfailing := by
  have some : (List.range 200).map (fun n => Json.str ("MSG" ++ padded 4 n)) ≠ [] := by simp
  obtain ⟨item, chosen, choice, unfailing⟩ := unfailing.choose some
  obtain ⟨number, rolled, drawn, unfailing⟩ := unfailing.roll
  refine ⟨⟨source, item, time.render, number.lt (.float (.ofDecimal false 10 (-2))), starting⟩,
    rolled, ?_, unfailing⟩
  have listed : ({} : Simulation).messageIds = .ok _ := rfl
  rw [LoadGenerator.message, bind_of_eq_ok listed, bind_of_eq_ok choice]
  dsimp only
  rw [bind_of_eq_ok drawn]
  rfl

/-- A walk between two times of the calendar that does not go past the second one. -/
structure Walk.Inside (low high : Int) (walk : Walk) : Prop where
  unfailing : walk.draws.Unfailing
  low_le : low ≤ walk.time.wall.micros
  le_high : walk.time.wall.micros ≤ high

variable (first : (WallTime.mk low).isSupported) (last : (WallTime.mk high).isSupported)

include first last

theorem Walk.Inside.later (inside : walk.Inside low high) {micros : Int} (forward : 0 ≤ micros)
    (room : walk.time.wall.micros + micros ≤ high) :
    later walk.time micros = .ok ⟨⟨walk.time.wall.micros + micros⟩, walk.time.offset⟩ := by
  have low_le := inside.low_le
  rw [later_eq, if_pos (isSupported_between first last (by omega) room)]

theorem bucketMessages_inside (inside : walk.Inside low high) (source : Json) {count : Nat}
    (room : walk.time.wall.micros + count * messageGap ≤ high) :
    ∃ messages after, bucketMessages {} source (spacing 20) count walk = .ok (messages, after) ∧
      after.Inside low high := by
  induction count generalizing walk with
  | zero => exact ⟨[], walk, rfl, inside⟩
  | succ count ih =>
    have positive : 0 < messageGap := by decide
    have nonneg : 0 ≤ (count : Int) * messageGap := by positivity
    have low_le := inside.low_le
    rw [Nat.cast_succ, Int.add_mul, Int.one_mul] at room
    have step := inside.later first last positive.le (by omega)
    obtain ⟨made, drawn, message, unfailing⟩ :=
      inside.unfailing.message source ⟨⟨walk.time.wall.micros + messageGap⟩, walk.time.offset⟩
        (.bool walk.restarting)
    have next : Walk.Inside low high
        ⟨⟨⟨walk.time.wall.micros + messageGap⟩, walk.time.offset⟩, false, drawn⟩ :=
      ⟨unfailing, by dsimp only; omega, by dsimp only; omega⟩
    obtain ⟨rest, after, others, there⟩ := ih next (by dsimp only; omega)
    refine ⟨made :: rest, after, ?_, there⟩
    rw [bucketMessages, bind_of_eq_ok spacing_twenty, bind_of_eq_ok step, bind_of_eq_ok message]
    dsimp only
    rw [bind_of_eq_ok others]
    rfl

theorem round_inside (inside : walk.Inside low high) (source : Json)
    (room : walk.time.wall.micros + microsPerHour ≤ high) :
    ∃ messages after, round {} source walk = .ok (messages, after) ∧ after.Inside low high := by
  have low_le := inside.low_le
  obtain ⟨number, drawn, rolled, unfailing⟩ := inside.unfailing.roll
  have unfold_round : round {} source walk =
      if number.lt (.float (.ofDecimal false 2 (-2))) then do
        let time ← later walk.time microsPerHour
        return ([], ⟨time, true, drawn⟩)
      else bucketMessages {} source (spacing 20) 20 { walk with draws := drawn } := by
    rw [round, bind_of_eq_ok rolled]
    rfl
  rw [unfold_round]
  split
  · rw [inside.later first last (by decide) room]
    refine ⟨[], _, rfl, unfailing, ?_, room⟩
    have forward : 0 ≤ microsPerHour := by decide
    exact low_le.trans (Int.le_add_of_nonneg_right forward)
  · have begun : Walk.Inside low high { walk with draws := drawn } :=
      ⟨unfailing, low_le, inside.le_high⟩
    have short : ((20 : Nat) : Int) * messageGap ≤ microsPerHour := by decide
    exact bucketMessages_inside first last begun source
      ((Int.add_le_add_left short _).trans room)

theorem sourceOutages_inside {stop : Int} (room : stop + microsPerHour ≤ high) (source : Json)
    (fuel hours : Nat) (inside : walk.Inside low high) :
    ∃ noted after, sourceOutages {} source stop fuel hours walk = .ok (noted, after) ∧
      after.Unfailing := by
  induction fuel generalizing hours walk with
  | zero => exact ⟨[], walk.draws, rfl, inside.unfailing⟩
  | succ fuel ih =>
    rw [sourceOutages]
    split
    next early =>
      obtain ⟨messages, next, made, inside⟩ := round_inside first last inside source (by omega)
      obtain ⟨rest, after, others, unfailing⟩ :=
        ih (if messages.isEmpty then hours + 1 else 0) inside
      refine ⟨afterOutage hours messages ++ rest, after, ?_, unfailing⟩
      rw [bind_of_eq_ok made]
      dsimp only
      rw [bind_of_eq_ok others]
      rfl
    next => exact ⟨[], walk.draws, rfl, inside.unfailing⟩

end Unfailing

/-- How long the times of a stream can be after its start: the last round begins before the end of
the simulated period and takes an hour at most. -/
def streamLength : Int := 49 * microsPerHour

theorem outageStreamOf_of_unfailing {start : Timestamp} (first : start.wall.isSupported)
    (last : (WallTime.mk (start.wall.micros + streamLength)).isSupported) (sources : List Json)
    (unfailing : draws.Unfailing) :
    ∃ noted after, outageStreamOf {} start sources draws = .ok (noted, after) := by
  induction sources generalizing draws with
  | nil => exact ⟨[], draws, rfl⟩
  | cons source rest ih =>
    have begun : Walk.Inside start.wall.micros (start.wall.micros + streamLength)
        ⟨start, false, draws⟩ :=
      ⟨unfailing, le_rfl, Int.le_add_of_nonneg_right (by decide)⟩
    have hour : 48 * microsPerHour + microsPerHour = streamLength := by decide
    have period : later start (48 * microsPerHour) = _ :=
      begun.later first last (by decide) (Int.add_le_add_left (by decide) _)
    have length : (Number.int 48).duration microsPerHour = .ok (48 * microsPerHour) := by
      decide +kernel
    have room : start.wall.micros + 48 * microsPerHour + microsPerHour ≤
        start.wall.micros + streamLength := by rw [Int.add_assoc, hour]
    obtain ⟨own, drawn, made, unfailing⟩ := sourceOutages_inside first last room source
      ((start.wall.micros + 48 * microsPerHour - start.wall.micros).toNat + 1) 0 begun
    obtain ⟨others, after, following⟩ := ih unfailing
    refine ⟨own ++ others, after, ?_⟩
    have hours : ({} : Simulation).simulatedHours = .ok (.int 48) := rfl
    rw [outageStreamOf, bind_of_eq_ok hours, bind_of_eq_ok length, bind_of_eq_ok period]
    dsimp only
    rw [bind_of_eq_ok made]
    dsimp only
    rw [bind_of_eq_ok following]
    rfl

/-- A stream is made whenever the calendar has room for it. -/
theorem outageStream_of_unfailing {start : Timestamp} (first : start.wall.isSupported)
    (last : (WallTime.mk (start.wall.micros + streamLength)).isSupported)
    (unfailing : draws.Unfailing) : ∃ noted, outageStream {} start draws = .ok noted := by
  obtain ⟨noted, after, made⟩ := outageStreamOf_of_unfailing first last
    (["host-a", "host-b", "host-c"].map .str) unfailing
  refine ⟨noted, ?_⟩
  show (outageStreamOf _ _ _ _).map _ = _
  rw [made]
  rfl

end ArrivalRates.LoadGenerator
