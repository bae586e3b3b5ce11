import ArrivalRates.Proofs.Outages
import ArrivalRates.Proofs.Posts

/-!
# The sending of a simulated stream

The messages of a stream are put in the order of their texts, cut into slices and posted one slice
after the other. All times of a stream have the same offset and the same fraction of a second, so
the order of the texts is that of the times, and it keeps the messages of each source as they were
made. A slice is posted until one attempt succeeds or none is left; a slice that fails is given up,
and the sending goes on to its end whatever is answered.
-/

namespace ArrivalRates.LoadGenerator

/-! ### Chronological order -/

section Order

variable {start : Timestamp} {sents : List Sent} {a b : Sent}

/-- A text that is not smaller belongs to a time that is not earlier. -/
theorem Sent.After.instant_le (first : a.After start) (second : b.After start)
    (ordered : a.notLater b = true) : a.time.instant ≤ b.time.instant := by
  have offset : b.time.offset = a.time.offset := second.offset_eq.trans first.offset_eq.symm
  have fraction := second.fraction_eq.trans first.fraction_eq.symm
  have wall : a.time.wall.micros ≤ b.time.wall.micros := by
    by_contra earlier
    have less := Timestamp.render_lt second.supported first.supported offset fraction
      (Int.not_le.1 earlier)
    simp [Sent.notLater, less] at ordered
  rw [Timestamp.instant, Timestamp.instant, offset]
  omega

theorem chronological (after : ∀ sent ∈ sents, sent.After start) :
    (sents.mergeSort Sent.notLater).Pairwise fun a b => a.time.instant ≤ b.time.instant := by
  have sorted := List.pairwise_mergeSort Sent.notLater_trans Sent.notLater_total sents
  refine sorted.imp_of_mem fun first second ordered => ?_
  exact (after _ (List.mem_mergeSort.1 first)).instant_le (after _ (List.mem_mergeSort.1 second))
    ordered

theorem inTimeOrder_map_message (sents : List Sent) :
    inTimeOrder (sents.map Sent.message) = (sents.mergeSort Sent.notLater).map Sent.message :=
  (List.map_mergeSort (f := Sent.message) fun _ _ _ _ => rfl).symm

/-- The messages of a stream are sent in chronological order. -/
theorem exists_times (courses : ∀ source, Course source start (sents.filter (·.source = source))) :
    ∃ times : List Timestamp,
      (inTimeOrder (sents.map Sent.message)).map Message.timestamp = times.map Timestamp.render ∧
        (∀ time ∈ times, time.wall.isSupported ∧ time.offset = start.offset) ∧
        times.Pairwise fun a b => a.instant ≤ b.instant := by
  have after : ∀ sent ∈ sents, sent.After start := fun sent member =>
    (courses sent.source).after sent (List.mem_filter.2 ⟨member, decide_eq_true rfl⟩)
  refine ⟨(sents.mergeSort Sent.notLater).map Sent.time, ?_, ?_, ?_⟩
  · rw [inTimeOrder_map_message, List.map_map, List.map_map]
    rfl
  · refine List.forall_mem_map.2 fun sent member => ?_
    have known := after sent (List.mem_mergeSort.1 member)
    exact ⟨known.supported, known.offset_eq⟩
  · exact List.pairwise_map.2 (chronological after)

/-- Messages of one source are sent in the order in which they are made. -/
theorem filter_inTimeOrder
    (courses : ∀ source, Course source start (sents.filter (·.source = source)))
    {p : Message → Bool} {source : Json}
    (own : ∀ message ∈ sents.map Sent.message, p message = true → message.source = source) :
    (inTimeOrder (sents.map Sent.message)).filter p = (sents.map Sent.message).filter p := by
  obtain ⟨name, own⟩ : ∃ name, ∀ sent ∈ sents, p sent.message = true → sent.source = name := by
    by_cases named : ∃ name, source = .str name
    · obtain ⟨name, rfl⟩ := named
      exact ⟨name, fun sent member here =>
        Json.str.inj (own sent.message (List.mem_map_of_mem member) here)⟩
    · refine ⟨"", fun sent member here => absurd ⟨sent.source, ?_⟩ named⟩
      exact (own sent.message (List.mem_map_of_mem member) here).symm
  rw [inTimeOrder_map_message, List.filter_map, List.filter_map]
  exact congrArg _ (filter_ordered courses own)

end Order

/-! ### The sending -/

/-- A run whose batches are all posted prints how long that took and goes on. -/
theorem sendStream_eq {settings : Settings} {sources : Nat} {messages : List Message} {size : Int}
    {session sent : Session} (sized : batchSize settings = .ok size)
    (sending : sendBatches settings (batches size messages)
      (session.log (countLine sources messages.length)) = (.ok (), sent)) :
    ∃ line, sendStream settings sources messages session =
      conclude settings messages.length (sent.print line) := by
  rw [sendStream, sized]
  dsimp only
  rw [sending]
  exact ⟨_, rfl⟩

/-- A stream is sent in consecutive slices of its messages in chronological order, those of each
source as they were made. Each slice is posted until the first success or until no attempt is left,
with a pause after each failure; which attempts succeed is what the answers say. -/
theorem sent_in_slices {start : Timestamp} {draws : Draws} {messages : List Message}
    (made : stream {} start draws = .ok messages) {settings : Settings} {size : Int}
    (sized : batchSize settings = .ok size) (positive : 1 ≤ size) {session : Session}
    (scripted : session.Scripted) (sources : Nat) :
    let sorted := inTimeOrder messages
    let parts := batches size sorted
    (∃ tries sent line,
      sendBatches settings parts (session.log (countLine sources sorted.length)) = (.ok (), sent) ∧
      sendStream settings sources sorted session =
        conclude settings sorted.length (sent.print line) ∧
      tries.length = parts.length ∧
      (∀ own ∈ tries, own.Within retryLimit.toNat ∧ 1 ≤ own.made ∧
        own.made ≤ retryLimit.toNat) ∧
      sent.calls = session.calls ++ (List.zipWith
        (fun own part => own.calls (batchPosting settings part)) tries parts).flatten ∧
      session.Yields (tries.flatMap Tries.outcomes) sent) ∧
    (∀ i, parts[i]? = if i * size.toNat < sorted.length then
      some ((sorted.drop (i * size.toNat)).take size.toNat) else none) ∧
    parts.flatten = sorted ∧ sorted.Perm messages ∧
    (∃ times : List Timestamp, sorted.map Message.timestamp = times.map Timestamp.render ∧
      (∀ time ∈ times, time.wall.isSupported ∧ time.offset = start.offset) ∧
      times.Pairwise fun a b => a.instant ≤ b.instant) ∧
    ∀ (p : Message → Bool) (source : Json),
      (∀ message ∈ messages, p message = true → message.source = source) →
        sorted.filter p = messages.filter p := by
  intro sorted parts
  obtain ⟨sents, same, courses⟩ := stream_courses made
  refine ⟨?_, getElem?_batches positive sorted, batches_flatten positive sorted,
    List.mergeSort_perm _ _, ?_, fun p source own => ?_⟩
  · have begun : (session.log (countLine sources sorted.length)).Scripted :=
      ⟨scripted.some, scripted.readable⟩
    obtain ⟨sent, sending⟩ := begun.sendBatches settings parts
    obtain ⟨tries, length, within, calls, -, yields⟩ := sendBatches_spec sending
    obtain ⟨line, goesOn⟩ := sendStream_eq sized sending
    refine ⟨tries, sent, line, sending, goesOn, length, fun own member => ?_, calls, yields⟩
    have within := within own member
    exact ⟨within, within.made_pos (by decide), within.made_le⟩
  · subst same
    exact exists_times courses
  · subst same
    exact filter_inTimeOrder courses own

/-- Two sources send a bucket each, in three slices. The answer to the first post is lost, and the
second slice is given up. -/
theorem sent_in_slices_given_up :
    let start : Timestamp := ⟨⟨1704067200000400⟩, some 0⟩
    let draws : Draws :=
      { rolls := fun n => .ok (.int (if n < 21 ∨ 69 ≤ n ∧ n < 90 then 1 else 0))
        choices := fun n => .ok n }
    let settings : Settings := { batchSize := .int 16 }
    let answer (status : Int) := Answer.response (.int status) (.str "") (.int 0) .null
    let session : Session :=
      { gets := []
        posts := [.refused false "ReadTimeout" "", answer 200, answer 503, answer 503,
          answer 503, answer 200] }
    batchSize settings = .ok 16 ∧ session.Scripted ∧
      ∃ messages, stream {} start draws = .ok messages ∧ messages.length = 40 ∧
        let sorted := inTimeOrder messages
        let parts := batches 16 sorted
        parts[2]? = some ((sorted.drop 32).take 16) ∧ parts[3]? = none ∧ parts.flatten = sorted ∧
        ∃ tries sent, sendBatches settings parts (session.log (countLine 3 sorted.length)) =
            (.ok (), sent) ∧
          tries.length = parts.length ∧ session.Yields (tries.flatMap Tries.outcomes) sent ∧
          sent.calls = (List.zipWith (fun own part => own.calls (batchPosting settings part))
            tries parts).flatten := by
  intro start draws settings answer session
  have scripted : session.Scripted := ⟨List.cons_ne_nil _ _, by decide +kernel⟩
  have count : ((stream {} start draws).map List.length) = .ok 40 := by decide +kernel
  obtain ⟨messages, made, count⟩ := map_eq_ok count
  have size : batchSize settings = .ok 16 := rfl
  obtain ⟨⟨tries, sent, -, sending, -, length, -, calls, yields⟩, slice, whole, same, -⟩ :=
    sent_in_slices made size (by decide) scripted 3
  have all : (inTimeOrder messages).length = 40 := same.length_eq.trans count
  refine ⟨size, scripted, messages, made, count, ?_, ?_, whole, tries, sent, sending, length,
    yields, calls⟩
  · rw [slice, if_pos (by rw [all]; decide)]
    rfl
  · rw [slice, if_neg (by rw [all]; decide)]

end ArrivalRates.LoadGenerator
