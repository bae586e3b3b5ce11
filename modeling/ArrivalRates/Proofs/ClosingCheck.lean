import ArrivalRates.Proofs.Accounting
import ArrivalRates.Proofs.Outages
import ArrivalRates.Proofs.Posts

/-!
# What the closing check says

A post may reach the service though no answer comes back, and then it is made again; it may also
never reach it, and after some attempts its batch is given up. So each batch is accepted some number
of times, `copies` says what the service has got then, and the closing check compares no more than
the number of events. Batches that were lost can be made up for by others that came twice; short of
that, a run that passes its check has had every event accepted once.
-/

namespace ArrivalRates

/-! ### Copies -/

/-- Each item some number of times, one after the other. -/
def copies {α : Type} (times : List Nat) (items : List α) : List α :=
  (List.zipWith List.replicate times items).flatten

section Copies

variable {α β : Type} {times fewer : List Nat} {items part : List α} {parts : List (List α)}

theorem copies_cons (n : Nat) (times : List Nat) (item : α) (items : List α) :
    copies (n :: times) (item :: items) = List.replicate n item ++ copies times items :=
  rfl

theorem copies_once (once : ∀ n ∈ times, n = 1) (length : times.length = items.length) :
    copies times items = items := by
  induction times generalizing items with
  | nil => exact (List.eq_nil_of_length_eq_zero length.symm).symm
  | cons n times ih =>
    cases items with
    | nil => cases length
    | cons item items =>
      obtain ⟨here, others⟩ := List.forall_mem_cons.1 once
      rw [copies_cons, ih others (Nat.succ.inj length), here]
      rfl

theorem exists_copies_of_sublist (length : times.length = items.length)
    (chosen : part.Sublist (copies times items)) :
    ∃ fewer, List.Forall₂ (· ≤ ·) fewer times ∧ part = copies fewer items := by
  induction times generalizing items part with
  | nil => exact ⟨[], .nil, List.sublist_nil.1 chosen⟩
  | cons n times ih =>
    cases items with
    | nil => cases length
    | cons item items =>
      rw [copies_cons, List.sublist_append_iff] at chosen
      obtain ⟨first, rest, rfl, here, there⟩ := chosen
      obtain ⟨m, le, rfl⟩ := List.sublist_replicate_iff.1 here
      obtain ⟨fewer, all, rfl⟩ := ih (Nat.succ.inj length) there
      exact ⟨m :: fewer, .cons le all, rfl⟩

theorem forall_le_of_forall₂ {limit : Nat} (le : List.Forall₂ (· ≤ ·) fewer times)
    (all : ∀ n ∈ times, n ≤ limit) : ∀ n ∈ fewer, n ≤ limit := by
  induction le with
  | nil => exact nofun
  | cons here _ ih =>
    obtain ⟨first, rest⟩ := List.forall_mem_cons.1 all
    exact List.forall_mem_cons.2 ⟨here.trans first, ih rest⟩

theorem length_flatten_eq {others : List (List β)}
    (same : List.Forall₂ (fun part other => part.length = other.length) parts others) :
    parts.flatten.length = others.flatten.length := by
  induction same with
  | nil => rfl
  | cons here _ ih => rw [List.flatten_cons, List.flatten_cons, List.length_append,
      List.length_append, here, ih]

theorem length_flatten_copies_cons (n : Nat) (times : List Nat) (first : List α) :
    (copies (n :: times) (first :: parts)).flatten.length =
      n * first.length + (copies times parts).flatten.length := by
  rw [copies_cons, List.flatten_append, List.length_append, List.length_flatten,
    List.map_replicate, List.sum_replicate_nat]

theorem length_copies_le (le : List.Forall₂ (· ≤ ·) fewer times)
    (length : times.length = parts.length) :
    (copies fewer parts).flatten.length ≤ (copies times parts).flatten.length := by
  induction le generalizing parts with
  | nil => exact le_rfl
  | cons here _ ih =>
    cases parts with
    | nil => cases length
    | cons first parts =>
      rw [length_flatten_copies_cons, length_flatten_copies_cons]
      exact Nat.add_le_add (Nat.mul_le_mul_right _ here) (ih (Nat.succ.inj length))

/-- Fewer copies of parts that all have something in them are as much only if they are as many. -/
theorem eq_of_length_copies (le : List.Forall₂ (· ≤ ·) fewer times)
    (length : times.length = parts.length) (full : ∀ part ∈ parts, part ≠ [])
    (same : (copies fewer parts).flatten.length = (copies times parts).flatten.length) :
    fewer = times := by
  induction le generalizing parts with
  | nil => rfl
  | cons here others ih =>
    cases parts with
    | nil => cases length
    | cons first parts =>
      obtain ⟨some, full⟩ := List.forall_mem_cons.1 full
      rw [length_flatten_copies_cons, length_flatten_copies_cons] at same
      have own := Nat.mul_le_mul_right first.length here
      have rest := length_copies_le others (Nat.succ.inj length)
      have all := ih (Nat.succ.inj length) full (by omega)
      rw [all, Nat.add_right_cancel_iff] at same
      rw [all, Nat.mul_right_cancel (List.length_pos_iff.2 some) same]

/-- As much as there is in all parts together is each of them once, if none is missing or if none is
there twice. -/
theorem once_of_length_copies (length : times.length = parts.length)
    (full : ∀ part ∈ parts, part ≠ [])
    (same : (copies times parts).flatten.length = parts.flatten.length)
    (even : (∀ n ∈ times, 1 ≤ n) ∨ ∀ n ∈ times, n ≤ 1) : ∀ n ∈ times, n = 1 := by
  have each : ∀ n ∈ times.map fun _ => 1, n = 1 := by simp
  have ones : copies (times.map fun _ => 1) parts = parts :=
    copies_once each (by rw [List.length_map, length])
  suffices all : (times.map fun _ => 1) = times from all ▸ each
  rcases even with covered | single
  · refine eq_of_length_copies ?_ length full (by rw [ones, same])
    rwa [List.forall₂_map_left_iff, List.forall₂_same]
  · refine (eq_of_length_copies ?_ (by rw [List.length_map, length]) full (by rw [ones, same])).symm
    rwa [List.forall₂_map_right_iff, List.forall₂_same]

end Copies

/-! ### What a service accepts -/

namespace Validation

variable {α : Type}

theorem text_eq_ok_iff {value : Json} {s : String} : text value = .ok s ↔ value = .str s := by
  cases value <;> simp [text, fail]

end Validation

/-- What a service has received is what was published to it. -/
theorem Service.received_afterSteps (registry : Registry) (assignment : Assignment)
    (steps : List Step) :
    let service : Service := { registry, queues := List.replicate workers {} }
    (service.afterSteps assignment steps).totals.received =
      (steps.flatMap Step.published).length := by
  intro service
  have accounts : (Journal.ofSteps assignment service steps).Accounts _ :=
    Journal.accounts_ofSteps registry steps
  rw [← Journal.service_ofSteps, accounts.totals_eq, Journal.tally]

/-! ### What posts carry -/

def Json.items? : Json → Option (List Json)
  | .arr items => some items
  | _ => none

namespace LoadGenerator

def Call.carried? : Call → Option (List Json)
  | .post _ body _ _ => body.items?
  | _ => none

/-- What calls carry, as far as they are posts of lists. -/
def carriedBy (calls : List Call) : List (List Json) := calls.filterMap Call.carried?

theorem carriedBy_append (calls others : List Call) :
    carriedBy (calls ++ others) = carriedBy calls ++ carriedBy others :=
  List.filterMap_append

/-- The attempts at one post all carry the same. -/
theorem carriedBy_tries (posting : Posting) (tries : Tries) :
    carriedBy (tries.calls posting) =
      (List.replicate tries.made posting.body).filterMap Json.items? := by
  obtain ⟨failed, delivered⟩ := tries
  induction failed with
  | zero => cases delivered <;> rfl
  | succ failed ih =>
    have more : Tries.made ⟨failed + 1, delivered⟩ = Tries.made ⟨failed, delivered⟩ + 1 :=
      Nat.add_right_comm ..
    rw [Tries.calls_succ, carriedBy_append, ih, more, List.replicate_succ, List.filterMap_cons]
    unfold carriedBy
    simp only [Posting.call, List.filterMap_cons, Call.carried?, List.filterMap_nil]
    cases posting.body.items? <;> rfl

/-- A session goes on with calls that carry some lists. -/
def Session.Carries (session : Session) (lists : List (List Json)) (after : Session) : Prop :=
  ∃ calls, after.calls = session.calls ++ calls ∧ carriedBy calls = lists

namespace Session.Carries

variable {session middle after : Session} {first second : List (List Json)}

theorem trans (before : session.Carries first middle) (behind : middle.Carries second after) :
    session.Carries (first ++ second) after := by
  obtain ⟨calls, made, rfl⟩ := before
  obtain ⟨others, more, rfl⟩ := behind
  exact ⟨calls ++ others, by rw [more, made, List.append_assoc], List.filterMap_append⟩

end Session.Carries

variable {settings : Settings} {session after : Session}

/-- A post that carries no list is nothing but calls. -/
theorem carries_post {posting : Posting} {retries : Int} {found : Option Binary64}
    (bare : posting.body.items? = none) (done : post posting retries session = (.ok found, after)) :
    session.Carries [] after ∧ after.gets = session.gets := by
  obtain ⟨tries, -, calls, gets, -⟩ := attempts_spec done
  refine ⟨⟨_, calls, ?_⟩, gets⟩
  rw [carriedBy_tries, List.filterMap_replicate_of_none bare]

theorem carriedBy_batches (settings : Settings) (tries : List Tries)
    (batches : List (List Message)) :
    carriedBy (List.zipWith (fun own batch => own.calls (batchPosting settings batch)) tries
      batches).flatten = copies (tries.map Tries.made) (batches.map (List.map Message.toJson)) := by
  induction tries generalizing batches with
  | nil => rfl
  | cons own tries ih =>
    cases batches with
    | nil => rfl
    | cons batch batches =>
      have items : (batchPosting settings batch).body.items? =
        some (batch.map Message.toJson) := rfl
      rw [List.zipWith_cons_cons, List.flatten_cons, carriedBy_append, carriedBy_tries,
        List.filterMap_replicate_of_some items, ih, List.map_cons, List.map_cons, copies_cons]

theorem carries_sendBatches {batches : List (List Message)}
    (done : sendBatches settings batches session = (.ok (), after)) :
    ∃ times : List Nat, times.length = batches.length ∧
      (∀ n ∈ times, n ≤ retryLimit.toNat) ∧
      session.Carries (copies times (batches.map (List.map Message.toJson))) after ∧
      after.gets = session.gets := by
  obtain ⟨tries, length, within, calls, gets, -⟩ := sendBatches_spec done
  refine ⟨tries.map Tries.made, by rw [List.length_map, length], ?_, ⟨_, calls, ?_⟩, gets⟩
  · exact List.forall_mem_map.2 fun own member => (within own member).made_le
  · exact carriedBy_batches settings tries batches

theorem Answer.body_of_look {answer : Answer} {found : Response}
    (seen : answer.look = .ok (.response found)) :
    ∃ code text elapsed, answer = .response code text elapsed found.body := by
  cases answer with
  | response code text elapsed body =>
    unfold look at seen
    dsimp only at seen
    split at seen
    · obtain rfl := Sight.response.inj (Except.ok.inj seen)
      exact ⟨code, text, elapsed, rfl⟩
    · cases seen
  | refused unconnected name text => cases Except.ok.inj seen
  | ended interruption => cases seen

section Progress

variable {failed : Json → Except Failure (Option String)} {total status : Json}

theorem progressOf_eq_inl {response : Response}
    (done : progressOf failed total response = .ok (.inl status)) : status = response.body := by
  obtain ⟨failure, -, done⟩ := bind_eq_ok done
  cases failure with
  | some text => cases Except.ok.inj done
  | none =>
    obtain ⟨count, -, done⟩ := bind_eq_ok done
    obtain ⟨enough, -, done⟩ := bind_eq_ok done
    cases enough with
    | true => exact (Sum.inl.inj (Except.ok.inj done)).symm
    | false =>
      obtain ⟨shown, -, done⟩ := bind_eq_ok done
      cases Except.ok.inj done

theorem progress_eq_inl {answer : Answer}
    (done : progress failed total answer = .ok (.inl status)) :
    ∃ code text elapsed, answer = .response code text elapsed status := by
  unfold progress at done
  cases seen : answer.look with
  | error interruption =>
    rw [seen] at done
    cases done
  | ok sight =>
    rw [seen] at done
    cases sight with
    | refusal unconnected name text => cases Except.ok.inj done
    | response found =>
      change (progressOf failed total found).mapError _ = _ at done
      cases shown : progressOf failed total found with
      | error failure =>
        rw [shown] at done
        cases done
      | ok outcome =>
        rw [shown] at done
        obtain rfl := Except.ok.inj done
        rw [progressOf_eq_inl shown]
        exact Answer.body_of_look seen

end Progress

/-- Looking at the status ends with the one that the last answer looked at showed. -/
theorem pollStatus_spec {total status : Json} {answers : List Answer}
    (done : pollStatus settings total answers session = (.ok status, after)) :
    session.Carries [] after ∧ ∃ looked code text elapsed,
      answers = looked ++ .response code text elapsed status :: after.gets := by
  induction answers generalizing session with
  | nil => cases (Prod.mk.inj done).1
  | cons answer rest ih =>
    rw [pollStatus] at done
    dsimp only at done
    have asked : session.Carries []
        { session.call (.get settings.statsUrl 5) with gets := rest } := ⟨_, rfl, rfl⟩
    split at done
    · cases (Prod.mk.inj done).1
    next found =>
      obtain ⟨same, rfl⟩ := Prod.mk.inj done
      obtain rfl := Except.ok.inj same
      obtain ⟨code, text, elapsed, rfl⟩ := progress_eq_inl found
      exact ⟨asked, [], code, text, elapsed, rfl⟩
    next record _ =>
      split at done
      · cases (Prod.mk.inj done).1
      next slept =>
        have paused : Session.Carries _ [] _ := ⟨_, (Session.sleep_spec slept).1, rfl⟩
        obtain ⟨others, looked, code, text, elapsed, rfl⟩ := ih done
        exact ⟨asked.trans (paused.trans others), answer :: looked, code, text, elapsed, rfl⟩

/-! ### Printing -/

/-- Nothing but the printed text has changed. -/
def Session.Printed (session after : Session) : Prop := ∃ printed, after = { session with printed }

theorem Session.Printed.trans {first second third : Session} (before : first.Printed second)
    (behind : second.Printed third) : first.Printed third := by
  obtain ⟨_, rfl⟩ := before
  obtain ⟨printed, rfl⟩ := behind
  exact ⟨printed, rfl⟩

theorem Session.printed_print (session : Session) (text : String) :
    session.Printed (session.print text) := ⟨_, rfl⟩

theorem printed_printEach (make : Json → Except Interruption String) (values : List Json)
    (session : Session) : session.Printed (printEach make values session).2 := by
  induction values generalizing session with
  | nil => exact ⟨_, rfl⟩
  | cons value rest ih =>
    rw [printEach]
    split
    · exact ⟨_, rfl⟩
    next text _ => exact (session.printed_print text).trans (ih _)

theorem printed_printTracker (tracker : Json) (session : Session) :
    session.Printed (printTracker tracker session).2 := by
  unfold printTracker
  split
  · exact ⟨_, rfl⟩
  next heading _ =>
    dsimp only
    split
    · exact session.printed_print heading
    · exact (session.printed_print heading).trans (printed_printEach ..)

theorem printed_printTrackers (trackers : List Json) (session : Session) :
    session.Printed (printTrackers trackers session).2 := by
  induction trackers generalizing session with
  | nil => exact ⟨_, rfl⟩
  | cons tracker rest ih =>
    have first := printed_printTracker tracker session
    rw [printTrackers]
    split
    next stopped => rwa [stopped] at first
    next printed =>
      rw [printed] at first
      exact first.trans (ih _)

theorem printed_printTotals (status : Json) (session : Session) :
    session.Printed (printTotals status session) :=
  (session.printed_print _).trans <| (Session.printed_print _ _).trans <|
    (Session.printed_print _ _).trans <| (Session.printed_print _ _).trans <|
      (Session.printed_print _ _).trans <| Session.printed_print _ _

theorem printed_printSummary (status : Json) (session : Session) :
    session.Printed (printSummary status session).2 := by
  have totals := printed_printTotals status session
  unfold printSummary
  dsimp only
  split
  · exact totals
  · exact totals.trans (printed_printTrackers ..)

/-! ### The closing check -/

theorem reportAndCheck_spec {sent : Nat} {status : Json}
    (passed : reportAndCheck settings sent status session = (.ok (), after)) :
    session.Carries [] after ∧ after.gets = session.gets ∧ verified status sent = true := by
  unfold reportAndCheck at passed
  dsimp only at passed
  split at passed
  · cases (Prod.mk.inj passed).1
  next reported asked =>
    obtain ⟨carried, gets⟩ := carries_post rfl asked
    have printed := printed_printSummary status reported
    split at passed
    · cases (Prod.mk.inj passed).1
    next shown summary =>
      rw [summary] at printed
      obtain ⟨_, rfl⟩ := printed
      split at passed
      next same =>
        obtain ⟨-, rfl⟩ := Prod.mk.inj passed
        exact ⟨carried, gets, same⟩
      · cases (Prod.mk.inj passed).1

/-- What follows the sending carries no list, and it checks the status that the last answer looked
at showed. -/
theorem conclude_spec {sent : Nat} (passed : conclude settings sent session = (.ok (), after)) :
    session.Carries [] after ∧ ∃ looked code text elapsed status,
      session.gets = looked ++ .response code text elapsed status :: after.gets ∧
        verified status sent = true := by
  unfold conclude at passed
  split at passed
  · cases (Prod.mk.inj passed).1
  next status waited awaited =>
    obtain ⟨waiting, looked, code, text, elapsed, gets⟩ := pollStatus_spec awaited
    obtain ⟨checking, same, counted⟩ := reportAndCheck_spec passed
    rw [← same] at gets
    exact ⟨waiting.trans checking, looked, code, text, elapsed, status, gets, counted⟩

/-- A run that passes its check has posted each batch some number of times, and the last answer that
it looked at then showed the number of messages as the count of the service. -/
theorem sendStream_spec {sources : Nat} {messages : List Message}
    (passed : sendStream settings sources messages session = (.ok (), after)) :
    ∃ size times, batchSize settings = .ok size ∧
      times.length = (batches size messages).length ∧ (∀ n ∈ times, n ≤ retryLimit.toNat) ∧
      session.Carries (copies times ((batches size messages).map (List.map Message.toJson))) after ∧
      ∃ looked code text elapsed status,
        session.gets = looked ++ .response code text elapsed status :: after.gets ∧
          verified status messages.length = true := by
  unfold sendStream at passed
  dsimp only at passed
  split at passed
  · cases (Prod.mk.inj passed).1
  next size sized =>
    split at passed
    · cases (Prod.mk.inj passed).1
    next sent sending =>
      obtain ⟨times, length, within, carried, gets⟩ := carries_sendBatches sending
      obtain ⟨others, shown⟩ := conclude_spec passed
      have all := carried.trans others
      rw [List.append_nil] at all
      have same : session.gets = sent.gets := gets.symm
      rw [same]
      exact ⟨size, times, sized, length, within, all, shown⟩

/-- An answer that shows a number of received events shows that of a service which the given ones
have reached since it began, in any order and with any turns of its workers and reports between. -/
def Answer.Tells (published : List Event) (answer : Answer) : Prop :=
  ∀ code text elapsed body count, answer = .response code text elapsed body →
    body.field? "received" = some count →
      ∃ (registry : Registry) (assignment : Assignment) (steps : List Service.Step),
        let service : Service := { registry, queues := List.replicate Service.workers {} }
        (steps.flatMap Service.Step.published).Perm published ∧
          count = .int (service.afterSteps assignment steps).totals.received

theorem Answer.Tells.length_eq {published : List Event} {code text elapsed status : Json}
    (truthful : Tells published (.response code text elapsed status)) {sent : Nat}
    (same : verified status sent = true) : published.length = sent := by
  unfold verified at same
  cases shown : status.field? "received" with
  | none =>
    rw [shown] at same
    cases same
  | some count =>
    obtain ⟨registry, assignment, steps, perm, rfl⟩ := truthful _ _ _ _ _ rfl shown
    rw [shown, Service.received_afterSteps, perm.length_eq] at same
    change Number.same (.int published.length) (.int sent) = true at same
    simpa [Number.same, Number.toRat?] using same

/-- The bodies of the batches hold all messages; a size below one gives no batch, and then there is
no message if what is accepted is as much. -/
theorem flatten_bodies {size : Int} {messages : List Message} {times : List Nat}
    (same : (copies times ((batches size messages).map (List.map Message.toJson))).flatten.length =
      messages.length) :
    ((batches size messages).map (List.map Message.toJson)).flatten =
      messages.map Message.toJson := by
  rw [← List.map_flatten]
  by_cases positive : 1 ≤ size
  · rw [batches_flatten positive]
  · have none : batches size messages = [] := if_pos (not_le.1 positive)
    have empty : copies times ([] : List (List Json)) = [] := by cases times <;> rfl
    rw [none, List.map_nil, empty] at same
    rw [none, List.eq_nil_of_length_eq_zero same.symm]
    rfl

/-- A run that passes its check has had as many events accepted as it sent, whichever of its posts
the service accepted and whatever was answered to them, if the last answer that it looked at told
the truth: each batch some number of times, at most one for each attempt. If no batch is missing, if
none came twice or if there is only one, then each came once. -/
theorem accepted_of_passed {sources : Nat} {messages : List Message}
    (passed : sendStream settings sources messages session = (.ok (), after))
    {accepted : List (List Json)} {published : List (List Event)}
    (chosen : accepted.Sublist (carriedBy (after.calls.drop session.calls.length)))
    (read : List.Forall₂ (fun items events => events.length = items.length) accepted published)
    (truthful : ∀ looked answer, session.gets = looked ++ answer :: after.gets →
      answer.Tells published.flatten) :
    accepted.flatten.length = messages.length ∧
      ∃ size times, batchSize settings = .ok size ∧
        let parts := batches size messages
        times.length = parts.length ∧ (∀ n ∈ times, n ≤ retryLimit.toNat) ∧
        accepted = copies times (parts.map (List.map Message.toJson)) ∧
        ((∀ n ∈ times, 1 ≤ n) ∨ (∀ n ∈ times, n ≤ 1) ∨ messages.length ≤ size →
          (∀ n ∈ times, n = 1) ∧ accepted.flatten = messages.map Message.toJson) := by
  obtain ⟨size, tries, sized, length, within, ⟨calls, made, carried⟩, looked, code, text, elapsed,
    status, gets, same⟩ := sendStream_spec passed
  rw [made, List.drop_left, carried] at chosen
  have bodies : tries.length = ((batches size messages).map (List.map Message.toJson)).length := by
    rw [length, List.length_map]
  obtain ⟨times, fewer, rfl⟩ := exists_copies_of_sublist bodies chosen
  have counted : (copies times ((batches size messages).map
      (List.map Message.toJson))).flatten.length = messages.length := by
    rw [← (truthful _ _ gets).length_eq same]
    exact length_flatten_eq (read.imp fun _ _ whole => whole.symm)
  have whole := flatten_bodies counted
  have length : times.length = (batches size messages).length := fewer.length_eq.trans length
  have bodies := fewer.length_eq.trans bodies
  refine ⟨counted, size, times, sized, length, forall_le_of_forall₂ fewer within, rfl,
    fun even => ?_⟩
  have once : ∀ n ∈ times, n = 1 := by
    refine once_of_length_copies bodies ?_ (by rw [counted, whole, List.length_map]) ?_
    · refine List.forall_mem_map.2 fun batch member empty => ?_
      exact batches_ne_nil size messages batch member (List.map_eq_nil_iff.1 empty)
    · rcases even with covered | single | short
      · exact .inl covered
      · exact .inr single
      · -- a single number is one at least or one at most
        have one := length ▸ length_batches_le_one short
        match times, one with
        | [], _ => exact .inl nofun
        | [n], _ => simpa using Nat.le_total 1 n
  exact ⟨once, by rw [copies_once once bodies, whole]⟩

theorem Answer.tells_of_length {published : List Event} {code text elapsed body : Json}
    (shown : body.field? "received" = some (.int published.length)) :
    Tells published (.response code text elapsed body) := by
  rintro _ _ _ _ count ⟨⟩ found
  obtain rfl := Option.some.inj (shown.symm.trans found)
  refine ⟨.create .standard, fun _ => 0, [.publish published], ?_, ?_⟩
  · simp [Service.Step.published]
  · rw [Service.received_afterSteps]
    simp [Service.Step.published]

theorem eq_of_isOk (outcome : Except Interruption Unit × Session)
    (fine : outcome.1.isOk = true) : outcome = (.ok (), outcome.2) := by
  obtain ⟨_ | _, after⟩ := outcome
  · cases fine
  · rfl

/-- The answer to the first post is lost, and the service accepts the second one only. -/
theorem accepted_of_passed_lost_answer :
    let message (id time : String) : Message :=
      ⟨.str "host-a", .str id, time, false, .bool false⟩
    let messages :=
      [message "MSG0000" "2024-01-01T00:00:30+00:00", message "MSG0001" "2024-01-01T00:01:00+00:00"]
    let answer := Answer.response (.int 200) (.str "") (.int 0)
    let counts := answer (.obj [("received", .int 2), ("recorded", .int 2)])
    let session : Session :=
      { gets := [counts], posts := [.refused false "ReadTimeout" "Read timed out.", answer .null] }
    let sent := messages.map Message.toJson
    let events : List Event :=
      [⟨"host-a", "MSG0000", 1704067230000, false, false⟩,
        ⟨"host-a", "MSG0001", 1704067260000, false, false⟩]
    ∃ after, sendStream {} 1 messages session = (.ok (), after) ∧
      carriedBy after.calls = [sent, sent] ∧ List.Forall₂ Message.Denotes messages events ∧
      counts.Tells events ∧ ∃ times, [sent] = copies times [sent] ∧ ∀ n ∈ times, n = 1 := by
  intro message messages answer counts session sent events
  have passed := eq_of_isOk (sendStream {} 1 messages session) (by decide +kernel)
  have carried : carriedBy (sendStream {} 1 messages session).2.calls = [sent, sent] := by
    with_unfolding_all rfl
  have chosen : [sent].Sublist
      (carriedBy ((sendStream {} 1 messages session).2.calls.drop session.calls.length)) :=
    carried ▸ List.sublist_cons_self sent [sent]
  have denotes : ∀ (id text : String) (wall : WallTime), id ≠ "" → wall.isSupported →
      text = Timestamp.render ⟨wall, some 0⟩ →
        (message id text).Denotes ⟨"host-a", id, wall.micros / 1000, false, false⟩ := by
    intro id text wall named supported written
    have host : "host-a" ≠ "" := by decide
    refine ⟨rfl, host, rfl, named, rfl, rfl, ⟨wall, some 0⟩, _, written, supported, ?_,
      Int.add_zero _, rfl⟩
    rintro _ ⟨⟩
    decide
  have denote : List.Forall₂ Message.Denotes messages events :=
    .cons (denotes "MSG0000" _ ⟨1704067230000000⟩ (by decide) (by decide) (by decide +kernel))
      (.cons (denotes "MSG0001" _ ⟨1704067260000000⟩ (by decide) (by decide) (by decide +kernel))
        .nil)
  have tells : counts.Tells [events].flatten := Answer.tells_of_length rfl
  obtain ⟨-, size, times, sized, -, -, same, once⟩ := accepted_of_passed passed chosen
    (.cons rfl .nil) fun looked answer looks => by
      have one : [counts] = looked ++ answer :: _ := looks
      obtain rfl : looked = [] := by
        have short := congrArg List.length one
        rw [List.length_singleton, List.length_append, List.length_cons] at short
        exact List.eq_nil_of_length_eq_zero (by omega)
      exact (List.cons.inj looks).1 ▸ tells
  obtain rfl : 100 = size := Except.ok.inj sized
  exact ⟨_, passed, carried, denote, tells, times, same, (once (.inr (.inr (by decide)))).1⟩

/-! ### A lost batch made up for -/

theorem Course.inTimeOrder_eq {source : String} {start : Timestamp} {sents : List Sent}
    (course : Course source start sents) :
    inTimeOrder (sents.map Sent.message) = sents.map Sent.message := by
  apply List.mergeSort_of_pairwise
  refine List.pairwise_map.2 (course.pairwise_render.imp fun less => ?_)
  rw [Bool.not_eq_true', decide_eq_false_iff_not]
  exact less.not_gt

/-- A message that is sent after some others of its source is none of them. -/
theorem Course.toJson_not_mem {source : String} {start : Timestamp} {earlier later : List Sent}
    (course : Course source start (earlier ++ later)) {sent : Sent} (member : sent ∈ earlier) :
    sent.message.toJson ∉ later.map fun other => other.message.toJson := by
  intro again
  obtain ⟨other, there, same⟩ := List.mem_map.1 again
  have less := (List.pairwise_append.1 course.pairwise_render).2.2 sent member other there
  have time : other.time.render = sent.time.render := by
    simp only [Message.toJson, Sent.message, Json.obj.injEq, List.cons.injEq, Prod.mk.injEq,
      Json.str.injEq] at same
    exact same.2.2.1.2
  rw [time] at less
  exact lt_irrefl _ less

/-- A stream whose messages are all of one source is its course. -/
theorem stream_course {source : String} {start : Timestamp} {draws : Draws}
    {messages : List Message} (made : stream {} start draws = .ok messages)
    (own : ∀ message ∈ messages, message.source = .str source) :
    ∃ sents : List Sent, messages = sents.map Sent.message ∧ Course source start sents := by
  obtain ⟨sents, rfl, courses⟩ := stream_courses made
  have all : sents.filter (·.source = source) = sents := List.filter_eq_self.2 fun sent member =>
    decide_eq_true (Json.str.inj (own _ (List.mem_map_of_mem member)))
  exact ⟨sents, rfl, all ▸ courses source⟩

/-- A run of the standard settings sends two days of messages of three sources. -/
theorem runStream_eq {now start : Timestamp} {draws : Draws} {messages : List Message}
    (begun : later now (-(48 * microsPerHour)) = .ok start)
    (made : stream {} start draws = .ok messages) :
    runStream {} (.ok now) draws = .ok (3, inTimeOrder messages) := by
  have length : (Number.int 48).duration microsPerHour = .ok (48 * microsPerHour) := by
    decide +kernel
  have hours : ({} : Settings).simulation.simulatedHours = .ok (.int 48) := rfl
  have present : (.ok now : Except Failure Timestamp) = .ok now := rfl
  rw [runStream, bind_of_eq_ok present, bind_of_eq_ok hours, bind_of_eq_ok length,
    bind_of_eq_ok begun, bind_of_eq_ok made]
  rfl

/-- When there are two batches, all but the attempts at the first one are posts of the second. -/
theorem second_posted_again {sources k : Nat} {size : Int} {messages first second : List Message}
    (passed : sendStream settings sources messages session = (.ok (), after))
    (sized : batchSize settings = .ok size) (pair : batches size messages = [first, second])
    (posts : (carriedBy (after.calls.drop session.calls.length)).length = retryLimit.toNat + k) :
    (List.replicate k (second.map Message.toJson)).Sublist
      (carriedBy (after.calls.drop session.calls.length)) := by
  obtain ⟨size', times, sized', length, within, ⟨calls, made, carried⟩, -⟩ := sendStream_spec passed
  obtain rfl : size' = size := Except.ok.inj (sized'.symm.trans sized)
  rw [pair] at length carried
  rw [made, List.drop_left, carried] at posts ⊢
  match times, length with
  | [m, n], _ =>
    have le := within m List.mem_cons_self
    have all : copies [m, n] ([first, second].map (List.map Message.toJson)) =
        List.replicate m (first.map Message.toJson) ++
          List.replicate n (second.map Message.toJson) := congrArg _ (List.append_nil _)
    rw [all, List.length_append, List.length_replicate, List.length_replicate] at posts
    rw [all]
    refine List.Sublist.trans ?_ (List.sublist_append_right _ _)
    exact (List.replicate_sublist_replicate _).2 (by omega)

theorem run_eq {now : Except Failure Timestamp} {draws : Draws} {ready : Session} {sources : Nat}
    {messages : List Message} (awaited : awaitService settings session = (.ok (), ready))
    (generated : runStream settings now draws = .ok (sources, messages)) :
    run settings now draws session = sendStream settings sources messages ready := by
  rw [run, awaited]
  dsimp only
  rw [generated]

/-- The service never gets the first half of two hundred messages and accepts the other half twice,
first without an answer; the check passes. -/
theorem passed_without_first_batch :
    let now : Timestamp := ⟨⟨1704240000000000⟩, some 0⟩
    let draws : Draws :=
      { rolls := fun n => .ok (if n < 210 then .float (.ofDecimal false 5 (-1)) else .int 0)
        choices := fun _ => .ok 0 }
    let answer := Answer.response (.int 200) (.str "") (.int 0)
    let lost := Answer.refused true "ConnectionError" ""
    let counts :=
      answer (.obj [("received", .int 200), ("recorded", .int 200), ("dropped", .int 0)])
    let session : Session :=
      { gets := [answer .null, counts]
        posts := [lost, lost, lost, .refused false "ReadTimeout" "", answer .null] }
    ∃ messages after events,
      runStream {} (.ok now) draws = .ok (3, messages) ∧ messages.length = 200 ∧
      run {} (.ok now) draws session = (.ok (), after) ∧
      let accepted := List.replicate 2 ((messages.drop 100).map Message.toJson)
      accepted.Sublist (carriedBy after.calls) ∧
      List.Forall₂ Message.Denotes (messages.drop 100) events ∧ counts.Tells (events ++ events) ∧
      ∀ message ∈ messages.take 100, message.toJson ∉ accepted.flatten := by
  intro now draws answer lost counts session
  have begun : later now (-(48 * microsPerHour)) = .ok ⟨⟨1704067200000000⟩, some 0⟩ := by
    decide +kernel
  have awaited := eq_of_isOk (awaitService {} session) (by decide +kernel)
  have checked : ((stream {} ⟨⟨1704067200000000⟩, some 0⟩ draws).map fun messages =>
      let sent := sendStream {} 3 messages (awaitService {} session).2
      (messages.length,
        messages.all fun message => Validation.text message.source = .ok "host-a",
        sent.1.isOk, (carriedBy (sent.2.calls.drop 1)).length)) = .ok (200, true, true, 5) := by
    decide +kernel
  obtain ⟨messages, made, checked⟩ := map_eq_ok checked
  obtain ⟨length, own, passed, posts⟩ : _ ∧ _ ∧ _ ∧ _ := by
    simpa only [Prod.mk.injEq] using checked
  obtain ⟨sents, rfl, course⟩ := stream_course made fun message member =>
    Validation.text_eq_ok_iff.1 (of_decide_eq_true (List.all_eq_true.1 own message member))
  have passed := eq_of_isOk _ passed
  have generated := runStream_eq begun made
  rw [course.inTimeOrder_eq] at generated
  have whole := (run_eq awaited generated).trans passed
  have pair : batches 100 (sents.map Sent.message) = _ := batches_eq_pair (by omega) (by omega)
  have again := second_posted_again (k := 2) passed rfl pair posts
  have minutes : Timestamp.HasMinutes ⟨⟨1704067200000000⟩, some 0⟩ := by
    rintro _ ⟨⟩
    decide
  refine ⟨_, _, (sents.drop 100).map Sent.event, generated, length, whole, ?_, ?_, ?_, ?_⟩
  · exact again.trans ((List.drop_sublist 1 _).filterMap _)
  · rw [← List.map_drop, List.forall₂_map_left_iff, List.forall₂_map_right_iff, List.forall₂_same]
    exact fun sent late => course.denotes (by decide) minutes sent (List.mem_of_mem_drop late)
  · refine Answer.tells_of_length ?_
    rw [List.length_map] at length
    simp [Json.field?, length]
  · intro message member again
    rw [← List.map_take] at member
    obtain ⟨sent, early, rfl⟩ := List.mem_map.1 member
    rw [← List.take_append_drop 100 sents] at course
    refine course.toJson_not_mem early ?_
    obtain ⟨items, copy, inside⟩ := List.mem_flatten.1 again
    rwa [List.eq_of_mem_replicate copy, ← List.map_drop, List.map_map] at inside

end LoadGenerator

end ArrivalRates
