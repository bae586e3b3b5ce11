import ArrivalRates.LoadGenerator.Run

/-!
# Posts and their attempts

A post is made until one attempt succeeds or none is left, with a pause after each failure. Which
attempts succeed is up to the answers to come, and as long as these can be dealt with, nothing ends
a post early. The batches of a stream are posted one after the other, whatever became of those
before, and together they are the stream.
-/

namespace ArrivalRates.LoadGenerator

/-! ### One post -/

def Posting.call (posting : Posting) : Call :=
  .post posting.url posting.body posting.params postTimeout

/-- How a post went: the attempts that failed, and whether one succeeded. -/
structure Tries where
  failed : Nat
  delivered : Bool

namespace Tries

/-- Attempts go on until one succeeds, or as long as there are any left. -/
def Within (limit : Nat) (tries : Tries) : Prop :=
  if tries.delivered then tries.failed < limit else tries.failed = limit

theorem Within.succ {limit : Nat} {tries : Tries} (within : tries.Within limit) :
    (Tries.mk (tries.failed + 1) tries.delivered).Within (limit + 1) := by
  unfold Within at within ⊢
  split at within
  next delivered => simpa [delivered] using within
  next failed => simpa [failed] using within

def made (tries : Tries) : Nat := tries.failed + tries.delivered.toNat

theorem Within.made_pos {limit : Nat} {tries : Tries} (within : tries.Within limit)
    (some : 0 < limit) : 0 < tries.made := by
  obtain ⟨failed, delivered⟩ := tries
  cases delivered with
  | true => exact Nat.succ_pos failed
  | false =>
    have all : failed = limit := within
    exact all ▸ some

theorem Within.made_le {limit : Nat} {tries : Tries} (within : tries.Within limit) :
    tries.made ≤ limit := by
  unfold Within at within
  unfold made
  cases delivered : tries.delivered <;> simp [delivered] at within ⊢ <;> omega

/-- The calls for a post: a pause follows each failed attempt. -/
def calls (posting : Posting) (tries : Tries) : List Call :=
  (List.replicate tries.failed [posting.call, .sleep posting.delay]).flatten ++
    List.replicate tries.delivered.toNat posting.call

/-- The attempts in their order, whether each of them succeeded. -/
def outcomes (tries : Tries) : List Bool :=
  List.replicate tries.failed false ++ List.replicate tries.delivered.toNat true

theorem calls_succ (posting : Posting) (failed : Nat) (delivered : Bool) :
    calls posting ⟨failed + 1, delivered⟩ =
      [posting.call, .sleep posting.delay] ++ calls posting ⟨failed, delivered⟩ := by
  rw [calls, List.replicate_succ, List.flatten_cons, List.append_assoc, calls]

end Tries

def Answer.delivers (answer : Answer) : Bool :=
  match answer.look with
  | .ok (.response found) => found.isSuccess
  | _ => false

theorem isLeft_of_attempt {number : Nat} {answer : Answer} {outcome : Binary64 ⊕ String}
    (made : attempt number answer = .ok outcome) : answer.delivers = outcome.isLeft := by
  unfold attempt at made
  unfold Answer.delivers
  cases seen : answer.look with
  | error interruption =>
    rw [seen] at made
    cases made
  | ok sight =>
    rw [seen] at made
    cases sight with
    | refusal unconnected name text => rw [← Except.ok.inj made, Sum.isLeft_inr]
    | response found =>
      simp only [bind, Except.bind] at made
      split at made
      next success =>
        rw [← Except.ok.inj made, Sum.isLeft_inl]
        exact success
      next failure =>
        rw [← Except.ok.inj made, Sum.isLeft_inr]
        exact Bool.eq_false_iff.2 failure

namespace Session

variable {session middle after : Session}

/-- Whether the post after `n` others will succeed; the last answer comes again and again. -/
def outcome? (session : Session) (n : Nat) : Option Bool :=
  (session.posts[n]?.or session.posts.getLast?).map Answer.delivers

/-- The next posts have the given outcomes, and those after them are left to another session. -/
def Yields (session : Session) (outcomes : List Bool) (after : Session) : Prop :=
  ∀ n, session.outcome? n = outcomes[n]?.or (after.outcome? (n - outcomes.length))

theorem yields_nil (same : after.posts = session.posts) : session.Yields [] after := by
  intro n
  simp [outcome?, same]

theorem Yields.trans {first second : List Bool} (before : session.Yields first middle)
    (behind : middle.Yields second after) : session.Yields (first ++ second) after := by
  intro n
  rw [before, behind, List.length_append, Nat.sub_add_eq, List.getElem?_append]
  split
  next early => rw [List.getElem?_eq_getElem early, Option.some_or, Option.some_or]
  next late => rw [List.getElem?_eq_none (Nat.not_lt.1 late), Option.none_or]

theorem yields_nextPost {answer : Answer} (answered : session.nextPost = (.ok answer, after)) :
    session.Yields [answer.delivers] after := by
  unfold nextPost at answered
  intro n
  split at answered
  · cases (Prod.mk.inj answered).1
  next answer only =>
    obtain ⟨same, rfl⟩ := Prod.mk.inj answered
    obtain rfl := Except.ok.inj same
    have always : ∀ n, session.outcome? n = some answer.delivers := by
      intro n
      cases n <;> simp [outcome?, only]
    cases n <;> simp [always]
  next answer rest more found =>
    obtain ⟨same, rfl⟩ := Prod.mk.inj answered
    obtain rfl := Except.ok.inj same
    have last : (answer :: rest).getLast? = rest.getLast? := by
      obtain ⟨second, others, rfl⟩ := List.exists_cons_of_ne_nil more
      exact List.getLast?_cons_cons
    cases n <;> simp [outcome?, found, last]

theorem yields_of_attempt (session : Session) {number : Nat} {outcome : Binary64 ⊕ String}
    (made : session.nextPost.1.bind (attempt number) = .ok outcome) :
    session.Yields [outcome.isLeft] session.nextPost.2 := by
  cases answered : session.nextPost with
  | mk asked after =>
    rw [answered] at made
    cases asked with
    | error interruption => cases made
    | ok answer =>
      rw [← isLeft_of_attempt made]
      exact yields_nextPost answered

theorem calls_nextPost (session : Session) : session.nextPost.2.calls = session.calls := by
  unfold nextPost
  split <;> rfl

theorem gets_nextPost (session : Session) : session.nextPost.2.gets = session.gets := by
  unfold nextPost
  split <;> rfl

theorem sleep_spec {seconds : Json} (slept : session.sleep seconds = (.ok (), after)) :
    after.calls = session.calls ++ [.sleep seconds] ∧ after.gets = session.gets ∧
      after.posts = session.posts := by
  unfold sleep at slept
  dsimp only at slept
  split at slept
  · obtain ⟨-, rfl⟩ := Prod.mk.inj slept
    exact ⟨rfl, rfl, rfl⟩
  · cases (Prod.mk.inj slept).1

end Session

variable {settings : Settings} {session after : Session}

theorem attempts_succ (posting : Posting) (left number : Nat) (session : Session) :
    attempts posting (left + 1) number session =
      let asked := (session.call posting.call).nextPost
      match asked.1.bind (attempt number) with
      | .error interruption => (.error interruption, asked.2)
      | .ok (.inl latency) => (.ok (some latency), asked.2)
      | .ok (.inr record) =>
        match (asked.2.log record).sleep posting.delay with
        | (.error interruption, session) => (.error interruption, session)
        | (.ok (), session) => attempts posting left (number + 1) session :=
  rfl

/-- What attempts that came to an end have asked for, and which answers they have used up. -/
theorem attempts_spec {posting : Posting} {left number : Nat} {found : Option Binary64}
    (done : attempts posting left number session = (.ok found, after)) :
    ∃ tries : Tries, tries.Within left ∧ after.calls = session.calls ++ tries.calls posting ∧
      after.gets = session.gets ∧ session.Yields tries.outcomes after := by
  induction left generalizing number session with
  | zero =>
    obtain ⟨-, rfl⟩ := Prod.mk.inj done
    exact ⟨⟨0, false⟩, rfl, (List.append_nil _).symm, rfl, Session.yields_nil rfl⟩
  | succ left ih =>
    have calls : (session.call posting.call).nextPost.2.calls = session.calls ++ [posting.call] :=
      Session.calls_nextPost _
    have gets : (session.call posting.call).nextPost.2.gets = session.gets :=
      Session.gets_nextPost _
    have yields : ∀ {outcome},
        (session.call posting.call).nextPost.1.bind (attempt number) = .ok outcome →
          session.Yields [outcome.isLeft] (session.call posting.call).nextPost.2 :=
      Session.yields_of_attempt (session.call posting.call)
    rw [attempts_succ] at done
    generalize (session.call posting.call).nextPost = asked at done calls gets yields
    dsimp only at done
    split at done
    · cases (Prod.mk.inj done).1
    next success =>
      obtain ⟨-, rfl⟩ := Prod.mk.inj done
      exact ⟨⟨0, true⟩, Nat.succ_pos left, calls, gets, yields success⟩
    next record failure =>
      split at done
      · cases (Prod.mk.inj done).1
      next later slept =>
        obtain ⟨paused, same, answers⟩ := Session.sleep_spec slept
        obtain ⟨tries, within, behind, others, outcomes⟩ := ih done
        refine ⟨⟨tries.failed + 1, tries.delivered⟩, within.succ, ?_,
          others.trans (same.trans gets), ?_⟩
        · have first : (asked.2.log record).calls = session.calls ++ [posting.call] := calls
          rw [behind, paused, first, Tries.calls_succ]
          simp only [List.append_assoc, List.cons_append, List.nil_append]
        · have waited : asked.2.Yields [] later := Session.yields_nil answers
          exact (yields failure).trans (waited.trans outcomes)

/-! ### Answers that are dealt with -/

theorem exists_attempt {answer : Answer} (readable : answer.look.isOk = true) (number : Nat) :
    ∃ outcome, attempt number answer = .ok outcome := by
  unfold attempt
  cases seen : answer.look with
  | error interruption =>
    rw [seen] at readable
    cases readable
  | ok sight =>
    cases sight with
    | refusal unconnected name text => exact ⟨_, rfl⟩
    | response found =>
      simp only [bind, Except.bind]
      split <;> exact ⟨_, rfl⟩

namespace Session

/-- There are answers to come, and each of them shows a response or a refusal. -/
structure Scripted (session : Session) : Prop where
  some : session.posts ≠ []
  readable : ∀ answer ∈ session.posts, answer.look.isOk = true

theorem Scripted.nextPost (scripted : session.Scripted) :
    ∃ answer after, session.nextPost = (.ok answer, after) ∧ after.Scripted ∧
      answer.look.isOk = true := by
  obtain ⟨some, readable⟩ := scripted
  unfold Session.nextPost
  split
  next none => exact absurd none some
  next answer only =>
    exact ⟨answer, session, rfl, ⟨some, readable⟩, readable answer (by simp [only])⟩
  next answer rest more found =>
    rw [found, List.forall_mem_cons] at readable
    exact ⟨answer, _, rfl, ⟨more, readable.2⟩, readable.1⟩

/-- A second is a length of time that a clock can go on by. -/
theorem exists_sleep (session : Session) :
    ∃ after, session.sleep retryDelay = (.ok (), after) := by
  have second : ((Number.int 1).toBinary64).isOk = true := by decide +kernel
  have later : session.clockAfter retryDelay = do
      return session.clock.add (← (Number.int 1).toBinary64) := rfl
  cases found : (Number.int 1).toBinary64 with
  | error cause =>
    rw [found] at second
    cases second
  | ok seconds =>
    rw [found] at later
    rw [sleep, later]
    exact ⟨_, rfl⟩

end Session

/-- Nothing ends a post early as long as its answers can be dealt with. -/
theorem Session.Scripted.attempts (scripted : session.Scripted) {posting : Posting}
    (delay : posting.delay = retryDelay) (left number : Nat) :
    ∃ found after, attempts posting left number session = (.ok found, after) ∧
      after.Scripted := by
  induction left generalizing number session with
  | zero => exact ⟨none, session, rfl, scripted⟩
  | succ left ih =>
    have ready : (session.call posting.call).Scripted := ⟨scripted.some, scripted.readable⟩
    obtain ⟨answer, asked, answered, ready, readable⟩ := ready.nextPost
    obtain ⟨outcome, made⟩ := exists_attempt readable number
    rw [attempts_succ, answered]
    dsimp only
    have tried : (Except.ok answer).bind (attempt number) = .ok outcome := made
    rw [tried]
    cases outcome with
    | inl latency => exact ⟨_, asked, rfl, ready⟩
    | inr record =>
      obtain ⟨later, slept⟩ := (asked.log record).exists_sleep
      have same : later.posts = asked.posts := (Session.sleep_spec slept).2.2
      have rested : later.Scripted := ⟨same ▸ ready.some, same ▸ ready.readable⟩
      dsimp only
      rw [delay, slept]
      exact ih rested (number + 1)

/-! ### Batches -/

section Slices

variable {α : Type} {size : Nat}

theorem slices_flatten (positive : 0 < size) {fuel : Nat} {items : List α}
    (enough : items.length ≤ fuel) : (slices size fuel items).flatten = items := by
  induction fuel generalizing items with
  | zero => exact (List.eq_nil_of_length_eq_zero (Nat.le_zero.1 enough)).symm
  | succ fuel ih =>
    rw [slices]
    split
    next empty => exact (List.isEmpty_iff.1 empty).symm
    next =>
      have fewer : (items.drop size).length ≤ fuel := by
        rw [List.length_drop]
        omega
      rw [List.flatten_cons, ih fewer, List.take_append_drop]

theorem slices_ne_nil (positive : 0 < size) {fuel : Nat} {items : List α} :
    ∀ slice ∈ slices size fuel items, slice ≠ [] := by
  induction fuel generalizing items with
  | zero => exact nofun
  | succ fuel ih =>
    rw [slices]
    split
    · exact nofun
    next some =>
      refine List.forall_mem_cons.2 ⟨fun empty => some ?_, ih⟩
      rcases List.take_eq_nil_iff.1 empty with zero | none
      · omega
      · exact List.isEmpty_iff.2 none

theorem batches_flatten {size : Int} (positive : 1 ≤ size) (items : List α) :
    (batches size items).flatten = items := by
  rw [batches, if_neg (Int.not_lt.2 positive)]
  exact slices_flatten (by omega) (Nat.le_refl _)

theorem batches_ne_nil (size : Int) (items : List α) :
    ∀ batch ∈ batches size items, batch ≠ [] := by
  unfold batches
  split
  · exact nofun
  · exact slices_ne_nil (by omega)

theorem getElem?_slices (positive : 0 < size) {fuel : Nat} {items : List α}
    (enough : items.length ≤ fuel) (i : Nat) :
    (slices size fuel items)[i]? =
      if i * size < items.length then some ((items.drop (i * size)).take size) else none := by
  induction fuel generalizing items i with
  | zero => rw [slices, List.getElem?_nil, if_neg (by omega)]
  | succ fuel ih =>
    rw [slices]
    split
    next empty =>
      rw [List.isEmpty_iff.1 empty, List.getElem?_nil, List.length_nil, if_neg (Nat.not_lt_zero _)]
    next some =>
      cases i with
      | zero =>
        have first : 0 * size < items.length := by
          rw [Nat.zero_mul, List.length_pos_iff]
          exact fun none => some (List.isEmpty_iff.2 none)
        rw [List.getElem?_cons_zero, if_pos first, Nat.zero_mul, List.drop_zero]
      | succ i =>
        have fewer : (items.drop size).length ≤ fuel := by
          rw [List.length_drop]
          omega
        have later : i * size < items.length - size ↔ (i + 1) * size < items.length := by
          rw [Nat.succ_mul]
          omega
        rw [List.getElem?_cons_succ, ih fewer, List.drop_drop, List.length_drop, Nat.succ_mul,
          Nat.add_comm size, ← Nat.succ_mul]
        simp only [later]

/-- The batches are the consecutive slices of the items. -/
theorem getElem?_batches {size : Int} (positive : 1 ≤ size) (items : List α) (i : Nat) :
    (batches size items)[i]? =
      if i * size.toNat < items.length then
        some ((items.drop (i * size.toNat)).take size.toNat)
      else none := by
  rw [batches, if_neg (Int.not_lt.2 positive)]
  exact getElem?_slices (by omega) (Nat.le_refl _) i

/-- Items that fit into one batch are at most one. -/
theorem length_batches_le_one {size : Int} {items : List α} (short : items.length ≤ size) :
    (batches size items).length ≤ 1 := by
  unfold batches
  split
  · exact Nat.zero_le 1
  · cases items with
    | nil => exact Nat.zero_le 1
    | cons first rest =>
      have rest_nil : (first :: rest).drop size.toNat = [] := List.drop_eq_nil_iff.2 (by omega)
      rw [List.length_cons, slices, rest_nil]
      cases rest.length <;> simp [slices]

theorem batches_eq_pair {size : Int} {items : List α} (more : size < items.length)
    (fits : items.length ≤ 2 * size) :
    batches size items = [items.take size.toNat, items.drop size.toNat] := by
  have first : items ≠ [] := List.ne_nil_of_length_pos (by omega)
  have second : items.drop size.toNat ≠ [] := by
    rw [Ne, List.drop_eq_nil_iff]
    omega
  have third : (items.drop size.toNat).drop size.toNat = [] := by
    rw [List.drop_drop, List.drop_eq_nil_iff]
    omega
  have last : (items.drop size.toNat).take size.toNat = items.drop size.toNat := by
    refine List.take_of_length_le ?_
    rw [List.length_drop]
    omega
  obtain ⟨fuel, enough⟩ : ∃ fuel, items.length = fuel + 2 := ⟨items.length - 2, by omega⟩
  rw [batches, if_neg (by omega), enough, slices, if_neg (by simpa using first), slices,
    if_neg (by simpa using second), third, last]
  cases fuel <;> rfl

end Slices

def batchPosting (settings : Settings) (batch : List Message) : Posting :=
  ⟨settings.publishUrl, batchBody batch, .null, retryDelay⟩

/-- The same for the batches of a stream, each with its own attempts. -/
theorem sendBatches_spec {batches : List (List Message)}
    (done : sendBatches settings batches session = (.ok (), after)) :
    ∃ tries : List Tries, tries.length = batches.length ∧
      (∀ own ∈ tries, own.Within retryLimit.toNat) ∧
      after.calls = session.calls ++
        (List.zipWith (fun own batch => own.calls (batchPosting settings batch)) tries
          batches).flatten ∧
      after.gets = session.gets ∧ session.Yields (tries.flatMap Tries.outcomes) after := by
  induction batches generalizing session with
  | nil =>
    obtain ⟨-, rfl⟩ := Prod.mk.inj done
    exact ⟨[], rfl, nofun, (List.append_nil _).symm, rfl, Session.yields_nil rfl⟩
  | cons batch rest ih =>
    rw [sendBatches] at done
    split at done
    · cases (Prod.mk.inj done).1
    next posted =>
      obtain ⟨first, within, here, same, outcomes⟩ := attempts_spec posted
      obtain ⟨tries, length, others, behind, kept, later⟩ := ih done
      refine ⟨first :: tries, congrArg (· + 1) length, List.forall_mem_cons.2 ⟨within, others⟩, ?_,
        kept.trans same, outcomes.trans later⟩
      rw [behind, here, List.zipWith_cons_cons, List.flatten_cons, List.append_assoc]
      rfl

/-- All batches are posted as long as the answers can be dealt with. -/
theorem Session.Scripted.sendBatches (scripted : session.Scripted) (settings : Settings)
    (batches : List (List Message)) :
    ∃ after, sendBatches settings batches session = (.ok (), after) := by
  induction batches generalizing session with
  | nil => exact ⟨session, rfl⟩
  | cons batch rest ih =>
    have posted : ∃ found after,
        post (batchPosting settings batch) retryLimit session = (.ok found, after) ∧
          after.Scripted := scripted.attempts rfl _ _
    obtain ⟨found, after, posted, scripted⟩ := posted
    obtain ⟨last, others⟩ := ih scripted
    refine ⟨last, ?_⟩
    rw [batchPosting] at posted
    rw [LoadGenerator.sendBatches, posted]
    exact others

end ArrivalRates.LoadGenerator
