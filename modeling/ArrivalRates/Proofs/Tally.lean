import ArrivalRates.Proofs.Chronicle
import Mathlib.Data.List.Induction

/-!
# The counters of a window, read off its arrivals

For the arrivals recorded in one window: which ids occur, of which kind each id is, and how often it
occurs in each bucket. `Arrivals.tally` puts these into counters. `record_tally` says that recording
one more arrival turns the tally of a list into the tally of the longer list, so a window that
starts empty always holds the tally of what was recorded in it.
-/

namespace ArrivalRates

namespace Arrivals

def within (start stop : Int) (arrivals : List Arrival) : List Arrival :=
  arrivals.filter fun arrival => decide (start ≤ arrival.moment ∧ arrival.moment < stop)

/-- The ids that occur, in the order of their first arrivals. -/
def ids (arrivals : List Arrival) : List String := (arrivals.map (·.messageId)).eraseDups

/-- An id is of the kind of its first arrival. -/
def isSecondary (arrivals : List Arrival) (messageId : String) : Bool :=
  (arrivals.find? fun arrival => arrival.messageId = messageId).any (·.secondary)

/-- How often an id arrived in the bucket that begins at `start`, as far as a cell counts. -/
def cell (arrivals : List Arrival) (messageId : String) (start : Int) : Int :=
  min maxCount <| (within start (start + bucketMillis) arrivals).countP fun arrival =>
    arrival.messageId = messageId

/-- The counter of an id for the arrivals of a window. -/
def counter (slots start : Int) (arrivals : List Arrival) (messageId : String) : Counter where
  messageId := messageId
  slots := slots
  secondary := isSecondary arrivals messageId
  counts := (List.range slots.toNat).map fun (i : Nat) =>
    cell arrivals messageId (start + i * bucketMillis)

def tally (slots start : Int) (arrivals : List Arrival) : List Counter :=
  (ids arrivals).map (counter slots start arrivals)

/-! ### Ids -/

theorem eraseDups_concat {α : Type} [DecidableEq α] (xs : List α) (x : α) :
    (xs ++ [x]).eraseDups = if x ∈ xs then xs.eraseDups else xs.eraseDups ++ [x] := by
  rw [List.eraseDups_append, List.cons_removeAll]
  by_cases h : x ∈ xs <;> simp [h, List.eraseDups_cons]

theorem nodup_eraseDups {α : Type} [DecidableEq α] (xs : List α) : xs.eraseDups.Nodup := by
  induction xs using List.reverseRecOn with
  | nil => simp
  | append_singleton xs x ih =>
    rw [eraseDups_concat]
    split
    · exact ih
    next new =>
      rw [List.nodup_append]
      refine ⟨ih, by simp, fun y hy z hz same => new ?_⟩
      rw [List.mem_singleton] at hz
      exact hz ▸ same ▸ List.mem_eraseDups.1 hy

theorem find?_eq_ite {α : Type} [DecidableEq α] (xs : List α) (x : α) :
    (xs.find? fun y => decide (y = x)) = if x ∈ xs then some x else none := by
  split
  next known =>
    cases h : xs.find? fun y => decide (y = x) with
    | none => simpa using List.find?_eq_none.1 h x known
    | some y => simpa using List.find?_some h
  next new =>
    rw [List.find?_eq_none]
    intro y member e
    exact new ((of_decide_eq_true e) ▸ member)

theorem nodup_ids (arrivals : List Arrival) : (ids arrivals).Nodup := nodup_eraseDups _

@[simp] theorem ids_nil : ids [] = [] := rfl

theorem mem_ids {arrivals : List Arrival} {messageId : String} :
    messageId ∈ ids arrivals ↔ ∃ arrival ∈ arrivals, arrival.messageId = messageId := by
  simp [ids]

theorem ids_concat (arrivals : List Arrival) (arrival : Arrival) :
    ids (arrivals ++ [arrival]) =
      if arrival.messageId ∈ ids arrivals then ids arrivals
      else ids arrivals ++ [arrival.messageId] := by
  rw [ids, List.map_append, List.map_cons, List.map_nil, eraseDups_concat]
  simp only [ids, List.mem_eraseDups]

/-- Later arrivals do not change the kind of an id that has occurred. -/
theorem isSecondary_append (earlier later : List Arrival) (messageId : String) :
    isSecondary (earlier ++ later) messageId =
      if messageId ∈ ids earlier then isSecondary earlier messageId
      else isSecondary later messageId := by
  simp only [isSecondary, List.find?_append]
  by_cases h : messageId ∈ ids earlier
  · obtain ⟨found, member, same⟩ := mem_ids.1 h
    have some : (earlier.find? fun arrival => arrival.messageId = messageId).isSome := by
      rw [List.find?_isSome]
      exact ⟨found, member, by simpa using same⟩
    obtain ⟨first, hfirst⟩ := Option.isSome_iff_exists.1 some
    simp [h, hfirst]
  · have none : earlier.find? (fun arrival => arrival.messageId = messageId) = none := by
      rw [List.find?_eq_none]
      intro other member same
      exact h (mem_ids.2 ⟨other, member, by simpa using same⟩)
    simp [h, none]

theorem isSecondary_concat (arrivals : List Arrival) (arrival : Arrival) (messageId : String) :
    isSecondary (arrivals ++ [arrival]) messageId =
      if messageId ∈ ids arrivals then isSecondary arrivals messageId
      else decide (arrival.messageId = messageId) && arrival.secondary := by
  rw [isSecondary_append]
  by_cases same : arrival.messageId = messageId <;> simp [isSecondary, same]

/-! ### Cells -/

theorem within_concat (start stop : Int) (arrivals : List Arrival) (arrival : Arrival) :
    within start stop (arrivals ++ [arrival]) =
      within start stop arrivals ++
        if start ≤ arrival.moment ∧ arrival.moment < stop then [arrival] else [] := by
  simp only [within, List.filter_append, List.filter_cons, List.filter_nil, decide_eq_true_eq]

theorem mem_within {start stop : Int} {arrivals : List Arrival} {arrival : Arrival} :
    arrival ∈ within start stop arrivals ↔
      arrival ∈ arrivals ∧ start ≤ arrival.moment ∧ arrival.moment < stop := by
  simp [within]

/-- A period may be cut out of a longer one first. -/
theorem within_within {first start stop last : Int} (low : first ≤ start) (high : stop ≤ last)
    (arrivals : List Arrival) :
    within start stop (within first last arrivals) = within start stop arrivals := by
  rw [within, within, List.filter_filter, within]
  refine List.filter_congr fun arrival _ => ?_
  rw [← Bool.decide_and, decide_eq_decide]
  omega

theorem cell_nonneg (arrivals : List Arrival) (messageId : String) (start : Int) :
    0 ≤ cell arrivals messageId start := by
  simp only [cell, maxCount]
  omega

theorem cell_pos_iff {arrivals : List Arrival} {messageId : String} {start : Int} :
    0 < cell arrivals messageId start ↔
      messageId ∈ ids (within start (start + bucketMillis) arrivals) := by
  have counted := List.countP_pos_iff (l := within start (start + bucketMillis) arrivals)
    (p := fun arrival => decide (arrival.messageId = messageId))
  simp only [decide_eq_true_eq] at counted
  rw [mem_ids, ← counted, cell, maxCount]
  omega

theorem increment_min (n : Nat) :
    Counter.increment (min maxCount n) = min maxCount ((n + 1 : Nat) : Int) := by
  unfold Counter.increment maxCount
  split <;> omega

theorem cell_concat (arrivals : List Arrival) (arrival : Arrival) (messageId : String)
    (start : Int) :
    cell (arrivals ++ [arrival]) messageId start =
      if arrival.messageId = messageId ∧ start ≤ arrival.moment ∧
          arrival.moment < start + bucketMillis then
        Counter.increment (cell arrivals messageId start)
      else cell arrivals messageId start := by
  rw [cell, within_concat, List.countP_append, cell, increment_min]
  by_cases same : arrival.messageId = messageId
  · by_cases inside : start ≤ arrival.moment ∧ arrival.moment < start + bucketMillis
    · simp [same, inside]
    · simp [same, inside]
  · by_cases inside : start ≤ arrival.moment ∧ arrival.moment < start + bucketMillis
    · simp [same, inside]
    · simp [inside]

/-! ### Recording -/

variable {slots start : Int} {arrivals : List Arrival} {arrival : Arrival}

theorem floorDiv_bucketMillis (past : Int) :
    floorDiv past bucketMillis = .ok (past / bucketMillis) := by
  rw [floorDiv, if_neg (by decide), Int.fdiv_eq_ediv_of_nonneg _ (by decide)]

theorem counter_concat_of_ne {messageId : String} (known : messageId ∈ ids arrivals)
    (differ : arrival.messageId ≠ messageId) :
    counter slots start (arrivals ++ [arrival]) messageId =
      counter slots start arrivals messageId := by
  simp only [counter, isSecondary_concat, known, if_true, cell_concat, differ, false_and, if_false]

theorem counts_concat (low : start ≤ arrival.moment) :
    (counter slots start arrivals arrival.messageId).counts.modify
        ((arrival.moment - start) / bucketMillis).toNat Counter.increment =
      (counter slots start (arrivals ++ [arrival]) arrival.messageId).counts := by
  refine List.ext_getElem (by simp [counter]) fun i _ _ => ?_
  simp only [counter, List.getElem_modify, List.getElem_map, List.getElem_range, cell_concat,
    true_and]
  have bucket : ((arrival.moment - start) / bucketMillis).toNat = i ↔
      start + i * bucketMillis ≤ arrival.moment ∧
        arrival.moment < start + i * bucketMillis + bucketMillis := by
    unfold bucketMillis
    omega
  simp only [bucket]

theorem counts_of_not_mem {messageId : String} (new : messageId ∉ ids arrivals) :
    (counter slots start arrivals messageId).counts = List.replicate slots.toNat 0 := by
  refine List.ext_getElem (by simp [counter]) fun i _ _ => ?_
  simp only [counter, List.getElem_map, List.getElem_range, List.getElem_replicate]
  refine Int.le_antisymm (Int.not_lt.1 fun positive => new ?_) (cell_nonneg ..)
  obtain ⟨other, member, same⟩ := mem_ids.1 (cell_pos_iff.1 positive)
  exact mem_ids.2 ⟨other, (mem_within.1 member).1, same⟩

section Record

variable {window : Window} {span : Span} (counters : window.counters = tally slots start arrivals)

include counters

theorem counter?_of_tally (messageId : String) :
    window.counter? messageId =
      if messageId ∈ ids arrivals then some (counter slots start arrivals messageId) else none := by
  rw [Window.counter?, counters, tally, List.find?_map]
  have same : (fun c : Counter => decide (c.messageId = messageId)) ∘ counter slots start arrivals =
      fun id => decide (id = messageId) := rfl
  rw [same, find?_eq_ite]
  split <;> rfl

theorem putCounter_tally :
    window.putCounter (counter slots start (arrivals ++ [arrival]) arrival.messageId) =
      { window with counters := tally slots start (arrivals ++ [arrival]) } := by
  unfold Window.putCounter
  rw [counter?_of_tally counters, tally, ids_concat]
  by_cases known : arrival.messageId ∈ ids arrivals
  -- the counter is replaced where it stands, and the others are those of the shorter list
  · simp only [counter, known, if_true, Option.isSome_some]
    rw [counters, tally, List.map_map]
    congr 1
    refine List.map_congr_left fun messageId member => ?_
    by_cases same : messageId = arrival.messageId
    · simp [counter, same]
    · have kept : counter slots start (arrivals ++ [arrival]) messageId =
          counter slots start arrivals messageId :=
        counter_concat_of_ne member fun e => same e.symm
      simpa [counter, same] using kept.symm
  · simp only [counter, known, if_false, Option.isSome_none, Bool.false_eq_true]
    rw [counters, tally, List.map_append]
    congr 2
    refine List.map_congr_left fun messageId member => ?_
    exact (counter_concat_of_ne member fun e => known (e ▸ member)).symm

/-- The room that a new id needs is decided by how many ids have occurred. -/
theorem counterFor_of_tally (messageId : String) (secondary : Bool) :
    window.counterFor messageId secondary =
      if messageId ∈ ids arrivals then some (counter slots start arrivals messageId)
      else if (ids arrivals).length < window.maxMessages then
        some (Counter.create messageId window.slots secondary)
      else none := by
  rw [Window.counterFor, counter?_of_tally counters, counters, tally, List.length_map]
  by_cases known : messageId ∈ ids arrivals
  · simp [known]
  · by_cases room : ((ids arrivals).length : Int) < window.maxMessages
    · simp [known, room, Int.not_le.2 room]
    · simp [known, room, Int.not_lt.1 room]

/-- Whether it was there or is new, the counter that takes an arrival becomes that of the longer
list. -/
theorem add_counterFor {c : Counter} (same : window.slots = slots)
    (found : window.counterFor arrival.messageId arrival.secondary = some c)
    (low : start ≤ arrival.moment) (high : arrival.moment < start + slots * bucketMillis) :
    c.add ((arrival.moment - start) / bucketMillis) =
      .ok (counter slots start (arrivals ++ [arrival]) arrival.messageId) := by
  have inside : 0 ≤ (arrival.moment - start) / bucketMillis ∧
      (arrival.moment - start) / bucketMillis < slots := by
    unfold bucketMillis at *
    omega
  rw [counterFor_of_tally counters] at found
  split at found
  next known =>
    obtain rfl := Option.some.inj found
    rw [Counter.add_of_lt inside.1 (by simp [counter]; omega), counts_concat low]
    simp [counter, isSecondary_concat, known]
  next new =>
    split at found
    · obtain rfl := Option.some.inj found
      rw [Counter.add_of_lt inside.1 (by simp [Counter.create]; omega)]
      have counts : (counter slots start arrivals arrival.messageId).counts.modify _ _ = _ :=
        counts_concat low
      rw [counts_of_not_mem new] at counts
      simp only [Counter.create, same, counts]
      simp [counter, isSecondary_concat, new]
    · contradiction

/-- Recording an arrival in the window adds it to the tally, unless its id is new and there is no
room for it. -/
theorem record_tally {span : Span} (placed : window.span = some span) (same : window.slots = slots)
    (begins : span.start = start) (buckets : window.bucket = bucketMillis)
    (low : start ≤ arrival.moment) (high : arrival.moment < start + slots * bucketMillis) :
    window.record arrival.messageId arrival.moment arrival.secondary =
      let index := max window.currentIndex ((arrival.moment - start) / bucketMillis)
      if arrival.messageId ∈ ids arrivals ∨ (ids arrivals).length < window.maxMessages then
        ({ window with
            currentIndex := index
            counters := tally slots start (arrivals ++ [arrival]) }, .ok true)
      else ({ window with currentIndex := index }, .ok false) := by
  have index : floorDiv (arrival.moment - start) window.bucket =
      .ok ((arrival.moment - start) / bucketMillis) := by
    rw [buckets, floorDiv_bucketMillis]
  -- the index moves first, so the counters are looked up and put back in the moved window
  generalize hmoved : { window with
    currentIndex := max window.currentIndex ((arrival.moment - start) / bucketMillis) } = moved
  have kept : moved.counters = tally slots start arrivals := by rw [← hmoved]; exact counters
  have roomy : moved.maxMessages = window.maxMessages := by rw [← hmoved]
  have wide : moved.slots = slots := by rw [← hmoved]; exact same
  have notBefore : ¬arrival.moment < start := Int.not_lt.2 low
  have reached := hmoved
  simp only [placed] at reached
  cases found : moved.counterFor arrival.messageId arrival.secondary with
  | none =>
    have refused : window.record arrival.messageId arrival.moment arrival.secondary =
        (moved, .ok false) := by
      simp only [Window.record, placed, begins, index, if_neg notBefore, reached, found]
    rw [counterFor_of_tally kept, roomy] at found
    rw [refused, if_neg (by grind), hmoved]
  | some c =>
    have added := add_counterFor kept wide found low high
    have recorded : window.record arrival.messageId arrival.moment arrival.secondary =
        (moved.putCounter (counter slots start (arrivals ++ [arrival]) arrival.messageId),
          .ok true) := by
      simp only [Window.record, placed, begins, index, if_neg notBefore, reached, found, added]
    rw [counterFor_of_tally kept, roomy] at found
    rw [recorded, putCounter_tally kept, if_pos (by grind), ← hmoved]

end Record

/-- An arrival before the window only takes part in the comparison of indices. -/
theorem record_of_lt {window : Window} {span : Span} (placed : window.span = some span)
    (buckets : window.bucket = bucketMillis) (before : arrival.moment < span.start) :
    window.record arrival.messageId arrival.moment arrival.secondary =
      ({ window with
          currentIndex :=
            max window.currentIndex ((arrival.moment - span.start) / bucketMillis) },
        .ok false) := by
  have index : floorDiv (arrival.moment - span.start) window.bucket =
      .ok ((arrival.moment - span.start) / bucketMillis) := by
    rw [buckets, floorDiv_bucketMillis]
  simp only [Window.record, placed, index, if_pos before]

end Arrivals

end ArrivalRates
