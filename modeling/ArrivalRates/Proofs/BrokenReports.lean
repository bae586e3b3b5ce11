import ArrivalRates.Proofs.Requests

/-!
# Reports that break off

A report shows means as floats, and the mean of enough ids is larger than any float. A tracker with
room for so many ids that has counted a crowd of them in its first window cannot report once that
window is closed. A report of the schedule breaks off as well, so that it does not reset the
statistics.
-/

namespace ArrivalRates

/-- Room for so many ids, and one sub-interval in each window. -/
def crowded (room : Nat) : Config := { Config.standard with maxMessages := room, sizes := [12] }

theorem accepted_crowded (room : Nat) : (crowded room).Accepted where
  slots := show (1 : Int) ≤ 12 by decide
  layout := rfl

/-- The first id has no letter, the next one a letter more. -/
def lettered (n : Nat) : Arrival := ⟨String.ofList (List.replicate n 'a'), 0, false⟩

def crowd (n : Nat) : List Arrival := (List.range n).map lettered

theorem crowd_succ (n : Nat) : crowd (n + 1) = crowd n ++ [lettered n] := by
  rw [crowd, List.range_succ, List.map_append]
  rfl

open Arrivals

theorem lettered_not_mem (n : Nat) : (lettered n).messageId ∉ ids (crowd n) := by
  intro member
  obtain ⟨arrival, there, same⟩ := mem_ids.1 member
  obtain ⟨i, inside, rfl⟩ := List.mem_map.1 there
  have letters := congrArg List.length (String.ofList_injective same)
  simp only [List.length_replicate] at letters
  exact absurd (List.mem_range.1 inside) (by omega)

theorem length_ids_crowd (n : Nat) : (ids (crowd n)).length = n := by
  induction n with
  | zero => rfl
  | succ n ih =>
    rw [crowd_succ, ids_concat, if_neg (lettered_not_mem n), List.length_append, ih]
    rfl

theorem within_crowd (n : Nat) : within 0 7200000 (crowd n) = crowd n :=
  List.filter_eq_self.2 fun arrival member => by
    obtain ⟨_, -, rfl⟩ := List.mem_map.1 member
    rfl

theorem uniqueIn_crowd (n : Nat) : uniqueIn false 0 7200000 (crowd n) = n := by
  have primary : ∀ id ∈ ids (crowd n), decide (isSecondary (crowd n) id = false) = true := by
    intro id _
    rw [decide_eq_true_eq, isSecondary]
    cases found : (crowd n).find? fun arrival => arrival.messageId = id with
    | none => rfl
    | some arrival =>
      obtain ⟨_, -, rfl⟩ := List.mem_map.1 (List.mem_of_find?_eq_some found)
      rfl
  rw [uniqueIn, within_crowd, List.countP_eq_length.2 primary, length_ids_crowd]

theorem primaryMean_crowd (n : Nat) :
    (Statistics.batch 12 [0] (crowd n) 12).primaryMean = quotient n 1 := by
  have sum : (Statistics.batch 12 [0] (crowd n) 12).primaryUniqueSum = n := by
    show uniqueIn false 0 7200000 (within 0 7200000 (crowd n)) + 0 = n
    rw [within_crowd, uniqueIn_crowd, Int.add_zero]
  rw [Statistics.primaryMean, sum]
  rfl

namespace Tracker

/-- A tracker that has counted a crowd in its first window. -/
structure Gathered (room n : Nat) (tracker : Tracker) : Prop where
  tallies : tracker.Tallies "gate" (crowded room) (crowd n) []
  placed : tracker.window.span = some ⟨0, 7200000⟩

variable {room n : Nat} {tracker : Tracker}

theorem Gathered.counted (gathered : Gathered room n tracker) (free : n < room) :
    Gathered room (n + 1) (tracker.counted (lettered n)).state := by
  have left : (ids (within 0 7200000 (crowd n))).length < (crowded room).maxMessages := by
    rw [within_crowd, length_ids_crowd]
    exact Int.ofNat_lt.2 free
  have low : (0 : Int) ≤ (lettered n).moment := le_rfl
  have high : (lettered n).moment < 7200000 := show (0 : Int) < 7200000 by decide
  rw [gathered.tallies.counted_eq (lettered n) gathered.placed high, if_pos ⟨low, .inr left⟩]
  refine ⟨?_, gathered.placed⟩
  rw [crowd_succ]
  exact gathered.tallies.withCounters (accepted_crowded room) gathered.placed low high _
    (.inr left)

theorem gathered_first (roomy : 0 < room) :
    Gathered room 1 ((fresh "gate" (crowded room)).deliver (lettered 0)).state := by
  have day : TimeZone.utc.dayAt 0 = .ok ⟨0⟩ := by decide +kernel
  have noted := (tallies_fresh "gate" (crowded room)).noted 0
  have advance := advance_spec (noted.wellPlaced (accepted_crowded room)) 0
  rw [deliver_eq]
  show Gathered room 1
    ((((fresh "gate" (crowded room)).noted 0).advance 0).andThen _).state
  generalize ((fresh "gate" (crowded room)).noted 0).advance 0 = brought at advance
  cases advance with
  | unstarted inactive unstarted => cases unstarted.symm.trans day
  | @opened day inactive _ =>
    rw [Outcome.done_andThen]
    have placed := noted.placedAt (accepted_crowded room) inactive 0
    have started := placed.withSchedule
      (((fresh "gate" (crowded room)).noted 0).schedule.startOn day) rfl rfl 0
    exact Gathered.counted ⟨started, rfl⟩ roomy
  | stayed placed _ | moved placed _ _ => cases placed

theorem Gathered.next (gathered : Gathered room n tracker) (free : n < room) :
    Gathered room (n + 1) (tracker.deliver (lettered n)).state := by
  have noted : Gathered room n (tracker.noted 0) := ⟨gathered.tallies.noted 0, gathered.placed⟩
  have stays : (tracker.noted 0).advance 0 = .done (tracker.noted 0) () := by
    rw [advance, noted.placed]
    rfl
  have delivered : tracker.deliver (lettered n) = (tracker.noted 0).counted (lettered n) := by
    rw [deliver_eq]
    show ((tracker.noted 0).advance 0).andThen _ = _
    rw [stays, Outcome.done_andThen]
  rw [delivered]
  exact noted.counted free

theorem reportLines_crowd (large : quotient n 1 = .error .quotientTooLarge) (stamp : String) :
    reportLines "gate" stamp [Statistics.batch 12 [0] (crowd n) 12] =
      ([], .error .quotientTooLarge) := by
  have broken : (Statistics.batch 12 [0] (crowd n) 12).render = .error .quotientTooLarge := by
    rw [Statistics.render, primaryMean_crowd, large]
    rfl
  rw [reportLines, broken]

/-- A tracker whose first window was closed with a crowd in it. -/
structure Closed (n : Nat) (tracker : Tracker) : Prop where
  source_eq : tracker.source = "gate"
  zone_eq : tracker.config.zone = .utc
  lastEvent_eq : tracker.window.lastEvent = some 7200000
  statistics_eq : tracker.statistics = [Statistics.batch 12 [0] (crowd n) 12]

/-- The mean of the crowd cannot be shown, so there is no report that would reset it. -/
theorem Closed.due (closed : Closed n tracker) (large : quotient n 1 = .error .quotientTooLarge)
    {moment : Int} {outcome : Outcome Tracker Unit} (due : Due tracker moment outcome) :
    outcome.state = tracker := by
  cases due with
  | undecided | quiet | unstamped | unwritten => rfl
  | reported _ _ _ written =>
    rw [closed.source_eq, closed.statistics_eq, reportLines_crowd large] at written
    cases written

theorem Closed.report (closed : Closed n tracker)
    (large : quotient n 1 = .error .quotientTooLarge) :
    tracker.Dated ∧ (tracker.report none).result = .error .quotientTooLarge := by
  have dated : tracker.Dated := by
    intro moment last
    rw [closed.lastEvent_eq, Option.mem_some_iff] at last
    rw [closed.zone_eq, ← last]
    decide +kernel
  obtain ⟨stamp, stamped⟩ := dated_iff.1 dated
  refine ⟨dated, ?_⟩
  rw [report_of_stamp stamped]
  show (reportLines tracker.source stamp tracker.statistics).2 = _
  rw [closed.source_eq, closed.statistics_eq, reportLines_crowd large]

theorem Gathered.closed (gathered : Gathered room n tracker)
    (large : quotient n 1 = .error .quotientTooLarge) :
    Closed n (tracker.deliver ⟨"", 7200000, false⟩).state := by
  have noted := gathered.tallies.noted 7200000
  have placed : (tracker.noted 7200000).window.span = some ⟨0, 7200000⟩ := gathered.placed
  have wellPlaced := noted.wellPlaced (accepted_crowded room)
  have past : (⟨0, 7200000⟩ : Span).stop ≤ 7200000 := le_rfl
  have rolled := noted.rolledTo (accepted_crowded room) placed past
  have closed : Closed n ((tracker.noted 7200000).rolledTo 7200000) :=
    ⟨rolled.source_eq, congrArg Config.zone rolled.config_eq, rfl, rolled.statistics_eq⟩
  have high := Span.lt_around_stop wellPlaced.positive 7200000
  have kept := closed.due large (due_reportIfDue _ 7200000)
  rw [deliver_eq]
  show Closed n (((tracker.noted 7200000).advance 7200000).andThen _).state
  rw [advance_of_le wellPlaced placed past]
  cases result : (((tracker.noted 7200000).rolledTo 7200000).reportIfDue 7200000).result with
  | error failure =>
    rw [Outcome.andThen_of_error result]
    exact kept.symm ▸ closed
  | ok =>
    obtain ⟨index, counters, _, counting, -, -⟩ :=
      rolled.counted (accepted_crowded room) ⟨"", 7200000, false⟩ rfl high
    rw [Outcome.andThen_of_ok result, kept, counting]
    exact ⟨closed.source_eq, closed.zone_eq, closed.lastEvent_eq, closed.statistics_eq⟩

theorem exists_gathered (room n : Nat) (free : n < room) :
    ∃ calls, Gathered room (n + 1) (Ledger.ofCalls "gate" (crowded room) calls).tracker := by
  induction n with
  | zero => exact ⟨[.arrive (lettered 0)], gathered_first free⟩
  | succ n ih =>
    obtain ⟨calls, gathered⟩ := ih (by omega)
    refine ⟨calls ++ [.arrive (lettered (n + 1))], ?_⟩
    rw [Ledger.ofCalls_concat, Ledger.tracker_perform]
    exact gathered.next free

end Tracker

namespace Registry

/-- Whatever calls can make of a tracker comes about in a registry. -/
theorem reachable_ofCalls {config : Config} (accepted : config.Accepted)
    (apart : config.mergeSources = false) (source : String) (calls : List Call) :
    ∃ registry : Registry, registry.Reachable config ∧
      registry.effectiveKey source = source ∧
      registry.trackers = [(Ledger.ofCalls source config calls).tracker] := by
  induction calls using List.reverseRecOn with
  | nil =>
    have key : (create config).effectiveKey source = source := by
      rw [effectiveKey, create, apart]
      rfl
    have made : ((create config).getOrCreate source).state =
        (create config).extended source := by
      have absent : (create config).get? source = none := rfl
      have layout : checkLayout (create config).config.slots (create config).config.sizes =
        .ok () := accepted.layout
      simp only [getOrCreate, absent, key, Tracker.create, layout]
      rfl
    have reachable : (((create config).getOrCreate source).state).Reachable config :=
      Reachable.create.getOrCreate source
    rw [made] at reachable
    exact ⟨_, reachable, key, rfl⟩
  | append_singleton calls call ih =>
    obtain ⟨registry, reachable, key, alone⟩ := ih
    have known : (Ledger.ofCalls source config calls).tracker ∈ registry.trackers := by
      rw [alone]
      exact List.mem_singleton_self _
    have kept : ∀ calls, (Ledger.ofCalls source config calls).tracker.source = source :=
      fun calls => (Ledger.sound_ofCalls accepted calls).source_eq
    have same := (kept calls).trans (kept (calls ++ [call])).symm
    rw [Ledger.ofCalls_concat, Ledger.tracker_perform] at same ⊢
    refine ⟨_, reachable.call known call, key, ?_⟩
    rw [put, alone, List.map_singleton, if_pos same]

/-- With room for as many ids as no float can hold, a report can break off although its stamp can be
shown. -/
theorem report_breaks_off {n : Nat} (large : quotient n 1 = .error .quotientTooLarge) :
    ∃ (registry : Registry) (tracker : Tracker), registry.Reachable (crowded n) ∧
      registry.get? "gate" = some tracker ∧ tracker.Dated ∧
      (registry.requestReport "gate").result = .error .quotientTooLarge := by
  cases n with
  | zero =>
    have zero : (quotient (0 : Nat) 1).isOk = true := by decide +kernel
    rw [large] at zero
    cases zero
  | succ n =>
    obtain ⟨calls, gathered⟩ := Tracker.exists_gathered (n + 1) n n.lt_succ_self
    have closed := gathered.closed large
    obtain ⟨dated, fails⟩ := closed.report large
    obtain ⟨registry, reachable, key, alone⟩ := reachable_ofCalls (accepted_crowded (n + 1)) rfl
      "gate" (calls ++ [.arrive ⟨"", 7200000, false⟩])
    rw [Ledger.ofCalls_concat, Ledger.tracker_perform, Tracker.perform] at alone
    generalize ((Ledger.ofCalls "gate" (crowded (n + 1)) calls).tracker.deliver
      ⟨"", 7200000, false⟩).state = tracker at closed dated fails alone
    have found : registry.get? "gate" = some tracker := by
      rw [get?, key, findKey?, alone]
      exact List.find?_cons_of_pos (decide_eq_true closed.source_eq)
    exact ⟨registry, tracker, reachable, found, dated,
      (requestReport_of_error (by decide) found fails).2⟩

/-- There are such numbers of ids. -/
example : quotient ((2 ^ 1030 : Nat) : Int) 1 = .error .quotientTooLarge := by decide +kernel

end Registry

end ArrivalRates
