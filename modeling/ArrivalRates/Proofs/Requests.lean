import ArrivalRates.Proofs.FinalReport
import ArrivalRates.Proofs.SideBySide

/-!
# Requests for a report

A request that names a source reaches the tracker of its key: that one writes a line for each size,
and no tracker changes, but for the number of reports of that one. The reserved name is for all
trackers, and it stays so when a source goes by it. `Registry.Reachable` takes in every way in which
a registry can come about, calls of single trackers and changes of the groups among them; what is
needed of such a registry is that its keys differ and that each tracker has grown by calls.
-/

namespace ArrivalRates

/-- One line for each size, in their order, all under one key and stamp. -/
def LineForEach (key stamp : String) (sizes : List Int) (lines : List String) : Prop :=
  ∃ statistics : List Statistics, statistics.map (·.size) = sizes ∧
    IsReport key stamp statistics lines

/-! ### The report of one tracker -/

namespace Tracker

variable {source : String} {config : Config} {recorded : List Arrival} {closed : List Int}
  {tracker : Tracker}

def reportCounted (tracker : Tracker) : Tracker :=
  { tracker with reportsEmitted := tracker.reportsEmitted + 1 }

theorem Tallies.lineForEach (tallies : Tallies source config recorded closed tracker)
    (whole : tracker.WritesWhole) :
    ∃ stamp, tracker.lastEventStamp = .ok stamp ∧ tracker.LastSeen stamp ∧
      LineForEach source stamp config.sizes (tracker.report none).lines := by
  obtain ⟨-, stamp, stamped, seen, report⟩ := whole
  rw [tallies.source_eq] at report
  refine ⟨stamp, stamped, seen, _, ?_, report⟩
  rw [tallies.statistics_eq, List.map_map]
  exact List.map_id _

theorem state_writeReport_eq (tracker : Tracker) (stamp : String) :
    (tracker.writeReport stamp).state =
      if (tracker.writeReport stamp).result.isOk then tracker.reportCounted else tracker := by
  unfold writeReport
  dsimp only
  split <;> rfl

theorem state_report_eq (tracker : Tracker) :
    (tracker.report none).state =
      if (tracker.report none).result.isOk then tracker.reportCounted else tracker := by
  unfold report
  dsimp only
  split
  · rfl
  · exact state_writeReport_eq ..

/-- Some calls have made the tracker of a new one. -/
def Grown (config : Config) (tracker : Tracker) : Prop :=
  ∃ calls, (Ledger.ofCalls tracker.source config calls).tracker = tracker

theorem grown_fresh (source : String) (config : Config) : (fresh source config).Grown config :=
  ⟨[], rfl⟩

theorem Grown.tallies (grown : tracker.Grown config) (accepted : config.Accepted) :
    ∃ recorded closed, tracker.Tallies tracker.source config recorded closed := by
  obtain ⟨calls, same⟩ := grown
  have sound : (Ledger.ofCalls tracker.source config calls).Sound tracker.source config :=
    Ledger.sound_ofCalls accepted calls
  rw [Chronicle.Sound, same] at sound
  exact ⟨_, _, sound⟩

theorem Grown.perform (grown : tracker.Grown config) (accepted : config.Accepted) (call : Call) :
    (tracker.perform call).state.source = tracker.source ∧
      (tracker.perform call).state.Grown config := by
  obtain ⟨calls, same⟩ := grown
  have after : (Ledger.ofCalls tracker.source config (calls ++ [call])).tracker =
      (tracker.perform call).state := by
    rw [Ledger.ofCalls_concat, Ledger.tracker_perform, same]
  have kept : (tracker.perform call).state.source = tracker.source := by
    rw [← after]
    exact (Ledger.sound_ofCalls accepted (calls ++ [call])).source_eq
  exact ⟨kept, calls ++ [call], by rw [kept, after]⟩

end Tracker

/-! ### Registries that can come about -/

namespace Registry

variable {config : Config} {registry : Registry} {tracker : Tracker}

/-- The registries that calls make of a new one, those of its trackers included. -/
inductive Reachable (config : Config) : Registry → Prop where
  | create : Reachable config (create config)
  | serve {registry : Registry} (before : Reachable config registry) (demand : Demand) :
      Reachable config (registry.serve demand).state
  | getOrCreate {registry : Registry} (before : Reachable config registry) (source : String) :
      Reachable config (registry.getOrCreate source).state
  /-- A tracker of the registry is called directly. -/
  | call {registry : Registry} {tracker : Tracker} (before : Reachable config registry)
      (member : tracker ∈ registry.trackers) (call : Call) :
      Reachable config (registry.put (tracker.perform call).state)
  | assign {registry : Registry} (before : Reachable config registry) (source group : String) :
      Reachable config { registry with groups := registry.groups.assign source group }

theorem reachable_ofDemands (config : Config) (demands : List Demand) :
    (ofDemands config demands).Reachable config := by
  induction demands using List.reverseRecOn with
  | nil => exact .create
  | append_singleton demands demand ih =>
    rw [ofDemands_concat]
    exact ih.serve demand

/-- A registry with one tracker for each key, all of them grown by calls. -/
structure Populated (config : Config) (registry : Registry) : Prop where
  config_eq : registry.config = config
  nodup : registry.keys.Nodup
  grown : ∀ tracker ∈ registry.trackers, tracker.Grown config

theorem populated_create (config : Config) : (create config).Populated config where
  config_eq := rfl
  nodup := .nil
  grown := fun _ member => by cases member

theorem findKey?_eq_some {key : String} (found : registry.findKey? key = some tracker) :
    tracker ∈ registry.trackers ∧ tracker.source = key := by
  refine ⟨List.mem_of_find?_eq_some found, ?_⟩
  have keyed := List.find?_some found
  exact of_decide_eq_true keyed

theorem mem_put {other : Tracker} (member : other ∈ (registry.put tracker).trackers) :
    other = tracker ∨ other ∈ registry.trackers ∧ other.source ≠ tracker.source := by
  obtain ⟨old, there, same⟩ := List.mem_map.1 member
  split at same
  next _ => exact .inl same.symm
  next differ => exact .inr (same ▸ ⟨there, differ⟩)

namespace Populated

theorem put (populated : registry.Populated config) (accepted : config.Accepted)
    (member : tracker ∈ registry.trackers) (call : Call) :
    (registry.put (tracker.perform call).state).Populated config where
  config_eq := populated.config_eq
  nodup := keys_put registry _ ▸ populated.nodup
  grown := by
    intro other there
    rcases mem_put there with rfl | ⟨there, -⟩
    · exact ((populated.grown tracker member).perform accepted call).2
    · exact populated.grown other there

theorem eq_of_source (populated : registry.Populated config) {other : Tracker}
    (member : tracker ∈ registry.trackers) (there : other ∈ registry.trackers)
    (same : tracker.source = other.source) : tracker = other :=
  List.inj_on_of_nodup_map populated.nodup member there same

theorem getOrCreate (populated : registry.Populated config) (accepted : config.Accepted)
    (source : String) :
    (registry.getOrCreate source).state.Populated config ∧
      ∃ tracker ∈ (registry.getOrCreate source).state.trackers,
        (registry.getOrCreate source).result = .ok tracker := by
  unfold Registry.getOrCreate
  split
  next tracker found =>
    exact ⟨populated, tracker, (findKey?_eq_some found).1, rfl⟩
  next absent =>
    have layout : checkLayout registry.config.slots registry.config.sizes = .ok () :=
      populated.config_eq ▸ accepted.layout
    have new : registry.effectiveKey source ∉ registry.keys := by
      intro known
      obtain ⟨tracker, member, same⟩ := List.mem_map.1 known
      exact List.find?_eq_none.1 absent tracker member (decide_eq_true same)
    simp only [Tracker.create, layout]
    refine ⟨⟨populated.config_eq, ?_, ?_⟩, _, List.mem_append_right _ (List.mem_singleton_self _),
      rfl⟩
    · have keys := keys_extended registry (registry.effectiveKey source)
      rw [← List.concat_eq_append] at keys
      exact keys ▸ populated.nodup.concat new
    · intro other member
      rcases List.mem_append.1 member with old | last
      · exact populated.grown other old
      · obtain rfl := List.mem_singleton.1 last
        exact populated.config_eq ▸ Tracker.grown_fresh _ _

theorem onTracker (populated : registry.Populated config) (accepted : config.Accepted)
    (source : String) {operation : Tracker → Outcome Tracker α} (call : Call)
    (performs : ∀ tracker, (operation tracker).state = (tracker.perform call).state) :
    (registry.onTracker source operation).state.Populated config := by
  obtain ⟨after, tracker, member, made⟩ := populated.getOrCreate accepted source
  rw [Registry.onTracker, Outcome.andThen_of_ok made]
  show ((registry.getOrCreate source).state.put (operation tracker).state).Populated config
  rw [performs]
  exact after.put accepted member call

theorem addMessage (populated : registry.Populated config) (accepted : config.Accepted)
    (source : String) (arrival : Arrival) :
    (registry.addMessage source arrival.messageId arrival.moment
      arrival.secondary).state.Populated config :=
  populated.onTracker accepted source (.arrive arrival) fun _ => rfl

theorem markLoggerStarting (populated : registry.Populated config) (accepted : config.Accepted)
    (source : String) (next : Int) :
    (registry.markLoggerStarting source next).state.Populated config := by
  refine populated.onTracker accepted source (.startLogger next) fun tracker => ?_
  rw [Tracker.perform_startLogger]

theorem consume (populated : registry.Populated config) (accepted : config.Accepted)
    (event : Event) : (registry.consume event).state.Populated config := by
  cases starting : event.loggerStarting with
  | false =>
    rw [consume_of_running starting]
    exact populated.addMessage accepted event.source event.toArrival
  | true =>
    have marked := populated.markLoggerStarting accepted event.source event.arrival
    rw [consume_of_starting starting]
    cases result : (registry.markLoggerStarting event.source event.arrival).result with
    | error failure =>
      rw [Outcome.andThen_of_error result]
      exact marked
    | ok =>
      rw [Outcome.andThen_of_ok result]
      exact marked.addMessage accepted event.source event.toArrival

theorem put_report (populated : registry.Populated config) (accepted : config.Accepted)
    (member : tracker ∈ registry.trackers) :
    (registry.put (tracker.report none).state).Populated config := by
  have after := populated.put accepted member (.report none)
  rwa [Tracker.perform_report] at after

/-- A report leaves the trackers alone whose turn is still to come. -/
theorem subset_put_report (populated : registry.Populated config) (accepted : config.Accepted)
    {asked : List Tracker} (nodup : ((tracker :: asked).map (·.source)).Nodup)
    (known : tracker :: asked ⊆ registry.trackers) :
    asked ⊆ (registry.put (tracker.report none).state).trackers := by
  intro other later
  have here := known List.mem_cons_self
  have kept : (tracker.report none).state.source = tracker.source := by
    have same := ((populated.grown tracker here).perform accepted (.report none)).1
    rwa [Tracker.perform_report] at same
  refine List.mem_map.2 ⟨other, known (List.mem_cons_of_mem _ later), if_neg fun same => ?_⟩
  rw [kept] at same
  exact (List.nodup_cons.1 nodup).1 (List.mem_map.2 ⟨other, later, same⟩)

theorem reportEach (populated : registry.Populated config) (accepted : config.Accepted)
    {asked : List Tracker} (nodup : (asked.map (·.source)).Nodup)
    (known : asked ⊆ registry.trackers) :
    (registry.reportEach asked).state.Populated config := by
  induction asked generalizing registry with
  | nil => exact populated
  | cons tracker rest ih =>
    have after := populated.put_report accepted (known List.mem_cons_self)
    cases result : (tracker.report none).result with
    | error failure =>
      rw [registry.reportEach_cons_of_error result]
      exact after
    | ok =>
      rw [registry.reportEach_cons result]
      exact ih after (List.nodup_cons.1 nodup).2
        (populated.subset_put_report accepted nodup known)

end Populated

def reached (registry : Registry) (source : String) : List Tracker :=
  if source = everySource then registry.trackers else (registry.get? source).toList

theorem reached_spec (populated : registry.Populated config) (source : String) :
    registry.reached source ⊆ registry.trackers ∧
      ((registry.reached source).map (·.source)).Nodup := by
  unfold reached
  split
  · exact ⟨List.Subset.refl _, populated.nodup⟩
  · cases found : registry.get? source with
    | none => exact ⟨List.nil_subset _, .nil⟩
    | some tracker =>
      exact ⟨List.cons_subset.2 ⟨(findKey?_eq_some found).1, List.nil_subset _⟩,
        List.nodup_singleton _⟩

theorem length_reportEach (registry : Registry) (asked : List Tracker) :
    (registry.reportEach asked).state.trackers.length = registry.trackers.length := by
  induction asked generalizing registry with
  | nil => rfl
  | cons tracker rest ih =>
    have put : (registry.put (tracker.report none).state).trackers.length =
        registry.trackers.length := List.length_map _
    cases result : (tracker.report none).result with
    | error failure =>
      rw [registry.reportEach_cons_of_error result]
      exact put
    | ok =>
      rw [registry.reportEach_cons result]
      exact (ih _).trans put

/-- A request comes down to the reports of the trackers that it reaches, and answers with their
number. -/
theorem requestReport_reached (registry : Registry) (source : String) :
    let outcome := registry.requestReport source
    let reports := registry.reportEach (registry.reached source)
    outcome.state = reports.state ∧ outcome.lines = reports.lines ∧
      outcome.result = reports.result.map fun _ => (registry.reached source).length := by
  unfold requestReport reached
  split
  · rw [Outcome.andThen_done, length_reportEach]
    exact ⟨rfl, rfl, rfl⟩
  · cases registry.get? source with
    | none => exact ⟨rfl, rfl, rfl⟩
    | some tracker =>
      have done := Outcome.andThen_done (registry.reportEach [tracker]) fun _ _ => 1
      exact ⟨congrArg Outcome.state done, congrArg Outcome.lines done,
        congrArg Outcome.result done⟩

theorem Populated.serve (populated : registry.Populated config) (accepted : config.Accepted)
    (demand : Demand) : (registry.serve demand).state.Populated config := by
  cases demand with
  | arrive source arrival => exact populated.addMessage accepted source arrival
  | startLogger source next => exact populated.markLoggerStarting accepted source next
  | consume event => exact populated.consume accepted event
  | report source =>
    obtain ⟨known, nodup⟩ := reached_spec populated source
    have after := populated.reportEach accepted nodup known
    rwa [← (registry.requestReport_reached source).1] at after

theorem Reachable.populated (reachable : registry.Reachable config) (accepted : config.Accepted) :
    registry.Populated config := by
  induction reachable with
  | create => exact populated_create config
  | serve before demand ih => exact ih.serve accepted demand
  | getOrCreate before source ih => exact (ih.getOrCreate accepted source).1
  | call before member call ih => exact ih.put accepted member call
  | assign before source group ih => exact ⟨ih.config_eq, ih.nodup, ih.grown⟩

theorem reached_of_found {source : String} (single : source ≠ everySource)
    (found : registry.get? source = some tracker) : registry.reached source = [tracker] := by
  rw [reached, if_neg single, found, Option.toList_some]

theorem requestReport_of_error {source : String} {failure : Failure}
    (single : source ≠ everySource) (found : registry.get? source = some tracker)
    (fails : (tracker.report none).result = .error failure) :
    (registry.requestReport source).state = registry.put (tracker.report none).state ∧
      (registry.requestReport source).result = .error failure := by
  obtain ⟨state, -, result⟩ := registry.requestReport_reached source
  rw [reached_of_found single found, registry.reportEach_cons_of_error fails] at state result
  exact ⟨state, result⟩

/-! ### What a report changes -/

/-- The registry with one more report for each of some keys. -/
def counting (registry : Registry) (keys : List String) : Registry :=
  { registry with
    trackers := registry.trackers.map fun tracker =>
      if tracker.source ∈ keys then tracker.reportCounted else tracker }

theorem counting_nil (registry : Registry) : registry.counting [] = registry := by
  have same : (fun tracker : Tracker =>
      if tracker.source ∈ [] then tracker.reportCounted else tracker) = id := by
    funext tracker
    exact if_neg List.not_mem_nil
  rw [counting, same, List.map_id]

theorem counting_cons (registry : Registry) {key : String} {keys : List String}
    (new : key ∉ keys) :
    (registry.counting [key]).counting keys = registry.counting (key :: keys) := by
  simp only [counting, List.map_map]
  congr 1
  refine List.map_congr_left fun tracker _ => ?_
  by_cases here : tracker.source = key
  · have counted : tracker.reportCounted.source ∉ keys := here ▸ new
    simp [here, counted]
  · simp [here]

theorem Populated.put_counted (populated : registry.Populated config)
    (member : tracker ∈ registry.trackers) :
    registry.put tracker.reportCounted = registry.counting [tracker.source] := by
  rw [Registry.put, counting, Registry.mk.injEq]
  refine ⟨rfl, rfl, List.map_congr_left fun old there => ?_⟩
  by_cases same : old.source = tracker.source
  · rw [populated.eq_of_source there member same, if_pos (List.mem_singleton_self _)]
    exact if_pos rfl
  · rw [if_neg (mt List.mem_singleton.1 same)]
    exact if_neg same

theorem Populated.put_same (populated : registry.Populated config)
    (member : tracker ∈ registry.trackers) : registry.put tracker = registry := by
  have same : ∀ old ∈ registry.trackers,
      (if old.source = tracker.source then tracker else old) = id old := by
    intro old there
    split
    next same => exact populated.eq_of_source member there same.symm
    · rfl
  rw [Registry.put, List.map_congr_left same, List.map_id]

theorem Populated.reportEach_whole (populated : registry.Populated config)
    (accepted : config.Accepted) {asked : List Tracker} (nodup : (asked.map (·.source)).Nodup)
    (known : asked ⊆ registry.trackers) (whole : ∀ tracker ∈ asked, tracker.WritesWhole) :
    (registry.reportEach asked).state = registry.counting (asked.map (·.source)) ∧
      (registry.reportEach asked).result = .ok () := by
  induction asked generalizing registry with
  | nil => exact ⟨registry.counting_nil.symm, rfl⟩
  | cons tracker rest ih =>
    have here := known List.mem_cons_self
    obtain ⟨new, others⟩ := List.nodup_cons.1 nodup
    obtain ⟨⟨succeeds, -⟩, later⟩ := List.forall_mem_cons.1 whole
    have counted : (tracker.report none).state = tracker.reportCounted := by
      rw [Tracker.state_report_eq, succeeds]
      rfl
    obtain ⟨state, result⟩ := ih (populated.put_report accepted here) others
      (populated.subset_put_report accepted nodup known) later
    rw [registry.reportEach_cons succeeds]
    refine ⟨state.trans ?_, result⟩
    rw [counted, populated.put_counted here, counting_cons _ new, List.map_cons]

/-- A request whose trackers can all report changes nothing but the numbers of their reports. -/
theorem Populated.requestReport_whole (populated : registry.Populated config)
    (accepted : config.Accepted) (source : String)
    (whole : ∀ tracker ∈ registry.reached source, tracker.WritesWhole) :
    let outcome := registry.requestReport source
    outcome.result = .ok (registry.reached source).length ∧
      outcome.lines = linesOf (registry.reached source) ∧
      outcome.state = registry.counting ((registry.reached source).map (·.source)) := by
  intro outcome
  obtain ⟨known, nodup⟩ := reached_spec populated source
  obtain ⟨state, lines, result⟩ := registry.requestReport_reached source
  obtain ⟨counted, succeeds⟩ := populated.reportEach_whole accepted nodup known whole
  rw [succeeds] at result
  exact ⟨result, lines.trans ((registry.reportEach_written _).2 succeeds).1, state.trans counted⟩

/-! ### Requests -/

/-- A request for a source whose tracker is there, and whose last arrival the calendar reaches, is
answered with one: that tracker writes a line for each size under its key, and the number of its
reports is all that changes. Only with room for more ids than there are 64-bit integers can the
report break off, and then nothing changes. A request for all sources does the same with every
tracker. -/
theorem request_reaches_tracker (accepted : config.Accepted)
    (reachable : registry.Reachable config) :
    (∀ source tracker, source ≠ everySource → registry.get? source = some tracker →
      tracker.Dated →
      let outcome := registry.requestReport source
      tracker.source = registry.effectiveKey source ∧
        ((outcome.result = .ok 1 ∧
            (∃ stamp, tracker.lastEventStamp = .ok stamp ∧ tracker.LastSeen stamp ∧
              LineForEach tracker.source stamp config.sizes outcome.lines) ∧
            outcome.state = registry.counting [tracker.source]) ∨
          noMinimum < config.maxMessages ∧ outcome.result = .error .quotientTooLarge ∧
            outcome.state = registry)) ∧
    ((∀ tracker ∈ registry.trackers, tracker.Dated) → config.maxMessages ≤ noMinimum →
      let outcome := registry.requestReport everySource
      outcome.result = .ok registry.trackers.length ∧
        outcome.lines = linesOf registry.trackers ∧
        (∀ tracker ∈ registry.trackers, ∃ stamp,
          tracker.lastEventStamp = .ok stamp ∧ tracker.LastSeen stamp ∧
          LineForEach tracker.source stamp config.sizes (tracker.report none).lines) ∧
        outcome.state = registry.counting registry.keys) := by
  have populated := reachable.populated accepted
  have reports : ∀ tracker ∈ registry.trackers, tracker.Dated → tracker.WritesWhole ∨
      noMinimum < config.maxMessages ∧
        (tracker.report none).result = .error .quotientTooLarge := by
    intro tracker member dated
    obtain ⟨_, _, tallies⟩ := (populated.grown tracker member).tallies accepted
    exact tallies.report_of_dated accepted dated
  have lines : ∀ tracker ∈ registry.trackers, tracker.WritesWhole → ∃ stamp,
      tracker.lastEventStamp = .ok stamp ∧ tracker.LastSeen stamp ∧
        LineForEach tracker.source stamp config.sizes (tracker.report none).lines := by
    intro tracker member whole
    obtain ⟨_, _, tallies⟩ := (populated.grown tracker member).tallies accepted
    exact tallies.lineForEach whole
  constructor
  · intro source tracker single found dated outcome
    obtain ⟨member, keyed⟩ := findKey?_eq_some found
    have reached := reached_of_found single found
    refine ⟨keyed, ?_⟩
    rcases reports tracker member dated with whole | ⟨roomy, fails⟩
    · obtain ⟨result, written, state⟩ := populated.requestReport_whole accepted source
        (by rwa [reached, List.forall_mem_singleton])
      rw [reached] at result written state
      rw [linesOf, List.flatMap_singleton] at written
      exact .inl ⟨result, written ▸ lines tracker member whole, state⟩
    · obtain ⟨state, result⟩ := requestReport_of_error single found fails
      have unchanged : (tracker.report none).state = tracker := by
        rw [Tracker.state_report_eq, fails]
        rfl
      rw [unchanged, populated.put_same member] at state
      exact .inr ⟨roomy, result, state⟩
  · intro dated bounded outcome
    have whole : ∀ tracker ∈ registry.trackers, tracker.WritesWhole := fun tracker member =>
      (reports tracker member (dated tracker member)).resolve_right fun more =>
        absurd more.1 (not_lt.2 bounded)
    obtain ⟨result, written, state⟩ :=
      populated.requestReport_whole accepted everySource whole
    exact ⟨result, written, fun tracker member => lines tracker member (whole tracker member),
      state⟩

/-- A source that goes by the name for all of them: a request for it reaches the tracker of another
source as well, and counts a report there. -/
theorem every_source_reached :
    let registry := ofDemands .standard
      [.arrive "all" ⟨"a", 0, false⟩, .arrive "gate" ⟨"b", 0, false⟩]
    let outcome := registry.requestReport "all"
    Config.standard.Accepted ∧ registry.Reachable .standard ∧
      (∀ tracker ∈ registry.trackers, tracker.Dated) ∧
      (registry.get? "all").map (·.source) = some "all" ∧
      outcome.result = .ok 2 ∧ outcome.lines.length = 2 * Config.standard.sizes.length ∧
      outcome.lines[5]? = some ("gate, 01/01/1970 00:00:00, IntervalSize=1, " ++
        "msg1UMIDAvgCount=0.00, msg2UMIDAvgCount=0.00, msg1UMIDCount=0, msg2UMIDCount=0, " ++
        "numOfIntervals=0, msg1UMIDStdDev=0.00, msg1UMIDMin=9223372036854775807, " ++
        "msg1UMIDMax=0, zeroCountIntervals=0, msg1TotalCount=0, msg2TotalCount=0") ∧
      registry.trackers.map (·.reportsEmitted) = [0, 0] ∧
      outcome.state.trackers.map (·.reportsEmitted) = [1, 1] := by
  refine ⟨⟨by decide, rfl⟩, reachable_ofDemands .., ?_⟩
  decide +kernel

theorem request_reaches_tracker_south :
    let registry := ofDemands gates
      [.arrive "north" ⟨"a", 0, false⟩, .arrive "pier" ⟨"b", 600000, true⟩,
        .arrive "south" ⟨"c", 7200000, false⟩]
    let outcome := registry.requestReport "south"
    gates.Accepted ∧ registry.Reachable gates ∧ gates.maxMessages ≤ noMinimum ∧
      registry.keys = ["gates", "[ALL_SOURCES]"] ∧
      (∃ tracker, "south" ≠ everySource ∧ registry.get? "south" = some tracker ∧
        tracker.Dated) ∧
      outcome.result = .ok 1 ∧
      LineForEach "gates" "01/01/1970 02:00:00" gates.sizes outcome.lines ∧
      outcome.state = registry.counting ["gates"] := by
  intro registry outcome
  have accepted : gates.Accepted := ⟨by decide, rfl⟩
  have reachable : registry.Reachable gates := reachable_ofDemands ..
  have bounded : gates.maxMessages ≤ noMinimum := by decide
  have single : "south" ≠ everySource := by decide
  obtain ⟨tracker, found⟩ : ∃ tracker, registry.get? "south" = some tracker :=
    Option.isSome_iff_exists.1 (by decide +kernel)
  have there : ∀ tracker ∈ registry.get? "south", tracker.Dated ∧
      tracker.lastEventStamp = .ok "01/01/1970 02:00:00" := by decide +kernel
  obtain ⟨dated, stamped⟩ := there tracker found
  obtain ⟨key, reports⟩ :=
    (request_reaches_tracker accepted reachable).1 "south" tracker single found dated
  have group : registry.effectiveKey "south" = "gates" := by decide +kernel
  rw [group] at key
  obtain ⟨result, ⟨stamp, shown, -, lines⟩, state⟩ :=
    reports.resolve_right fun more => absurd more.1 (not_lt.2 bounded)
  obtain rfl := Except.ok.inj (stamped.symm.trans shown)
  rw [key] at lines state
  exact ⟨accepted, reachable, bounded, by decide +kernel, ⟨tracker, single, found, dated⟩, result,
    lines, state⟩

end Registry

end ArrivalRates
