import ArrivalRates.Proofs.Calls
import ArrivalRates.Registry
import Mathlib.Data.List.Nodup
import Mathlib.Logic.Function.Basic

/-!
# Each tracker of a registry runs on its own

Whatever a registry is asked comes down to calls on single trackers, found by their effective keys.
`Registry.Follows` says that every tracker is what the calls under its key have made of a fresh one,
so what is proved about one run of calls holds of every tracker of a registry. `Registry.Traced`
adds which events were recorded and which lines were written by all trackers together.
-/

namespace ArrivalRates

abbrev History := String → List Call

def History.add (history : History) (key : String) (call : Call) : History :=
  Function.update history key (history key ++ [call])

/-- The key under which a registry of this configuration counts a source. -/
def Config.keyOf (config : Config) (source : String) : String :=
  (Registry.create config).effectiveKey source

def Event.toArrival (event : Event) : Arrival := ⟨event.messageId, event.arrival, event.secondary⟩

def Config.arrivalsOf (config : Config) (key : String) (events : List Event) : List Arrival :=
  (events.filter fun event => config.keyOf event.source = key).map Event.toArrival

def Config.ledger (config : Config) (history : History) (key : String) : Ledger :=
  Ledger.ofCalls key config (history key)

section

variable {config : Config} {history : History} {key other : String} {call : Call}

theorem Config.ledger_add_same :
    config.ledger (history.add key call) key = (config.ledger history key).perform call := by
  rw [Config.ledger, History.add, Function.update_self, Ledger.ofCalls_concat]
  rfl

theorem Config.ledger_add_of_ne (differ : other ≠ key) :
    config.ledger (history.add key call) other = config.ledger history other := by
  rw [Config.ledger, History.add, Function.update_of_ne differ]
  rfl

theorem Config.sound_ledger (accepted : config.Accepted) (history : History) (key : String) :
    (config.ledger history key).Sound key config :=
  Ledger.sound_ofCalls accepted _

theorem Config.source_ledger (accepted : config.Accepted) (history : History) (key : String) :
    (config.ledger history key).tracker.source = key :=
  (config.sound_ledger accepted history key).source_eq

end

namespace Registry

def keys (registry : Registry) : List String := registry.trackers.map (·.source)

def extended (registry : Registry) (key : String) : Registry :=
  { registry with trackers := registry.trackers ++ [Tracker.fresh key registry.config] }

theorem keys_extended (registry : Registry) (key : String) :
    (registry.extended key).keys = registry.keys ++ [key] :=
  List.map_append

/-- Every tracker is what the calls under its key have made of it. -/
structure Follows (config : Config) (history : History) (registry : Registry) : Prop where
  config_eq : registry.config = config
  groups_eq : registry.groups = .ofList config.sourceGroups
  nodup : registry.keys.Nodup
  silent : ∀ key, key ∉ registry.keys → history key = []
  trackers_eq : registry.trackers =
    registry.keys.map fun key => (config.ledger history key).tracker

variable {config : Config} {history : History} {registry : Registry} {key : String}

theorem follows_create (config : Config) : Follows config (fun _ => []) (create config) where
  config_eq := rfl
  groups_eq := rfl
  nodup := .nil
  silent := fun _ _ => rfl
  trackers_eq := rfl

theorem keys_put (registry : Registry) (tracker : Tracker) :
    (registry.put tracker).keys = registry.keys := by
  unfold keys put
  rw [List.map_map]
  refine List.map_congr_left fun old _ => ?_
  show (if old.source = tracker.source then tracker else old).source = old.source
  split
  next same => exact same.symm
  · rfl

/-- Reports go on after one that did not fail, with its tracker in place. -/
theorem reportEach_cons (registry : Registry) {tracker : Tracker}
    (whole : (tracker.report none).result = .ok ()) (rest : List Tracker) :
    let later := (registry.put (tracker.report none).state).reportEach rest
    registry.reportEach (tracker :: rest) =
      ⟨later.state, later.result, (tracker.report none).entries ++ later.entries⟩ := by
  have first : ((tracker.report none).mapState registry.put).result = .ok () := whole
  rw [reportEach, Outcome.andThen_of_ok first]
  rfl

theorem reportEach_cons_of_error (registry : Registry) {tracker : Tracker} {failure : Failure}
    (fails : (tracker.report none).result = .error failure) (rest : List Tracker) :
    registry.reportEach (tracker :: rest) =
      ⟨registry.put (tracker.report none).state, .error failure,
        (tracker.report none).entries⟩ := by
  have first : ((tracker.report none).mapState registry.put).result = .error failure := fails
  rw [reportEach, Outcome.andThen_of_error first]
  rfl

/-- The lines of some reports, up to those of one that fails. -/
theorem reportEach_written (registry : Registry) (trackers : List Tracker) :
    let outcome := registry.reportEach trackers
    let lines := trackers.flatMap fun tracker => (tracker.report none).lines
    outcome.lines <+: lines ∧ (outcome.result = .ok () →
      outcome.lines = lines ∧ ∀ tracker ∈ trackers, (tracker.report none).result = .ok ()) := by
  induction trackers generalizing registry with
  | nil => exact ⟨List.nil_prefix, fun _ => ⟨rfl, fun _ member => by cases member⟩⟩
  | cons tracker rest ih =>
    obtain ⟨part, whole⟩ := ih (registry.put (tracker.report none).state)
    rw [List.flatMap_cons]
    cases result : (tracker.report none).result with
    | error failure =>
      rw [registry.reportEach_cons_of_error result]
      refine ⟨List.prefix_append .., fun fine => ?_⟩
      cases fine
    | ok =>
      rw [registry.reportEach_cons result]
      simp only [Outcome.lines, List.filterMap_append]
      refine ⟨(List.prefix_append_right_inj _).2 part, fun fine => ?_⟩
      obtain ⟨written, each⟩ := whole fine
      exact ⟨congrArg _ written, List.forall_mem_cons.2 ⟨result, each⟩⟩

namespace Follows

theorem effectiveKey_eq (follows : registry.Follows config history) (source : String) :
    registry.effectiveKey source = config.keyOf source := by
  rw [effectiveKey, follows.config_eq, follows.groups_eq]
  rfl

theorem findKey?_eq (follows : registry.Follows config history) (accepted : config.Accepted)
    (key : String) :
    registry.findKey? key =
      if key ∈ registry.keys then some (config.ledger history key).tracker else none := by
  have same : (fun tracker : Tracker => decide (tracker.source = key)) ∘
      (fun key => (config.ledger history key).tracker) = fun other => decide (other = key) := by
    funext other
    show decide ((config.ledger history other).tracker.source = key) = _
    rw [config.source_ledger accepted]
  rw [findKey?, follows.trackers_eq, List.find?_map, same, Arrivals.find?_eq_ite]
  split <;> rfl

theorem put (follows : registry.Follows config history) (accepted : config.Accepted)
    (known : key ∈ registry.keys) (call : Call) :
    (registry.put ((config.ledger history key).tracker.perform call).state).Follows config
      (history.add key call) := by
  have after : ((config.ledger history key).tracker.perform call).state =
      (config.ledger (history.add key call) key).tracker := by
    rw [Config.ledger_add_same, Ledger.tracker_perform]
  refine ⟨follows.config_eq, follows.groups_eq, ?_, ?_, ?_⟩
  · rw [keys_put]
    exact follows.nodup
  · intro other new
    rw [keys_put] at new
    have differ : other ≠ key := fun same => new (same ▸ known)
    rw [History.add, Function.update_of_ne differ]
    exact follows.silent other new
  · rw [keys_put, after]
    show registry.trackers.map _ = _
    rw [follows.trackers_eq, List.map_map]
    refine List.map_congr_left fun other _ => ?_
    simp only [Function.comp_apply, config.source_ledger accepted]
    split
    next same => rw [same]
    next differ => rw [Config.ledger_add_of_ne differ]

theorem fresh_eq (follows : registry.Follows config history) (new : key ∉ registry.keys) :
    Tracker.fresh key registry.config = (config.ledger history key).tracker := by
  rw [Config.ledger, follows.silent key new, follows.config_eq]
  rfl

theorem extended (follows : registry.Follows config history) (new : key ∉ registry.keys) :
    (registry.extended key).Follows config history := by
  refine ⟨follows.config_eq, follows.groups_eq, ?_, ?_, ?_⟩
  · rw [keys_extended]
    refine List.nodup_append.2 ⟨follows.nodup, List.nodup_singleton _, ?_⟩
    intro old member other last same
    rw [List.mem_singleton] at last
    exact new (last ▸ same ▸ member)
  · intro other absent
    rw [keys_extended, List.mem_append, not_or] at absent
    exact follows.silent other absent.1
  · rw [keys_extended, List.map_append, ← follows.trackers_eq, Registry.extended,
      follows.fresh_eq new]
    rfl

/-- The tracker of a source, new or not, is the one of its key; making it writes no line. -/
theorem getOrCreate_spec (follows : registry.Follows config history) (accepted : config.Accepted)
    (source : String) :
    ∃ (after : Registry) (notes : List Entry), registry.getOrCreate source =
        ⟨after, .ok (config.ledger history (config.keyOf source)).tracker, notes⟩ ∧
      after.Follows config history ∧
      (∀ other, other ∈ after.keys ↔ other ∈ registry.keys ∨ other = config.keyOf source) ∧
      notes.filterMap Entry.line? = [] := by
  have found := follows.findKey?_eq accepted (config.keyOf source)
  unfold getOrCreate get?
  rw [follows.effectiveKey_eq, found]
  by_cases known : config.keyOf source ∈ registry.keys
  · rw [if_pos known]
    refine ⟨registry, [], rfl, follows, fun other => ⟨.inl, ?_⟩, rfl⟩
    rintro (member | rfl)
    · exact member
    · exact known
  · rw [if_neg known]
    have layout : checkLayout registry.config.slots registry.config.sizes = .ok () :=
      follows.config_eq ▸ accepted.layout
    simp only [Tracker.create, layout]
    rw [← follows.fresh_eq known]
    refine ⟨registry.extended (config.keyOf source), _, rfl, follows.extended known, ?_, rfl⟩
    intro other
    rw [keys_extended, List.mem_append, List.mem_singleton]

/-- What the tracker of a source is asked happens to the ledger of its key and to no other. -/
theorem onTracker_spec (follows : registry.Follows config history) (accepted : config.Accepted)
    (source : String) (operation : Tracker → Outcome Tracker α) :
    let outcome := operation (config.ledger history (config.keyOf source)).tracker
    ∃ before : Registry, before.Follows config history ∧
      (∀ other, other ∈ before.keys ↔ other ∈ registry.keys ∨ other = config.keyOf source) ∧
      (registry.onTracker source operation).state = before.put outcome.state ∧
      (registry.onTracker source operation).result = outcome.result ∧
      (registry.onTracker source operation).lines = outcome.lines := by
  intro outcome
  obtain ⟨before, notes, created, follows', keys, silent⟩ :=
    follows.getOrCreate_spec accepted source
  have made : (registry.getOrCreate source).result = .ok _ := congrArg Outcome.result created
  rw [onTracker, Outcome.andThen_of_ok made, created]
  refine ⟨before, follows', keys, rfl, rfl, ?_⟩
  rw [Outcome.lines, List.filterMap_append, silent, List.nil_append]
  rfl

end Follows

/-! ### What is recorded and written -/

/-- The ledgers of all keys together recorded these events, and all that they wrote is among these
lines. -/
structure Traced (config : Config) (history : History) (recorded : List Event)
    (lines : List String) (registry : Registry) : Prop extends Follows config history registry where
  recorded_eq : ∀ key, (config.ledger history key).recorded = config.arrivalsOf key recorded
  lines_subset : ∀ key, (config.ledger history key).lines ⊆ lines

variable {recorded : List Event} {lines : List String}

theorem traced_create (config : Config) : Traced config (fun _ => []) [] [] (create config) where
  toFollows := follows_create config
  recorded_eq := fun _ => rfl
  lines_subset := fun _ => List.Subset.refl _

theorem consume_of_running {event : Event} (running : event.loggerStarting = false) :
    registry.consume event =
      registry.addMessage event.source event.messageId event.arrival event.secondary := by
  unfold consume
  rw [running]
  exact Outcome.done_andThen ..

theorem consume_of_starting {event : Event} (starting : event.loggerStarting = true) :
    registry.consume event =
      (registry.markLoggerStarting event.source event.arrival).andThen fun registry () =>
        registry.addMessage event.source event.messageId event.arrival event.secondary := by
  unfold consume
  rw [starting]
  rfl

namespace Traced

/-- A recorded event has its tracker, and the ledger of its key recorded it. -/
theorem ledger_of_mem (traced : registry.Traced config history recorded lines) {event : Event}
    (member : event ∈ recorded) :
    event.toArrival ∈ (config.ledger history (config.keyOf event.source)).recorded ∧
      (config.ledger history (config.keyOf event.source)).tracker ∈ registry.trackers := by
  have counted : event.toArrival ∈
      (config.ledger history (config.keyOf event.source)).recorded := by
    rw [traced.recorded_eq, Config.arrivalsOf]
    exact List.mem_map_of_mem (List.mem_filter.2 ⟨member, decide_eq_true rfl⟩)
  have known : config.keyOf event.source ∈ registry.keys := by
    by_contra new
    rw [Config.ledger, traced.silent _ new] at counted
    cases counted
  refine ⟨counted, ?_⟩
  rw [traced.trackers_eq]
  exact List.mem_map_of_mem known

theorem put (traced : registry.Traced config history recorded lines) (accepted : config.Accepted)
    (known : key ∈ registry.keys) (call : Call) (added : List Event)
    (keyed : ∀ event ∈ added, config.keyOf event.source = key)
    (counted : ((config.ledger history key).perform call).recorded =
      (config.ledger history key).recorded ++ added.map Event.toArrival) :
    let outcome := (config.ledger history key).tracker.perform call
    (registry.put outcome.state).Traced config (history.add key call) (recorded ++ added)
      (lines ++ outcome.lines) := by
  intro outcome
  refine ⟨traced.toFollows.put accepted known call, ?_, ?_⟩
  · intro other
    rw [Config.arrivalsOf, List.filter_append, List.map_append, ← Config.arrivalsOf,
      ← traced.recorded_eq other]
    by_cases same : other = key
    · subst same
      have all : added.filter (fun event => config.keyOf event.source = other) = added :=
        List.filter_eq_self.2 fun event member => decide_eq_true (keyed event member)
      rw [Config.ledger_add_same, counted, all]
    · have none : added.filter (fun event => config.keyOf event.source = other) = [] := by
        rw [List.filter_eq_nil_iff]
        intro event member here
        exact same ((of_decide_eq_true here).symm.trans (keyed event member))
      rw [Config.ledger_add_of_ne same, none, List.map_nil, List.append_nil]
  · intro other
    by_cases same : other = key
    · subst same
      rw [Config.ledger_add_same]
      exact List.append_subset.2 ⟨List.subset_append_of_subset_left _ (traced.lines_subset other),
        List.subset_append_right ..⟩
    · rw [Config.ledger_add_of_ne same]
      exact List.subset_append_of_subset_left _ (traced.lines_subset other)

theorem onTracker (traced : registry.Traced config history recorded lines)
    (accepted : config.Accepted) (source : String) (operation : Tracker → Outcome Tracker α)
    (call : Call) (added : List Event)
    (performs : ∀ tracker, (operation tracker).state = (tracker.perform call).state ∧
      (operation tracker).lines = (tracker.perform call).lines)
    (keyed : ∀ event ∈ added, config.keyOf event.source = config.keyOf source)
    (counted : ((config.ledger history (config.keyOf source)).perform call).recorded =
      (config.ledger history (config.keyOf source)).recorded ++ added.map Event.toArrival) :
    (registry.onTracker source operation).state.Traced config
      (history.add (config.keyOf source) call) (recorded ++ added)
      (lines ++ (registry.onTracker source operation).lines) := by
  obtain ⟨before, follows, keys, state, -, written⟩ :=
    traced.toFollows.onTracker_spec accepted source operation
  have traced' : before.Traced config history recorded lines :=
    ⟨follows, traced.recorded_eq, traced.lines_subset⟩
  obtain ⟨same, shown⟩ := performs (config.ledger history (config.keyOf source)).tracker
  rw [state, written, same, shown]
  exact traced'.put accepted ((keys _).2 (.inr rfl)) call added keyed counted

theorem markLoggerStarting (traced : registry.Traced config history recorded lines)
    (accepted : config.Accepted) (source : String) (next : Int) :
    (registry.markLoggerStarting source next).state.Traced config
      (history.add (config.keyOf source) (.startLogger next)) recorded
      (lines ++ (registry.markLoggerStarting source next).lines) := by
  have after := traced.onTracker accepted source (·.markLoggerStarting next) (.startLogger next)
    [] ?_ ?_ ?_
  · rw [List.append_nil] at after
    exact after
  · intro tracker
    rw [Tracker.perform_startLogger]
    exact ⟨rfl, rfl⟩
  · intro event member
    cases member
  · exact (Ledger.recorded_other _ rfl).trans (List.append_nil _).symm

theorem addMessage (traced : registry.Traced config history recorded lines)
    (accepted : config.Accepted) (event : Event) :
    let outcome := registry.addMessage event.source event.messageId event.arrival event.secondary
    outcome.state.Traced config
      (history.add (config.keyOf event.source) (.arrive event.toArrival))
      (recorded ++ if outcome.accepted then [event] else []) (lines ++ outcome.lines) := by
  intro outcome
  have same : outcome.accepted = ((config.ledger history
      (config.keyOf event.source)).tracker.deliver event.toArrival).accepted := by
    obtain ⟨-, -, -, -, result, -⟩ :=
      traced.toFollows.onTracker_spec accepted event.source (·.deliver event.toArrival)
    exact congrArg (fun result => (Outcome.mk () result []).accepted) result
  refine traced.onTracker accepted event.source (·.deliver event.toArrival)
    (.arrive event.toArrival) _ (fun tracker => ⟨rfl, rfl⟩) ?_ ?_
  · intro other member
    split at member
    · rw [List.mem_singleton.1 member]
    · cases member
  · rw [Ledger.recorded_arrive, ← same]
    cases outcome.accepted with
    | true => rfl
    | false => exact (List.append_nil _).symm

theorem consume (traced : registry.Traced config history recorded lines)
    (accepted : config.Accepted) (event : Event) :
    ∃ later, (registry.consume event).state.Traced config later
      (recorded ++ if (registry.consume event).accepted then [event] else [])
      (lines ++ (registry.consume event).lines) := by
  cases starting : event.loggerStarting with
  | false =>
    rw [consume_of_running starting]
    exact ⟨_, traced.addMessage accepted event⟩
  | true =>
    rw [consume_of_starting starting]
    have marked := traced.markLoggerStarting accepted event.source event.arrival
    cases result : (registry.markLoggerStarting event.source event.arrival).result with
    | error failure =>
      rw [Outcome.andThen_of_error result]
      exact ⟨_, (List.append_nil recorded).symm ▸ marked⟩
    | ok =>
      rw [Outcome.andThen_of_ok result, Outcome.lines, List.filterMap_append, ← List.append_assoc]
      exact ⟨_, marked.addMessage accepted event⟩

/-- Reports of different trackers, up to the first failure. -/
theorem reportEach (traced : registry.Traced config history recorded lines)
    (accepted : config.Accepted) {keys : List String} (nodup : keys.Nodup)
    (known : keys ⊆ registry.keys) :
    let outcome := registry.reportEach (keys.map fun key => (config.ledger history key).tracker)
    ∃ later, outcome.state.Traced config later recorded (lines ++ outcome.lines) := by
  induction keys generalizing registry history lines with
  | nil =>
    refine ⟨history, ?_⟩
    rw [List.map_nil, Registry.reportEach]
    simpa [Outcome.done, Outcome.lines] using traced
  | cons key rest ih =>
    intro outcome
    obtain ⟨head, tail⟩ := List.nodup_cons.1 nodup
    obtain ⟨here, others⟩ := List.cons_subset.1 known
    have after := traced.put accepted here (.report none) [] (fun _ member => by cases member)
      ((Ledger.recorded_other _ rfl).trans (List.append_nil _).symm)
    -- the reports that follow are of trackers which the first one left alone
    have same : rest.map (fun other => (config.ledger history other).tracker) =
        rest.map fun other => (config.ledger (history.add key (.report none)) other).tracker := by
      refine List.map_congr_left fun other member => ?_
      have differ : other ≠ key := fun e => head (e ▸ member)
      rw [Config.ledger_add_of_ne differ]
    have kept : rest ⊆ (registry.put ((config.ledger history key).tracker.perform
        (.report none)).state).keys := by
      rw [keys_put]
      exact others
    rw [Tracker.perform_report] at kept
    rw [Tracker.perform_report, List.append_nil] at after
    show ∃ later, (registry.reportEach (_ :: rest.map _)).state.Traced config later recorded
      (lines ++ (registry.reportEach (_ :: rest.map _)).lines)
    rw [Registry.reportEach, same]
    generalize (config.ledger history key).tracker.report none = first at after kept
    cases result : (first.mapState registry.put).result with
    | error failure =>
      rw [Outcome.andThen_of_error result]
      exact ⟨_, after⟩
    | ok =>
      rw [Outcome.andThen_of_ok result, Outcome.lines, List.filterMap_append, ← List.append_assoc]
      exact ih after tail kept

theorem requestReport (traced : registry.Traced config history recorded lines)
    (accepted : config.Accepted) (source : String) :
    ∃ later, (registry.requestReport source).state.Traced config later recorded
      (lines ++ (registry.requestReport source).lines) := by
  unfold Registry.requestReport
  split
  · rw [Outcome.andThen_done]
    have after := traced.reportEach accepted traced.nodup (List.Subset.refl _)
    rw [← traced.trackers_eq] at after
    exact after
  · have found := traced.findKey?_eq accepted (config.keyOf source)
    rw [get?, traced.effectiveKey_eq, found]
    split
    next missing =>
      refine ⟨history, ?_⟩
      have silent : lines ++ _ = lines := List.append_nil lines
      exact silent.symm ▸ traced
    next tracker there =>
      rw [Outcome.andThen_done]
      split at there
      next known =>
        obtain rfl := Option.some.inj there
        exact traced.reportEach accepted (List.nodup_singleton _)
          (List.cons_subset.2 ⟨known, List.nil_subset _⟩)
      · cases there

end Traced

end Registry

end ArrivalRates
