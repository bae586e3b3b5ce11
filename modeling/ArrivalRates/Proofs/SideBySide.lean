import ArrivalRates.Proofs.Routing

/-!
# A registry is its trackers side by side

A tracker of a registry cannot tell that it is not alone: it goes through what a tracker of its own
would go through if it were given the demands under its key and no others. A demand that counts or
marks makes the tracker of its key if there is none yet; a report reaches the trackers that are
there. `Registry.ActsOn` says what an operation on one key does to a registry; two such operations
one after the other are one again, which is how the delivery of an event is built from its parts.
-/

namespace ArrivalRates

/-! ### Demands -/

/-- What a registry is asked. -/
inductive Demand where
  | arrive (source : String) (arrival : Arrival)
  | startLogger (source : String) (next : Int)
  | consume (event : Event)
  /-- A report out of schedule for one source or for all. -/
  | report (source : String)
  deriving DecidableEq, Repr

namespace Demand

inductive Answer where
  | recorded (answer : Bool)
  | marked
  /-- How many trackers wrote a report. -/
  | reported (trackers : Nat)
  deriving DecidableEq, Repr

def source : Demand → String
  | arrive source _ | startLogger source _ | report source => source
  | consume event => event.source

def isReport : Demand → Bool
  | report _ => true
  | _ => false

theorem eq_report (demand : Demand) (kind : demand.isReport = true) :
    ∃ source, demand = .report source := by
  cases demand with
  | report source => exact ⟨source, rfl⟩
  | arrive | startLogger | consume => cases kind

end Demand

namespace Config

/-- Whether a demand makes the tracker of a key if there is none. -/
def opens (config : Config) (key : String) (demand : Demand) : Bool :=
  !demand.isReport && config.keyOf demand.source = key

/-- Whether a demand is for the tracker of a key if there is one. -/
def addresses (config : Config) (key : String) (demand : Demand) : Bool :=
  (demand.isReport && demand.source = everySource) || config.keyOf demand.source = key

/-- The demands that the tracker of a key is given: it is there from the first one that makes it. -/
def routed (config : Config) (key : String) (demands : List Demand) : List Demand :=
  (demands.dropWhile fun demand => !config.opens key demand).filter (config.addresses key)

end Config

namespace Outcome

def mapResult (outcome : Outcome σ α) (f : α → β) : Outcome σ β :=
  ⟨outcome.state, outcome.result.map f, outcome.entries⟩

theorem mapResult_eq_ok {outcome : Outcome σ α} {f : α → β} {answer : β} :
    (outcome.mapResult f).result = .ok answer ↔
      ∃ value, outcome.result = .ok value ∧ f value = answer := by
  unfold mapResult
  cases outcome.result <;> simp [Except.map]

end Outcome

namespace Tracker

/-- The delivery of an event to the tracker of its source. -/
def consume (tracker : Tracker) (event : Event) : Outcome Tracker Bool :=
  let marked :=
    if event.loggerStarting then tracker.markLoggerStarting event.arrival else .done tracker ()
  marked.andThen fun tracker () => tracker.deliver event.toArrival

/-- What a tracker does with a demand that has reached it. -/
def serve (tracker : Tracker) : Demand → Outcome Tracker Demand.Answer
  | .arrive _ arrival => (tracker.deliver arrival).mapResult .recorded
  | .startLogger _ next => (tracker.markLoggerStarting next).mapResult fun () => .marked
  | .consume event => (tracker.consume event).mapResult .recorded
  | .report _ => (tracker.report none).mapResult fun () => .reported 1

end Tracker

/-- A tracker of its own that is given the demands under its key. -/
def Config.standalone (config : Config) (key : String) (demands : List Demand) : Tracker :=
  (config.routed key demands).foldl (fun tracker demand => (tracker.serve demand).state)
    (Tracker.fresh key config)

namespace Registry

def serve (registry : Registry) : Demand → Outcome Registry Demand.Answer
  | .arrive source arrival =>
    (registry.addMessage source arrival.messageId arrival.moment arrival.secondary).mapResult
      .recorded
  | .startLogger source next =>
    (registry.markLoggerStarting source next).mapResult fun () => .marked
  | .consume event => (registry.consume event).mapResult .recorded
  | .report source => (registry.requestReport source).mapResult .reported

/-- A new registry after some demands. -/
def ofDemands (config : Config) (demands : List Demand) : Registry :=
  demands.foldl (fun registry demand => (registry.serve demand).state) (create config)

end Registry

/-! ### Operations on one key -/

namespace Registry

/-- A registry whose trackers are in the given states; a key without a tracker has that of a fresh
one. -/
def Holds (config : Config) (states : String → Tracker) (registry : Registry) : Prop :=
  ∃ history, registry.Follows config history ∧
    ∀ key, (config.ledger history key).tracker = states key

variable {config : Config} {states : String → Tracker} {registry : Registry} {key other : String}

theorem holds_create (config : Config) :
    (create config).Holds config fun key => .fresh key config :=
  ⟨_, follows_create config, fun _ => rfl⟩

namespace Holds

theorem trackers_eq (holds : registry.Holds config states) :
    registry.trackers = registry.keys.map states := by
  obtain ⟨history, follows, same⟩ := holds
  rw [follows.trackers_eq]
  exact List.map_congr_left fun key _ => same key

theorem nodup (holds : registry.Holds config states) : registry.keys.Nodup := by
  obtain ⟨_, follows, -⟩ := holds
  exact follows.nodup

theorem source_eq (holds : registry.Holds config states) (accepted : config.Accepted)
    (key : String) : (states key).source = key := by
  obtain ⟨history, -, same⟩ := holds
  rw [← same, config.source_ledger accepted]

theorem effectiveKey_eq (holds : registry.Holds config states) (source : String) :
    registry.effectiveKey source = config.keyOf source := by
  obtain ⟨_, follows, -⟩ := holds
  exact follows.effectiveKey_eq source

theorem findKey?_eq (holds : registry.Holds config states) (accepted : config.Accepted)
    (key : String) :
    registry.findKey? key = if key ∈ registry.keys then some (states key) else none := by
  obtain ⟨history, follows, same⟩ := holds
  rw [follows.findKey?_eq accepted, same]

theorem congr (holds : registry.Holds config states) {states' : String → Tracker}
    (same : ∀ key, states key = states' key) : registry.Holds config states' :=
  funext same ▸ holds

end Holds

/-- An operation on a registry that is one on the tracker of a key alone, which is there
afterwards. -/
structure ActsOn (config : Config) (states : String → Tracker) (registry : Registry) (key : String)
    (alone : Outcome Tracker α) (outcome : Outcome Registry α) : Prop where
  holds : outcome.state.Holds config (Function.update states key alone.state)
  mem_keys : ∀ other, other ∈ outcome.state.keys ↔ other ∈ registry.keys ∨ other = key
  result_eq : outcome.result = alone.result
  lines_eq : outcome.lines = alone.lines

namespace ActsOn

variable {alone : Outcome Tracker α} {outcome : Outcome Registry α}

theorem mapResult (acts : ActsOn config states registry key alone outcome) (f : α → β) :
    ActsOn config states registry key (alone.mapResult f) (outcome.mapResult f) where
  holds := acts.holds
  mem_keys := acts.mem_keys
  result_eq := congrArg (Except.map f) acts.result_eq
  lines_eq := acts.lines_eq

theorem andThen (acts : ActsOn config states registry key alone outcome)
    {next : Tracker → α → Outcome Tracker β} {second : Registry → α → Outcome Registry β}
    (later : ∀ value, ActsOn config (Function.update states key alone.state) outcome.state key
      (next alone.state value) (second outcome.state value)) :
    ActsOn config states registry key (alone.andThen next) (outcome.andThen second) := by
  have same := acts.result_eq
  cases result : alone.result with
  | error failure =>
    rw [result] at same
    rw [Outcome.andThen_of_error result, Outcome.andThen_of_error same]
    exact ⟨acts.holds, acts.mem_keys, rfl, acts.lines_eq⟩
  | ok value =>
    rw [result] at same
    have after := later value
    rw [Outcome.andThen_of_ok result, Outcome.andThen_of_ok same]
    refine ⟨?_, ?_, after.result_eq, ?_⟩
    · have holds := after.holds
      rwa [Function.update_idem] at holds
    · intro other
      rw [after.mem_keys, acts.mem_keys, or_assoc, or_self]
    · simp only [Outcome.lines, List.filterMap_append]
      exact congrArg₂ (· ++ ·) acts.lines_eq after.lines_eq

end ActsOn

theorem Holds.put (holds : registry.Holds config states) (accepted : config.Accepted)
    (known : key ∈ registry.keys) (call : Call) :
    (registry.put ((states key).perform call).state).Holds config
      (Function.update states key ((states key).perform call).state) := by
  obtain ⟨history, follows, same⟩ := holds
  refine ⟨history.add key call, same key ▸ follows.put accepted known call, ?_⟩
  intro other
  by_cases here : other = key
  · subst here
    rw [Function.update_self, Config.ledger_add_same, Ledger.tracker_perform, same]
  · rw [Function.update_of_ne here, Config.ledger_add_of_ne here, same]

/-- What is asked of the tracker of a source as a call. -/
theorem Holds.onTracker (holds : registry.Holds config states) (accepted : config.Accepted)
    (source : String) {operation : Tracker → Outcome Tracker α} (call : Call)
    (performs : ∀ tracker, (operation tracker).state = (tracker.perform call).state) :
    ActsOn config states registry (config.keyOf source)
      (operation (states (config.keyOf source))) (registry.onTracker source operation) := by
  obtain ⟨history, follows, same⟩ := holds
  obtain ⟨before, follows', keys, state, result, lines⟩ :=
    follows.onTracker_spec accepted source operation
  rw [same] at state result lines
  refine ⟨?_, fun other => ?_, result, lines⟩
  · rw [state, performs]
    exact Holds.put ⟨history, follows', same⟩ accepted ((keys _).2 (.inr rfl)) call
  · rw [state, keys_put]
    exact keys other

theorem Holds.addMessage (holds : registry.Holds config states) (accepted : config.Accepted)
    (source : String) (arrival : Arrival) :
    ActsOn config states registry (config.keyOf source)
      ((states (config.keyOf source)).deliver arrival)
      (registry.addMessage source arrival.messageId arrival.moment arrival.secondary) :=
  holds.onTracker accepted source (.arrive arrival) fun _ => rfl

theorem Holds.markLoggerStarting (holds : registry.Holds config states)
    (accepted : config.Accepted) (source : String) (next : Int) :
    ActsOn config states registry (config.keyOf source)
      ((states (config.keyOf source)).markLoggerStarting next)
      (registry.markLoggerStarting source next) := by
  have performs : ∀ tracker : Tracker,
      (tracker.markLoggerStarting next).state = (tracker.perform (.startLogger next)).state := by
    intro tracker
    rw [Tracker.perform_startLogger]
  exact holds.onTracker accepted source (.startLogger next) performs

theorem Holds.consume (holds : registry.Holds config states) (accepted : config.Accepted)
    (event : Event) :
    ActsOn config states registry (config.keyOf event.source)
      ((states (config.keyOf event.source)).consume event) (registry.consume event) := by
  unfold Tracker.consume
  cases starting : event.loggerStarting with
  | false =>
    rw [consume_of_running starting, if_neg (by decide), Outcome.done_andThen]
    exact holds.addMessage accepted event.source event.toArrival
  | true =>
    rw [consume_of_starting starting, if_pos rfl]
    have marked := holds.markLoggerStarting accepted event.source event.arrival
    refine marked.andThen fun () => ?_
    have added := marked.holds.addMessage accepted event.source event.toArrival
    rwa [Function.update_self] at added

theorem Holds.serve (holds : registry.Holds config states) (accepted : config.Accepted)
    {demand : Demand} (other : demand.isReport = false) :
    ActsOn config states registry (config.keyOf demand.source)
      ((states (config.keyOf demand.source)).serve demand) (registry.serve demand) := by
  cases demand with
  | arrive source arrival => exact (holds.addMessage accepted source arrival).mapResult _
  | startLogger source next => exact (holds.markLoggerStarting accepted source next).mapResult _
  | consume event => exact (holds.consume accepted event).mapResult _
  | report source => cases other

/-! ### Reports -/

/-- Reports reach their trackers one after the other, up to one that fails. -/
theorem Holds.reportEach (holds : registry.Holds config states) (accepted : config.Accepted)
    {asked : List String} (nodup : asked.Nodup) (known : asked ⊆ registry.keys) :
    let outcome := registry.reportEach (asked.map states)
    ∃ reached, reached <+: asked ∧
      (outcome.state.Holds config fun key =>
        if key ∈ reached then ((states key).report none).state else states key) ∧
      outcome.state.keys = registry.keys ∧ (outcome.result = .ok () → reached = asked) := by
  induction asked generalizing registry states with
  | nil =>
    refine ⟨[], List.nil_prefix, holds.congr fun key => ?_, rfl, fun _ => rfl⟩
    rw [if_neg List.not_mem_nil]
  | cons key rest ih =>
    obtain ⟨head, tail⟩ := List.nodup_cons.1 nodup
    obtain ⟨here, others⟩ := List.cons_subset.1 known
    have after := holds.put accepted here (.report none)
    rw [Tracker.perform_report] at after
    rw [List.map_cons, Registry.reportEach]
    cases result : (((states key).report none).mapState registry.put).result with
    | error failure =>
      rw [Outcome.andThen_of_error result]
      refine ⟨[key], List.prefix_append [key] rest, after.congr fun other => ?_,
        keys_put .., fun fine => ?_⟩
      · by_cases same : other = key
        · subst same
          rw [Function.update_self, if_pos (List.mem_singleton_self _)]
        · rw [Function.update_of_ne same, if_neg (mt List.mem_singleton.1 same)]
      · cases fine
    | ok =>
      -- the reports that follow are of trackers which the first one left alone
      have unmoved : ∀ other ∈ rest,
          Function.update states key ((states key).report none).state other = states other := by
        intro other member
        rw [Function.update_of_ne]
        rintro rfl
        exact head member
      rw [Outcome.andThen_of_ok result, ← List.map_congr_left unmoved]
      obtain ⟨reached, part, later, keys, whole⟩ := ih after tail (by rwa [keys_put])
      refine ⟨key :: reached, List.cons_prefix_cons.2 ⟨rfl, part⟩, later.congr fun other => ?_,
        keys.trans (keys_put ..), fun fine => congrArg _ (whole fine)⟩
      by_cases same : other = key
      · subst same
        rw [if_neg fun member => head (part.subset member), Function.update_self,
          if_pos List.mem_cons_self]
      · simp [same]

/-- The keys whose trackers a report for a source reaches. -/
def asked (registry : Registry) (config : Config) (source : String) : List String :=
  registry.keys.filter fun key => config.addresses key (.report source)

theorem asked_every (registry : Registry) (config : Config) :
    registry.asked config everySource = registry.keys :=
  List.filter_eq_self.2 fun _ _ => rfl

theorem filter_keys (nodup : registry.keys.Nodup) (key : String) :
    registry.keys.filter (fun other => other = key) =
      if key ∈ registry.keys then [key] else [] := by
  rw [List.filter_eq]
  split
  next known => rw [List.count_eq_one_of_mem nodup known, List.replicate_one]
  next absent => rw [List.count_eq_zero_of_not_mem absent, List.replicate_zero]

theorem asked_of_ne (nodup : registry.keys.Nodup) {source : String}
    (single : source ≠ everySource) :
    registry.asked config source =
      if config.keyOf source ∈ registry.keys then [config.keyOf source] else [] := by
  have addressed : (fun key => config.addresses key (.report source)) =
      fun key => decide (key = config.keyOf source) := by
    funext key
    simp [Config.addresses, Demand.isReport, Demand.source, single, eq_comm]
  rw [asked, addressed, filter_keys nodup]

/-- Whoever is asked, the answer is the number of their reports. -/
theorem Holds.requestReport_eq (holds : registry.Holds config states)
    (accepted : config.Accepted) (source : String) :
    let outcome := registry.requestReport source
    let reports := registry.reportEach ((registry.asked config source).map states)
    outcome.state = reports.state ∧ outcome.lines = reports.lines ∧
      ∃ count, outcome.result = reports.result.map (fun () => count) ∧
        (reports.state.keys = registry.keys → count = (registry.asked config source).length) := by
  unfold Registry.requestReport
  split
  next every =>
    subst every
    rw [asked_every, holds.trackers_eq, Outcome.andThen_done]
    refine ⟨rfl, rfl, _, rfl, fun kept => ?_⟩
    exact (List.length_map _).symm.trans (congrArg List.length kept)
  next single =>
    rw [asked_of_ne holds.nodup single, get?, holds.effectiveKey_eq, holds.findKey?_eq accepted]
    by_cases known : config.keyOf source ∈ registry.keys
    · rw [if_pos known, if_pos known]
      have reports := Outcome.andThen_done
        (registry.reportEach [states (config.keyOf source)]) fun _ _ => 1
      exact ⟨congrArg Outcome.state reports, congrArg Outcome.lines reports, 1,
        congrArg Outcome.result reports, fun _ => rfl⟩
    · rw [if_neg known, if_neg known]
      exact ⟨rfl, rfl, 0, rfl, fun _ => rfl⟩

/-- A report out of schedule reaches the trackers it addresses. -/
theorem Holds.requestReport (holds : registry.Holds config states) (accepted : config.Accepted)
    {source : String} {count : Nat} (fine : (registry.requestReport source).result = .ok count) :
    let outcome := registry.requestReport source
    let asked := registry.asked config source
    (outcome.state.Holds config fun key =>
        if key ∈ asked then ((states key).report none).state else states key) ∧
      outcome.state.keys = registry.keys ∧ count = asked.length ∧
      outcome.lines = asked.flatMap (fun key => ((states key).report none).lines) ∧
      ∀ key ∈ asked, ((states key).report none).result = .ok () := by
  intro outcome asked
  have known : asked ⊆ registry.keys := fun key member => (List.mem_filter.1 member).1
  have nodup : asked.Nodup := holds.nodup.filter _
  obtain ⟨state, lines, number, result, counted⟩ := holds.requestReport_eq accepted source
  obtain ⟨⟨⟩, whole, rfl⟩ := Outcome.mapResult_eq_ok.1 (result.symm.trans fine)
  obtain ⟨reached, -, after, keys, all⟩ := holds.reportEach accepted nodup known
  obtain rfl := all whole
  obtain ⟨written, each⟩ := (registry.reportEach_written _).2 whole
  rw [List.flatMap_map] at written
  exact ⟨state ▸ after, state ▸ keys, counted keys, lines.trans written,
    List.forall_mem_map.1 each⟩

/-! ### Runs -/

end Registry

namespace Config

variable {config : Config} {key : String}

/-- A further demand reaches the tracker of a key if it is for it and the tracker is there, or made
by it. -/
theorem routed_concat (demands : List Demand) (demand : Demand) :
    config.routed key (demands ++ [demand]) = config.routed key demands ++
      if (demands ++ [demand]).any (config.opens key) ∧ config.addresses key demand then [demand]
      else [] := by
  induction demands with
  | nil =>
    cases opened : config.opens key demand <;> cases addressed : config.addresses key demand <;>
      simp [routed, opened, addressed]
  | cons first rest ih =>
    cases opened : config.opens key first with
    | true =>
      simp only [routed, List.cons_append, List.dropWhile_cons, List.any_cons, opened,
        Bool.not_true, Bool.false_eq_true, if_false, Bool.true_or, true_and]
      rw [← List.cons_append, List.filter_append, List.filter_singleton, Bool.cond_eq_ite]
    | false => simpa [routed, opened] using ih

theorem standalone_concat (demands : List Demand) (demand : Demand) :
    config.standalone key (demands ++ [demand]) =
      if (demands ++ [demand]).any (config.opens key) ∧ config.addresses key demand then
        ((config.standalone key demands).serve demand).state
      else config.standalone key demands := by
  rw [standalone, routed_concat, List.foldl_append]
  split <;> rfl

theorem opens_iff {demand : Demand} :
    config.opens key demand ↔ demand.isReport = false ∧ config.keyOf demand.source = key := by
  simp [opens]

end Config

namespace Registry

variable {config : Config} {demands : List Demand} {registry : Registry}

/-- The trackers that some demands make, each as if it were alone. -/
structure Served (config : Config) (demands : List Demand) (registry : Registry) : Prop where
  holds : registry.Holds config fun key => config.standalone key demands
  mem_keys : ∀ key, key ∈ registry.keys ↔ demands.any (config.opens key)

theorem served_create (config : Config) : (create config).Served config [] where
  holds := holds_create config
  mem_keys := fun key => by simp [create, keys]

theorem Served.serve (served : registry.Served config demands) (accepted : config.Accepted)
    {demand : Demand}
    (whole : demand.isReport → ∃ answer, (registry.serve demand).result = .ok answer) :
    (registry.serve demand).state.Served config (demands ++ [demand]) := by
  cases kind : demand.isReport with
  | false =>
    have acts := served.holds.serve accepted kind
    have opens : ∀ key, config.opens key demand ↔ key = config.keyOf demand.source := by
      intro key
      rw [Config.opens_iff, eq_comm (b := key)]
      exact and_iff_right kind
    refine ⟨acts.holds.congr fun key => ?_, fun key => ?_⟩
    · rw [Config.standalone_concat]
      by_cases here : key = config.keyOf demand.source
      · subst here
        rw [Function.update_self, if_pos]
        simp [(opens _).2 rfl, Config.addresses]
      · rw [Function.update_of_ne here, if_neg]
        simp [Config.addresses, kind, Ne.symm here]
    · rw [acts.mem_keys, served.mem_keys, ← opens, List.any_append]
      simp
  | true =>
    obtain ⟨source, rfl⟩ := demand.eq_report kind
    have opens : ∀ key, (demands ++ [Demand.report source]).any (config.opens key) =
        demands.any (config.opens key) := by
      intro key
      simp [Config.opens, Demand.isReport]
    obtain ⟨answer, answered⟩ := whole rfl
    obtain ⟨count, fine, -⟩ := Outcome.mapResult_eq_ok.1 answered
    obtain ⟨holds, kept, -⟩ := served.holds.requestReport accepted fine
    refine ⟨holds.congr fun key => ?_, fun key => ?_⟩
    · simp only [Config.standalone_concat, opens, ← served.mem_keys, asked, List.mem_filter]
      exact if_congr Iff.rfl rfl rfl
    · rw [opens, ← served.mem_keys, ← kept]
      rfl

theorem ofDemands_concat (demands : List Demand) (demand : Demand) :
    ofDemands config (demands ++ [demand]) = ((ofDemands config demands).serve demand).state :=
  List.foldl_concat ..

theorem served_ofDemands (accepted : config.Accepted) (demands : List Demand)
    (whole : ∀ (n : Nat) (source : String), demands[n]? = some (.report source) →
      ∃ answer, ((ofDemands config (demands.take n)).serve (.report source)).result = .ok answer) :
    (ofDemands config demands).Served config demands := by
  induction demands using List.reverseRecOn with
  | nil => exact served_create config
  | append_singleton demands demand ih =>
    rw [ofDemands_concat]
    refine (ih fun n source there => ?_).serve accepted fun kind => ?_
    · have inside : n < demands.length := (List.getElem?_eq_some_iff.1 there).1
      have fine := whole n source (by rw [List.getElem?_append_left inside, there])
      rwa [List.take_append_of_le_length inside.le] at fine
    · obtain ⟨source, rfl⟩ := demand.eq_report kind
      have fine := whole demands.length source List.getElem?_concat_length
      rwa [List.take_left] at fine

/-- A registry is one tracker for each key that some demand has used, in the state of a tracker of
its own; it answers, fails and writes as that one does. Reports that fail are left out, since the
trackers that come after do not report then. -/
theorem registry_eq_standalone (accepted : config.Accepted) (demands : List Demand)
    (whole : ∀ (n : Nat) (source : String), demands[n]? = some (.report source) →
      ∃ answer, ((ofDemands config (demands.take n)).serve (.report source)).result = .ok answer) :
    let registry := ofDemands config demands
    (∀ key, registry.trackers.filter (fun tracker => tracker.source = key) =
      if demands.any (config.opens key) then [config.standalone key demands] else []) ∧
    (∀ demand : Demand, demand.isReport = false →
      let alone := (config.standalone (config.keyOf demand.source) demands).serve demand
      (registry.serve demand).result = alone.result ∧
        (registry.serve demand).lines = alone.lines) ∧
    ∀ source answer, (registry.serve (.report source)).result = .ok answer →
      let asked := registry.keys.filter fun key => config.addresses key (.report source)
      let alone := fun key => (config.standalone key demands).serve (.report source)
      answer = .reported asked.length ∧
        (registry.serve (.report source)).lines = asked.flatMap (fun key => (alone key).lines) ∧
        ∀ key ∈ asked, (alone key).result = .ok (.reported 1) := by
  intro registry
  have served : registry.Served config demands := served_ofDemands accepted demands whole
  refine ⟨?_, ?_, ?_⟩
  · intro key
    have keyed : (fun tracker : Tracker => decide (tracker.source = key)) ∘
        (fun key => config.standalone key demands) = fun other => decide (other = key) := by
      funext other
      simp only [Function.comp_apply, served.holds.source_eq accepted]
    rw [served.holds.trackers_eq, List.filter_map, keyed, filter_keys served.holds.nodup,
      apply_ite (List.map _)]
    exact if_congr (served.mem_keys key) rfl rfl
  · intro demand kind
    have acts := served.holds.serve accepted kind
    exact ⟨acts.result_eq, acts.lines_eq⟩
  · intro source answer answered asked alone
    obtain ⟨count, fine, rfl⟩ := Outcome.mapResult_eq_ok.1 answered
    obtain ⟨-, -, number, lines, each⟩ := served.holds.requestReport accepted fine
    refine ⟨congrArg Demand.Answer.reported number, lines, fun key member => ?_⟩
    exact Outcome.mapResult_eq_ok.2 ⟨(), each key member, rfl⟩

/-- Two sources of one group and one without. -/
def gates : Config :=
  { Config.standard with
    mergeSources := true, sourceGroups := [("north", "gates"), ("south", "gates")] }

theorem registry_eq_standalone_gates :
    let demands : List Demand :=
      [.arrive "north" ⟨"a", 253402293600000, false⟩,
        .consume ⟨"pier", "b", 600000, true, true⟩,
        .arrive "south" ⟨"c", 253402300800000, false⟩,
        .arrive "south" ⟨"d", 253402293600000, false⟩,
        .report everySource, .startLogger "north" 0]
    let registry := ofDemands gates demands
    gates.Accepted ∧
      (∀ (n : Nat) (source : String), demands[n]? = some (.report source) →
        ∃ answer, ((ofDemands gates (demands.take n)).serve (.report source)).result = .ok answer) ∧
      registry.trackers.filter (fun tracker => tracker.source = "gates") =
        [gates.standalone "gates" demands] ∧
      ((ofDemands gates (demands.take 2)).serve
        (.arrive "south" ⟨"c", 253402300800000, false⟩)).result = .error (.yearOutOfRange 10000) ∧
      (gates.routed "gates" demands).length = 5 ∧
      registry.trackers.filter (fun tracker => tracker.source = "north") = [] ∧
      ∀ source, ((gates.standalone "gates" demands).serve (.report source)).result =
        .ok (.reported 1) := by
  intro demands registry
  have accepted : gates.Accepted := ⟨by decide, rfl⟩
  have whole : ∀ (n : Nat) (source : String), demands[n]? = some (.report source) →
      ∃ answer,
        ((ofDemands gates (demands.take n)).serve (.report source)).result = .ok answer := by
    intro n source there
    match n with
    | 4 =>
      obtain rfl : everySource = source := by simpa [demands] using there
      exact ⟨.reported 2, by decide +kernel⟩
    | 0 | 1 | 2 | 3 | 5 => simp [demands] at there
    | n + 6 => simp [demands] at there
  obtain ⟨trackers, -, reports⟩ := registry_eq_standalone accepted demands whole
  refine ⟨accepted, whole, (trackers "gates").trans ?_, by decide +kernel, by decide,
    (trackers "north").trans ?_, ?_⟩
  · exact if_pos (by decide)
  · exact if_neg (by decide)
  · intro source
    have fine : (registry.serve (.report everySource)).result = .ok (.reported 2) := by
      decide +kernel
    exact (reports everySource _ fine).2.2 "gates" (by decide +kernel)

end Registry

end ArrivalRates
