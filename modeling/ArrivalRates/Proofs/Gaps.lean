import ArrivalRates.Proofs.FailedCalls

/-!
# What a notice of a gap covers

A notice is about the whole buckets between the arrival that came last and the one to come. It says
nothing about arrivals that came before the last one, and arrivals may come late: a late arrival
takes the place of the last one, though what was recorded after its moment stays recorded. So the
buckets of a notice are empty as long as nothing was recorded past the bucket boundary that follows
the last arrival, and only then.
-/

namespace ArrivalRates

/-! ### Whole buckets -/

def bucketStart (moment : Int) : Int := moment / bucketMillis * bucketMillis

/-- The start of the first bucket that begins at a moment or later. -/
def nextBucket (moment : Int) : Int := bucketStart (moment + (bucketMillis - 1))

theorem bucketStart_spec (moment : Int) :
    bucketStart moment ≤ moment ∧ moment < bucketStart moment + bucketMillis := by
  unfold bucketStart bucketMillis
  omega

theorem nextBucket_spec (moment : Int) :
    moment ≤ nextBucket moment ∧ nextBucket moment < moment + bucketMillis := by
  unfold nextBucket bucketStart bucketMillis
  omega

namespace Gap

def spanning (previous next : Int) : Gap where
  skipped := (bucketStart next - nextBucket previous) / bucketMillis
  previous := previous
  start := nextBucket previous
  stop := bucketStart next

/-- The whole buckets between two moments, of which there is at least one. -/
structure Between (previous next : Int) (gap : Gap) : Prop where
  previous_eq : gap.previous = previous
  start_eq : gap.start = nextBucket previous
  stop_eq : gap.stop = bucketStart next
  skipped_eq : gap.skipped * bucketMillis = gap.stop - gap.start
  nonempty : gap.start < gap.stop

theorem between_spanning {previous next : Int} (apart : nextBucket previous < bucketStart next) :
    (spanning previous next).Between previous next := by
  refine ⟨rfl, rfl, rfl, ?_, apart⟩
  unfold spanning nextBucket bucketStart bucketMillis
  dsimp only
  omega

theorem Between.eq_spanning {previous next : Int} {gap : Gap}
    (between : gap.Between previous next) : gap = spanning previous next := by
  have count : (gap.stop - gap.start) / bucketMillis = gap.skipped := by
    rw [← between.skipped_eq, Int.mul_ediv_cancel _ (by decide)]
  rw [spanning, ← between.start_eq, ← between.stop_eq, count, ← between.previous_eq]

/-- Whether a moment lies in the buckets of a gap, past their start. -/
def Covers (gap : Gap) (moment : Int) : Prop := gap.start < moment ∧ moment < gap.stop

end Gap

namespace Window

theorem bucketCeil_eq (moment : Int) :
    bucketCeil bucketMillis moment = .ok (nextBucket moment) := by
  rw [bucketCeil, if_neg (by decide), Int.fmod_eq_emod_of_nonneg _ (by decide),
    Int.fdiv_eq_ediv_of_nonneg _ (by decide), Except.ok.injEq]
  unfold nextBucket bucketStart bucketMillis
  split <;> omega

variable {window : Window} {next : Int}

theorem gapBefore_eq (buckets : window.bucket = bucketMillis) (next : Int) :
    window.gapBefore next = .ok (window.lastEvent.bind fun previous =>
      if nextBucket previous < bucketStart next then some (.spanning previous next)
      else none) := by
  unfold gapBefore
  cases window.lastEvent with
  | none => rfl
  | some previous =>
    have apart : (bucketStart next - nextBucket previous) / bucketMillis ≤ 0 ↔
        ¬nextBucket previous < bucketStart next := by
      unfold nextBucket bucketStart bucketMillis
      omega
    simp only [buckets, bucketCeil_eq, Arrivals.floorDiv_bucketMillis, bind, Except.bind, pure,
      Except.pure, Option.bind_some]
    rw [← bucketStart, if_congr apart rfl rfl, ite_not]
    rfl

/-- There is a gap exactly if a whole bucket lies between the last arrival and the next one. -/
theorem gapBefore_iff (buckets : window.bucket = bucketMillis) {gap : Gap} :
    window.gapBefore next = .ok (some gap) ↔
      ∃ previous, window.lastEvent = some previous ∧ gap.Between previous next := by
  rw [gapBefore_eq buckets, Except.ok.injEq, Option.bind_eq_some_iff]
  refine exists_congr fun previous => and_congr_right fun _ => ?_
  constructor
  · intro found
    split at found
    next apart => exact Option.some.inj found ▸ Gap.between_spanning apart
    · cases found
  · intro between
    have apart := between.nonempty
    rw [between.start_eq, between.stop_eq] at apart
    rw [if_pos apart, between.eq_spanning]

end Window

namespace Tracker

/-- What is written when a logger starts again is the notice of the gap before it. -/
theorem mem_lines_markLoggerStarting {tracker : Tracker} {next : Int} {line : String} :
    line ∈ (tracker.markLoggerStarting next).lines ↔
      ∃ gap, tracker.window.gapBefore next = .ok (some gap) ∧ tracker.gapNotice gap = .ok line := by
  unfold markLoggerStarting
  split
  next failure found => simp [Outcome.failed, Outcome.lines, found]
  next found => simp [Outcome.done, Outcome.lines, found]
  next gap found =>
    have same : ({ tracker with gapNotices := tracker.gapNotices + 1 } : Tracker).gapNotice gap =
        tracker.gapNotice gap := rfl
    dsimp only
    rw [same]
    split
    next failure unshown => simp [Outcome.failed, Outcome.lines, found, unshown]
    next text shown => simp [Outcome.lines, Entry.line?, found, shown, eq_comm]

end Tracker

/-! ### The last arrival -/

namespace Tracker

variable {source : String} {config : Config} {recorded : List Arrival} {closed : List Int}
  {tracker : Tracker} {arrival : Arrival} {moment : Int}

theorem Advance.lastEvent_eq {outcome : Outcome Tracker Unit}
    (advance : Advance tracker moment outcome) :
    outcome.state.window.lastEvent = tracker.window.lastEvent := by
  cases advance with
  | unstarted | opened | stayed => rfl
  | moved placed past due =>
    rw [due.window_eq]
    rfl

/-- Each arrival becomes the last one, whether it is recorded or not and even if its call fails. -/
theorem Delivery.lastEvent_eq {outcome : Outcome Tracker Bool}
    (delivery : Delivery tracker arrival outcome) :
    outcome.state.window.lastEvent = some arrival.moment := by
  cases delivery with
  | failed advance => exact advance.lastEvent_eq
  | answered advance => exact advance.lastEvent_eq

end Tracker

namespace Ledger

variable {source : String} {config : Config}

theorem lastEvent_ofCalls (accepted : config.Accepted) (calls : List Call) :
    (ofCalls source config calls).tracker.window.lastEvent =
      (calls.filterMap Call.arrival?).getLast?.map (·.moment) := by
  induction calls using List.reverseRecOn with
  | nil => rfl
  | append_singleton calls call ih =>
    have sound : (ofCalls source config calls).Sound source config := sound_ofCalls accepted calls
    rw [ofCalls_concat, List.filterMap_append]
    rcases call.arrive_or_other with ⟨arrival, rfl⟩ | other
    · have latest : [Call.arrive arrival].filterMap Call.arrival? = [arrival] := rfl
      rw [latest, List.getLast?_concat]
      exact (Tracker.Tallies.deliver sound accepted arrival).1.lastEvent_eq
    · obtain ⟨_, _, tracker⟩ := (ofCalls source config calls).tracker_other other
      rw [tracker, List.filterMap_cons_none other, List.filterMap_nil, List.append_nil]
      exact ih

/-- The buckets of all notices are without recorded arrivals exactly if none was recorded past the
bucket boundary that follows the last arrival; so they are if no arrival came late. -/
theorem gaps_uncovered_iff (source : String) (accepted : config.Accepted) (calls : List Call)
    {last : Arrival} (delivered : (calls.filterMap Call.arrival?).getLast? = some last) :
    let run := ofCalls source config calls
    let gapBefore := run.tracker.window.gapBefore
    (∀ next gap, gapBefore next = .ok (some gap) ↔ gap.Between last.moment next) ∧
      (∀ next line, line ∈ (run.tracker.markLoggerStarting next).lines →
        ∃ gap, gap.Between last.moment next ∧ run.tracker.gapNotice gap = .ok line) ∧
      ((∀ next gap, gapBefore next = .ok (some gap) →
          ∀ other ∈ run.recorded, ¬gap.Covers other.moment) ↔
        ∀ other ∈ run.recorded, other.moment ≤ nextBucket last.moment) ∧
      ((∀ other ∈ run.recorded, other.moment ≤ last.moment) →
        ∀ next gap, gapBefore next = .ok (some gap) →
          ∀ other ∈ run.recorded, ¬gap.Covers other.moment) := by
  intro run gapBefore
  have sound : run.Sound source config := sound_ofCalls accepted calls
  have previous : run.tracker.window.lastEvent = some last.moment := by
    rw [lastEvent_ofCalls accepted, delivered]
    rfl
  have found : ∀ next gap, gapBefore next = .ok (some gap) ↔ gap.Between last.moment next := by
    intro next gap
    rw [Window.gapBefore_iff sound.bucket_eq, previous]
    simp
  have uncovered : (∀ other ∈ run.recorded, other.moment ≤ nextBucket last.moment) →
      ∀ next gap, gapBefore next = .ok (some gap) →
        ∀ other ∈ run.recorded, ¬gap.Covers other.moment := by
    intro bounded next gap before other member covered
    have start := ((found next gap).1 before).start_eq
    exact absurd (bounded other member) (not_le.2 (start ▸ covered.1))
  refine ⟨found, ?_, ⟨?_, uncovered⟩, ?_⟩
  · intro next line written
    obtain ⟨gap, before, shown⟩ := Tracker.mem_lines_markLoggerStarting.1 written
    exact ⟨gap, (found next gap).1 before, shown⟩
  · intro empty other member
    by_contra past
    -- a logger that starts two buckets after the arrival is told of a gap around it
    let next := other.moment + 2 * bucketMillis
    have reached : other.moment < bucketStart next := by
      have high := (bucketStart_spec next).2
      unfold next bucketMillis at *
      omega
    have between := Gap.between_spanning ((not_le.1 past).trans reached)
    exact empty next _ ((found _ _).2 between) other member ⟨not_le.1 past, reached⟩
  · intro inOrder
    refine uncovered fun other member => ?_
    exact (inOrder other member).trans (nextBucket_spec last.moment).1

/-- A late arrival: the notice that follows it covers the one that was recorded before. -/
theorem gap_covers_recorded :
    let run := ofCalls "gate" Config.standard
      [.arrive ⟨"a", 600001, false⟩, .arrive ⟨"b", 60000, false⟩]
    let gap : Gap := ⟨1, 60000, 600000, 1200000⟩
    Config.standard.Accepted ∧ run.failures = [] ∧
      run.tracker.window.gapBefore 1200000 = .ok (some gap) ∧
      (run.tracker.markLoggerStarting 1200000).lines =
        ["gate, 01/01/1970 00:01:00, Logger Unavailable For (10 min intervals)=1, " ++
          "emptyIntervalStart=01/01/1970 00:10:00, emptyIntervalEnd=01/01/1970 00:20:00"] ∧
      ∃ other ∈ run.recorded, gap.Covers other.moment := by
  intro run gap
  have recorded : run.recorded = [⟨"a", 600001, false⟩, ⟨"b", 60000, false⟩] := by
    decide +kernel
  refine ⟨⟨by decide, rfl⟩, by decide +kernel, by decide +kernel, by decide +kernel, ?_⟩
  rw [recorded]
  exact ⟨_, List.mem_cons_self, by decide, by decide⟩

/-- The same arrivals in order: the notice begins after both. -/
theorem gaps_uncovered_in_order :
    let calls : List Call := [.arrive ⟨"b", 60000, false⟩, .arrive ⟨"a", 600001, false⟩]
    let run := ofCalls "gate" Config.standard calls
    let gap : Gap := ⟨1, 600001, 1200000, 1800000⟩
    Config.standard.Accepted ∧
      (calls.filterMap Call.arrival?).getLast? = some ⟨"a", 600001, false⟩ ∧
      run.tracker.window.gapBefore 1800000 = .ok (some gap) ∧
      ∀ other ∈ run.recorded, ¬gap.Covers other.moment := by
  intro calls run gap
  have accepted : Config.standard.Accepted := ⟨by decide, rfl⟩
  have delivered : (calls.filterMap Call.arrival?).getLast? = some ⟨"a", 600001, false⟩ := rfl
  have before : run.tracker.window.gapBefore 1800000 = .ok (some gap) := by decide +kernel
  have recorded : run.recorded = [⟨"b", 60000, false⟩, ⟨"a", 600001, false⟩] := by
    decide +kernel
  obtain ⟨-, -, -, in_order⟩ := gaps_uncovered_iff "gate" accepted calls delivered
  refine ⟨accepted, delivered, before, in_order ?_ 1800000 gap before⟩
  show ∀ other ∈ run.recorded, _
  simp [recorded]

end Ledger

end ArrivalRates
