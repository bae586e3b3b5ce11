import ArrivalRates.Proofs.Calls

/-!
# Calls that only observe

A report out of schedule and the notice of a gap read the tracker and count what was written. No
call reads these two numbers: with other numbers it comes out the same and adds the same to them.
So the calls that count no arrivals can be left out of a run, and every other call still has the
result it had, writes what it wrote and leaves the state it left, up to the two numbers.
-/

namespace ArrivalRates

namespace Tracker

/-- The tracker that has written some more reports and notices. -/
def shifted (reports gaps : Nat) (tracker : Tracker) : Tracker :=
  tracker.withNotices (tracker.reportsEmitted + reports) (tracker.gapNotices + gaps)

theorem shifted_shifted (tracker : Tracker) (reports gaps reports' gaps' : Nat) :
    (tracker.shifted reports gaps).shifted reports' gaps' =
      tracker.shifted (reports + reports') (gaps + gaps') := by
  simp only [shifted, withNotices, Nat.add_assoc]

/-- An operation that does not depend on what has been written so far. -/
def Unaware (operation : Tracker → Outcome Tracker α) : Prop :=
  ∀ reports gaps tracker, operation (shifted reports gaps tracker) =
    (operation tracker).mapState (shifted reports gaps)

theorem Unaware.andThen {first : Tracker → Outcome Tracker α}
    {second : Tracker → α → Outcome Tracker β} (unaware : Unaware first)
    (rest : ∀ value, Unaware fun tracker => second tracker value) :
    Unaware fun tracker => (first tracker).andThen second := by
  intro reports gaps tracker
  have before := unaware reports gaps tracker
  cases result : (first tracker).result with
  | error failure =>
    simp only [before, Outcome.mapState, Outcome.andThen, result]
  | ok value =>
    have after := rest value reports gaps (first tracker).state
    simp only [before, Outcome.mapState, Outcome.andThen, result, after]

theorem unaware_done (value : α) : Unaware fun tracker => .done tracker value :=
  fun _ _ _ => rfl

theorem unaware_failed (failure : Failure) :
    Unaware fun tracker => (.failed tracker failure : Outcome Tracker α) :=
  fun _ _ _ => rfl

/-! ### Calls that count nothing -/

theorem unaware_writeReport (stamp : String) :
    Unaware fun tracker => tracker.writeReport stamp := by
  intro reports gaps tracker
  cases whole : (reportLines tracker.source stamp tracker.statistics).2.isOk <;>
    simp [writeReport, shifted, withNotices, Outcome.mapState, whole, Nat.add_right_comm]

theorem unaware_report (stamp : Option String) :
    Unaware fun tracker => tracker.report stamp := by
  intro reports gaps tracker
  cases stamp with
  | some stamp => exact unaware_writeReport stamp reports gaps tracker
  | none =>
    have same : (tracker.shifted reports gaps).lastEventStamp = tracker.lastEventStamp := rfl
    simp only [report, same]
    cases tracker.lastEventStamp with
    | error failure => rfl
    | ok stamp => exact unaware_writeReport stamp reports gaps tracker

theorem unaware_markLoggerStarting (next : Int) :
    Unaware fun tracker => tracker.markLoggerStarting next := by
  intro reports gaps tracker
  have same : (tracker.shifted reports gaps).window.gapBefore next =
      tracker.window.gapBefore next := rfl
  simp only [markLoggerStarting, same]
  cases tracker.window.gapBefore next with
  | error failure => rfl
  | ok found =>
    cases found with
    | none => rfl
    | some gap =>
      have notice : ∀ notices,
          ({ tracker.shifted reports gaps with gapNotices := notices } : Tracker).gapNotice gap =
            tracker.gapNotice gap := fun _ => rfl
      have notice' : ({ tracker with gapNotices := tracker.gapNotices + 1 } :
          Tracker).gapNotice gap = tracker.gapNotice gap := rfl
      simp only [notice, notice']
      cases tracker.gapNotice gap <;>
        simp [Outcome.failed, Outcome.mapState, shifted, withNotices, Nat.add_right_comm]

/-! ### Arrivals -/

theorem unaware_emitScheduled (decision : Decision) :
    Unaware fun tracker => tracker.emitScheduled decision := by
  unfold emitScheduled
  cases endOfPreviousDay decision.day with
  | error failure => exact unaware_failed failure
  | ok time =>
    refine (unaware_writeReport time.stamp).andThen fun _ reports gaps tracker => ?_
    cases decision.reset <;> rfl

theorem unaware_reportIfDue (moment : Int) :
    Unaware fun tracker => tracker.reportIfDue moment := by
  intro reports gaps tracker
  have same : (tracker.shifted reports gaps).schedule = tracker.schedule := rfl
  simp only [reportIfDue, same]
  cases tracker.schedule.decisionAt moment with
  | error failure => rfl
  | ok decision =>
    dsimp only
    split
    · exact unaware_emitScheduled decision reports gaps tracker
    · rfl

theorem unaware_openWindow (moment : Int) :
    Unaware fun tracker => tracker.openWindow moment := by
  intro reports gaps tracker
  have same : (tracker.shifted reports gaps).window = tracker.window ∧
      (tracker.shifted reports gaps).schedule = tracker.schedule := ⟨rfl, rfl⟩
  simp only [openWindow, same]
  cases tracker.window.openAt moment with
  | error failure => rfl
  | ok window =>
    dsimp only
    cases tracker.schedule.start ((window.span.map Span.start).getD moment) <;> rfl

theorem unaware_rollover : Unaware rollover := by
  intro reports gaps tracker
  have same : (tracker.shifted reports gaps).window = tracker.window ∧
      (tracker.shifted reports gaps).config = tracker.config := ⟨rfl, rfl⟩
  simp only [rollover, same]
  cases tracker.window.rollup tracker.config.sizes <;> rfl

theorem unaware_advance (moment : Int) : Unaware fun tracker => tracker.advance moment := by
  intro reports gaps tracker
  have same : (tracker.shifted reports gaps).window = tracker.window := rfl
  simp only [advance, same]
  cases tracker.window.span with
  | none => exact unaware_openWindow moment reports gaps tracker
  | some span =>
    dsimp only
    split
    · rfl
    · have moved : Unaware fun tracker => (tracker.moveWindow span moment).reportIfDue moment :=
        fun reports gaps tracker =>
          unaware_reportIfDue moment reports gaps (tracker.moveWindow span moment)
      exact unaware_rollover.andThen (fun _ => moved) reports gaps tracker

theorem unaware_deliver (arrival : Arrival) : Unaware fun tracker => tracker.deliver arrival := by
  have noted : Unaware fun tracker => (tracker.noted arrival.moment).advance arrival.moment :=
    fun reports gaps tracker =>
      unaware_advance arrival.moment reports gaps (tracker.noted arrival.moment)
  have counted : Unaware fun tracker => tracker.counted arrival := fun _ _ _ => rfl
  exact noted.andThen fun _ => counted

/-! ### Calls of every kind -/

theorem unaware_perform (call : Call) : Unaware fun tracker => tracker.perform call := by
  cases call with
  | arrive arrival => exact unaware_deliver arrival
  | startLogger next =>
    exact (unaware_markLoggerStarting next).andThen fun _ => unaware_done false
  | report stamp => exact (unaware_report stamp).andThen fun _ => unaware_done false

theorem state_report (tracker : Tracker) (stamp : Option String) :
    ∃ reports, (tracker.report stamp).state = tracker.shifted reports 0 := by
  have written : ∀ stamp, ∃ reports,
      (tracker.writeReport stamp).state = tracker.shifted reports 0 := by
    intro stamp
    cases whole : (reportLines tracker.source stamp tracker.statistics).2.isOk with
    | false => exact ⟨0, by simp [writeReport, shifted, withNotices, whole]⟩
    | true => exact ⟨1, by simp [writeReport, shifted, withNotices, whole]⟩
  unfold report
  split
  · exact written _
  · split
    · exact ⟨0, rfl⟩
    · exact written _

/-- A call that counts nothing leaves the tracker as it was, up to what it has written. -/
theorem perform_other (tracker : Tracker) {call : Call} (other : call.arrival? = none) :
    ∃ reports gaps, (tracker.perform call).state = tracker.shifted reports gaps := by
  cases call with
  | arrive arrival => cases other
  | startLogger next =>
    rw [perform_startLogger, markLoggerStarting]
    split
    · exact ⟨0, 0, rfl⟩
    · exact ⟨0, 0, rfl⟩
    · refine ⟨0, 1, ?_⟩
      dsimp only
      split <;> rfl
  | report stamp =>
    rw [perform_report]
    obtain ⟨reports, state⟩ := tracker.state_report stamp
    exact ⟨reports, 0, state⟩

end Tracker

/-! ### Runs -/

def Call.isArrival (call : Call) : Bool := call.arrival?.isSome

structure Performed where
  call : Call
  outcome : Outcome Tracker Bool

/-- A call came out the same in two runs: its result, what it wrote and the state it left, except
for the numbers of reports and notices written in all. -/
structure Performed.Same (full kept : Performed) : Prop where
  call_eq : full.call = kept.call
  result_eq : full.outcome.result = kept.outcome.result
  entries_eq : full.outcome.entries = kept.outcome.entries
  state : ∃ reports gaps, full.outcome.state = kept.outcome.state.shifted reports gaps

namespace Tracker

/-- The calls of a run one after the other, with their outcomes. -/
def transcript (tracker : Tracker) : List Call → List Performed
  | [] => []
  | call :: rest =>
    ⟨call, tracker.perform call⟩ :: (tracker.perform call).state.transcript rest

def after (tracker : Tracker) (calls : List Call) : Tracker :=
  calls.foldl (fun tracker call => (tracker.perform call).state) tracker

theorem perform_shifted (tracker : Tracker) (reports gaps : Nat) (call : Call) :
    (tracker.shifted reports gaps).perform call =
      (tracker.perform call).mapState (shifted reports gaps) :=
  unaware_perform call reports gaps tracker

/-- The run of the arrivals alone goes along with the whole run, which is ahead of it by the reports
and notices that were written out of schedule. -/
theorem arrivals_along (calls : List Call) (tracker : Tracker) (reports gaps : Nat) :
    List.Forall₂ Performed.Same
        (((tracker.shifted reports gaps).transcript calls).filter (·.call.isArrival))
        (tracker.transcript (calls.filter Call.isArrival)) ∧
      ∃ reports' gaps', (tracker.shifted reports gaps).after calls =
        (tracker.after (calls.filter Call.isArrival)).shifted reports' gaps' := by
  -- each call that is left out adds to the lead, so the induction is over every lead
  induction calls generalizing tracker reports gaps with
  | nil => exact ⟨.nil, reports, gaps, rfl⟩
  | cons call rest ih =>
    rw [transcript, after, List.foldl_cons, perform_shifted]
    cases kept : call.isArrival with
    | true =>
      obtain ⟨outcomes, state⟩ := ih (tracker.perform call).state reports gaps
      simp only [List.filter_cons, kept, if_true, transcript, after, List.foldl_cons]
      exact ⟨.cons ⟨rfl, rfl, rfl, reports, gaps, rfl⟩ outcomes, state⟩
    | false =>
      have other : call.arrival? = none := by simpa [Call.isArrival] using kept
      obtain ⟨more, more', left⟩ := tracker.perform_other other
      simp only [List.filter_cons, kept, Bool.false_eq_true, if_false, Outcome.mapState, left,
        shifted_shifted]
      exact ih tracker (more + reports) (more' + gaps)

theorem mem_transcript {calls : List Call} {tracker : Tracker} {performed : Performed}
    (member : performed ∈ tracker.transcript calls) :
    ∃ before call, performed = ⟨call, Tracker.perform before call⟩ := by
  induction calls generalizing tracker with
  | nil => cases member
  | cons call rest ih =>
    rcases List.mem_cons.1 member with rfl | later
    · exact ⟨tracker, call, rfl⟩
    · exact ih later

/-- Whatever calls are made on a tracker, those that only observe can be left out: each arrival has
the result it had, writes what it wrote and leaves the tracker as it did, except for the numbers of
reports and notices. The calls left out wrote nothing but lines. -/
theorem observers_removable (tracker : Tracker) (calls : List Call) :
    List.Forall₂ Performed.Same
        ((tracker.transcript calls).filter (·.call.isArrival))
        (tracker.transcript (calls.filter Call.isArrival)) ∧
      (∃ reports gaps, tracker.after calls =
        (tracker.after (calls.filter Call.isArrival)).shifted reports gaps) ∧
      ∀ performed ∈ tracker.transcript calls, performed.call.isArrival = false →
        ∃ lines : List String, performed.outcome.entries = lines.map .line := by
  obtain ⟨outcomes, state⟩ := arrivals_along calls tracker 0 0
  refine ⟨outcomes, state, fun performed member other => ?_⟩
  obtain ⟨earlier, call, rfl⟩ := mem_transcript member
  exact (noticed_perform _ (by simpa [Call.isArrival] using other)).entries

end Tracker

end ArrivalRates
