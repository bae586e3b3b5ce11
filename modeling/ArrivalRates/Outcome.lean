import ArrivalRates.Failure

/-!
# Outcomes of operations

An operation on a state answers with the state it leaves behind, its result or the cause of its
failure, and what it wrote on the way. A failure undoes nothing: the state is what the steps before
it made, and what they wrote stays written. `andThen` puts two operations one after the other.
-/

namespace ArrivalRates

/-- Something written: a line for the sink of the reports, or a record of the log. -/
inductive Entry where
  | line (text : String)
  | info (text : String)
  | warning (text : String)
  deriving DecidableEq, Repr

namespace Entry

def line? : Entry → Option String
  | line text => some text
  | _ => none

def logRecord? : Entry → Option String
  | line _ => none
  | info text => some ("INFO: " ++ text)
  | warning text => some ("WARNING: " ++ text)

end Entry

structure Outcome (σ α : Type) where
  state : σ
  result : Except Failure α
  entries : List Entry

namespace Outcome

def done (state : σ) (value : α) : Outcome σ α := ⟨state, .ok value, []⟩

def failed (state : σ) (failure : Failure) : Outcome σ α := ⟨state, .error failure, []⟩

/-- The second operation runs on the state that the first one left, if that one did not fail. -/
def andThen (first : Outcome σ α) (second : σ → α → Outcome σ β) : Outcome σ β :=
  match first.result with
  | .error failure => ⟨first.state, .error failure, first.entries⟩
  | .ok value =>
    let rest := second first.state value
    ⟨rest.state, rest.result, first.entries ++ rest.entries⟩

def mapState (outcome : Outcome σ α) (f : σ → τ) : Outcome τ α :=
  ⟨f outcome.state, outcome.result, outcome.entries⟩

def lines (outcome : Outcome σ α) : List String := outcome.entries.filterMap Entry.line?

@[simp] theorem done_andThen (state : σ) (value : α) (second : σ → α → Outcome σ β) :
    (done state value).andThen second = second state value := by
  simp [done, andThen]

theorem andThen_of_ok {first : Outcome σ α} {value : α} (h : first.result = .ok value)
    (second : σ → α → Outcome σ β) :
    first.andThen second =
      ⟨(second first.state value).state, (second first.state value).result,
        first.entries ++ (second first.state value).entries⟩ := by
  simp only [andThen, h]

theorem andThen_of_error {first : Outcome σ α} {failure : Failure}
    (h : first.result = .error failure) (second : σ → α → Outcome σ β) :
    first.andThen second = ⟨first.state, .error failure, first.entries⟩ := by
  simp only [andThen, h]

end Outcome

end ArrivalRates
