import ArrivalRates.Failure
import ArrivalRates.Text.Integer

/-!
# Report frequencies

How often a scheduled report is written and the statistics are reset: every so many days, or with
every calendar month. `Frequency.parse` reads the short written form.
-/

namespace ArrivalRates

inductive Frequency where
  | days (count : Int)
  | monthly
  deriving DecidableEq, Repr

namespace Frequency

def defaultDays : Int := 10

def render : Frequency → String
  | days count => "DAYS(" ++ integerText count ++ ")"
  | monthly => "MONTHLY"

/-- Nothing stands for the default, a word for months, a positive integer for days. -/
def parse (text : Option String) : Except Failure Frequency :=
  let body := Text.strip Text.isBlank (text.getD "").toList
  if body.isEmpty then .ok (days defaultDays)
  else if body.map Char.toLower = "monthly".toList then .ok monthly
  else
    match Text.integer? body with
    | none => .error (.invalidFrequency (String.ofList body))
    | some count => if count < 1 then .error (.nonPositiveFrequency count) else .ok (days count)

end Frequency

end ArrivalRates
