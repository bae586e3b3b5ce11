import ArrivalRates.Failure
import ArrivalRates.Validation

/-!
# Arrival events

One log message of one source at one moment, as a publisher reports it.
-/

namespace ArrivalRates

structure Event where
  source : String
  messageId : String
  /-- Milliseconds since 1970. -/
  arrival : Int
  secondary : Bool := false
  loggerStarting : Bool := false
  deriving DecidableEq, Repr

namespace Event

/-- The millisecond that contains a moment given in microseconds. -/
def arrivalOfInstant (micros : Int) : Int := micros / 1000

open Validation in
def decode (value : Json) : Checked Event :=
  match value with
  | .obj _ => do
    let source := required value "source" nonEmptyText
    let messageId := required value "message_id" nonEmptyText
    let instant := required value "timestamp" instant
    let secondary := optional value "secondary" false boolean
    let loggerStarting := optional value "logger_starting" false boolean
    let (source, messageId, instant, secondary, loggerStarting) ←
      both source (both messageId (both instant (both secondary loggerStarting)))
    return ⟨source, messageId, arrivalOfInstant instant, secondary, loggerStarting⟩
  | _ => fail .notRecord

def load : Json → Except Failure (Validation.Checked Event)
  | .obj fields => .ok (decode (.obj fields))
  | _ => .error .wrongKind

end Event

end ArrivalRates
