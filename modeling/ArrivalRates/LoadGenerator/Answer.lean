import ArrivalRates.Json.Arithmetic
import ArrivalRates.Json.Shown

/-!
# Answers to the load generator

What comes back for a request: a response, or the reason why there is none. A request that failed,
for whatever reason of the client's own, is one case; a delivery can deal with it, and with a
response whose length of time can be told. Anything else ends the run.
-/

namespace ArrivalRates.LoadGenerator

inductive Interruption where
  | failure (cause : Failure)
  | exhausted
  /-- A reason that nothing in the run deals with. -/
  | raised (name text : String)
  | missingField (name : String)
  | unreadableFormat (text : String)
  | unverified
  deriving Inhabited

inductive Answer where
  | response (status text elapsedMillis body : Json)
  /-- The request failed, perhaps because there was no connection. -/
  | refused (unconnected : Bool) (name text : String)
  /-- Something was raised that is no failed request. -/
  | ended (interruption : Interruption)
  deriving Inhabited

structure Response where
  status : Json
  text : Json
  latency : Binary64
  body : Json

inductive Sight where
  | response (found : Response)
  | refusal (unconnected : Bool) (name text : String)

def latency (elapsedMillis : Json) : Except Failure Binary64 := do
  match Number.ofJson? elapsedMillis with
  | none => throw .wrongKind
  | some n =>
    let micros ← n.duration 1000
    return (Binary64.quotient micros 1000000).mul (.ofInt 1000)

def Answer.look : Answer → Except Interruption Sight
  | .response status text elapsedMillis body =>
    match latency elapsedMillis with
    | .ok latency => .ok (.response ⟨status, text, latency, body⟩)
    | .error cause => .error (.failure cause)
  | .refused unconnected name text => .ok (.refusal unconnected name text)
  | .ended interruption => .error interruption

/-! ### Scripts

A script gives the reason of an answer by its name. It can name what the client library has at its
top, which are not all of the reasons why a request may fail. -/

inductive Reason where
  | refusal (unconnected : Bool)
  /-- A notice, which no delivery deals with. -/
  | notice
  | unfit
  | unknown
  deriving DecidableEq, Repr

namespace Reason

def refusals : List String :=
  ["HTTPError", "ReadTimeout", "RequestException", "Timeout", "TooManyRedirects", "URLRequired"]

def unconnectedRefusals : List String := ["ConnectionError", "ConnectTimeout"]

def notices : List String := ["DependencyWarning", "FileModeWarning", "RequestsDependencyWarning"]

def others : List String :=
  [ "JSONDecodeError", "NullHandler", "PreparedRequest", "Request", "Response", "Session",
    "adapters", "api", "auth", "certs", "check_compatibility", "codes", "compat", "cookies",
    "exceptions", "hooks", "logging", "models", "packages", "request", "session", "sessions",
    "ssl", "status_codes", "structures", "urllib3", "utils", "warnings" ]

def ofName (name : String) : Reason :=
  if unconnectedRefusals.contains name then refusal true
  else if refusals.contains name then refusal false
  else if notices.contains name then notice
  else if others.contains name then unfit
  else unknown

end Reason

def Answer.raised : Json → Json → Answer
  | .str name, text =>
    match Reason.ofName name with
    | .refusal unconnected => .refused unconnected name text.shown
    | .notice => .ended (.raised name text.shown)
    | .unfit => .ended (.failure .wrongKind)
    | .unknown => .ended (.failure .missingAttribute)
  | _, _ => .ended (.failure .wrongKind)

end ArrivalRates.LoadGenerator
