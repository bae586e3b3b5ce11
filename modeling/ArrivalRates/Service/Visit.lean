import ArrivalRates.Service.Http

/-!
# Visits to the service

A caller makes requests one after the other and waits after each until the service has no work left.
A request that cannot even be made ends the visit. `Service.visit` runs the service as a client
does; what is proved of the service holds in any order of requests and work, not along visits only.
-/

namespace ArrivalRates

structure Draft where
  method : Json
  reference : Json
  /-- Parameters that count instead of those in the reference, unless they are null. -/
  query : Json
  body : String

namespace Draft

inductive Fault where
  | target (fault : Target.Fault)
  | referenceNotText
  | methodNotText
  deriving DecidableEq, Repr

def request (draft : Draft) : Except Fault Request :=
  match draft.reference with
  | .str reference => do
    let target ← (Target.resolve reference draft.query).mapError .target
    match draft.method with
    | .str method => return ⟨method, target, draft.body⟩
    | _ => throw .methodNotText
  | _ => .error .referenceNotText

end Draft

/-- What a caller sees of one request: the reply, and the lines that went to the sink until all work
was done. -/
structure Exchange where
  result : Except Failure Reply
  lines : List String

namespace Service

def exchange (assignment : Assignment) (service : Service) (request : Request) :
    Service × Exchange :=
  let outcome := (service.handle assignment request).andThen fun service reply =>
    service.drain.andThen fun service () => .done service reply
  (outcome.state, ⟨outcome.result, outcome.lines⟩)

/-- The exchanges of a visit, the service after it, and what ended it early. -/
def visit (assignment : Assignment) :
    Service → List Draft → Service × List Exchange × Except Draft.Fault Unit
  | service, [] => (service, [], .ok ())
  | service, draft :: rest =>
    match draft.request with
    | .error fault => (service, [], .error fault)
    | .ok request =>
      let (service, first) := service.exchange assignment request
      let (service, exchanges, ending) := visit assignment service rest
      (service, first :: exchanges, ending)

end Service

end ArrivalRates
