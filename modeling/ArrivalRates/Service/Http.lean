import ArrivalRates.Description
import ArrivalRates.Json.Encoding
import ArrivalRates.Service.Basic
import ArrivalRates.Service.Target

/-!
# Requests and replies

The HTTP face of the service: events are published, reports asked for, and the latest lines and the
status read. `Service.handle` answers one request; `Reply.code` and `Reply.content` say how an
answer looks from outside. Beside its own paths the service has pages about itself, whose content is
no part of this library.
-/

namespace ArrivalRates

structure Request where
  method : String
  target : Target
  /-- The text of the body, empty if there is none. -/
  body : String

inductive Reply where
  | queued (count : Nat)
  | reported (trackers : Nat)
  | lines (recent : List String)
  | status (current : Service.Status)
  | unknownSource (source : String)
  | notFound
  | methodNotAllowed
  | unreadableBody
  | invalid (found : List Validation.Issue)
  | internalError
  | bare (code : Nat)

namespace Validation

namespace Place

def toJson : Place → Json
  | key name => .str name
  | index position => .int position

end Place

namespace Issue

def toJson (issue : Issue) : Json :=
  .obj [("loc", .arr (issue.path.map Place.toJson)), ("type", .str issue.cause.code)]

end Issue

end Validation

namespace Service.Status

def toJson (number : Binary64 → Json) (status : Status) : Json :=
  .obj [ ("received", .int status.totals.received),
    ("recorded", .int status.totals.recorded),
    ("dropped", .int status.totals.dropped),
    ("drop_rate", number (status.dropRate.getD (.zero false))),
    ("gap_notices", .int status.gapNotices),
    ("reports_emitted", .int status.reportsEmitted),
    ("trackers", .arr (status.trackers.map fun tracker => tracker.toJson number)) ]

end Service.Status

namespace Reply

def code : Reply → Nat
  | queued _ | reported _ | lines _ | status _ => 200
  | unreadableBody => 400
  | unknownSource _ | notFound => 404
  | methodNotAllowed => 405
  | invalid _ => 422
  | internalError => 500
  | bare code => code

private def detail (value : Json) : Json := .obj [("detail", value)]

/-- The body of a reply; one that is no JSON is its text. -/
def content (number : Binary64 → Json) : Reply → Json
  | queued count => .obj [("status", .str "queued"), ("received_count", .int count)]
  | reported trackers => .obj [("status", .str "reported"), ("trackers", .int trackers)]
  | lines recent => .obj [("lines", .arr (recent.map Json.str))]
  | status current => current.toJson number
  | unknownSource source => detail (.str ("No rate tracker for source " ++ source))
  | notFound => detail (.str "Not Found")
  | methodNotAllowed => detail (.str "Method Not Allowed")
  | unreadableBody => detail (.str "There was an error parsing the body")
  | invalid found => detail (.arr (found.map Validation.Issue.toJson))
  | internalError => .str "Internal Server Error"
  | bare _ => .str ""

end Reply

namespace Service

open Validation

/-- One event or a list of events; when it is neither, the issues of both readings. -/
def decodeEvents (value : Json) : Checked (List Event) :=
  match Event.decode value, list Event.decode value with
  | .ok event, _ => .ok [event]
  | _, .ok events => .ok events
  | .error single, .error many =>
    within (.key "body")
      (.error (issues (within (.key "MessageEvent") (.error single : Checked Unit))
        ++ issues (within (.key "list[MessageEvent]") (.error many : Checked Unit))))

/-- The most lines that one request may ask for, and the number without a wish. -/
def defaultLines : Int := 100

/-- The value of a parameter; the last one counts if there are several. -/
def queryText? (request : Request) (name : String) : Option String :=
  ((request.target.parameters.filter (·.1 = name)).getLast?).map (·.2)

def decodeSource (request : Request) : Checked String :=
  match queryText? request "source" with
  | none => .ok everySource
  | some source => within (.key "query") (within (.key "source") (nonEmptyText (.str source)))

def decodeLimit (request : Request) : Checked Int :=
  match queryText? request "limit" with
  | none => .ok defaultLines
  | some limit =>
    within (.key "query")
      (within (.key "limit") (atMost recentLimit (atLeast 1 (integerOfText limit))))

/-- How many lists and objects may stand inside one another in a body. -/
def maxBodyDepth : Nat := 962

/-- How many of them an answer can show. -/
def maxShownDepth : Nat := 957

def isShowable (body : Json) : Bool := body.isWritable && body.depth ≤ maxShownDepth

/-- Publishes the events of a body. The answer to a body with issues shows the body again, so one
that cannot be shown makes the answer fail. -/
def handlePublish (assignment : Assignment) (service : Service) (request : Request) :
    Outcome Service Reply :=
  if request.body.isEmpty then
    .done service (.invalid [⟨[.key "body"], .missing⟩])
  else
    match (Json.symbols? request.body).map (Json.parse maxBodyDepth) with
    | some (.error .malformed) => .done service (.invalid [⟨[.key "body"], .malformedJson⟩])
    | none | some (.error _) => .done service .unreadableBody
    | some (.ok value) =>
      match decodeEvents value with
      | .error issues =>
        .done service (if isShowable value then .invalid issues else .internalError)
      | .ok events => .done (service.publish assignment events) (.queued events.length)

/-- A report of a source that no tracker counts is refused. -/
def answerReport (service : Service) (source : String) : Outcome Service Reply :=
  if source ≠ everySource ∧ (service.registry.get? source).isNone then
    .done service (.unknownSource source)
  else
    let outcome := service.lift (service.registry.requestReport source)
    match outcome.result with
    | .ok count => ⟨outcome.state, .ok (.reported count), outcome.entries⟩
    | .error _ => ⟨outcome.state, .ok .internalError, outcome.entries⟩

/-- A report is answered once the queues are empty. -/
def handleReport (service : Service) (request : Request) : Outcome Service Reply :=
  match decodeSource request with
  | .error issues => .done service (.invalid issues)
  | .ok source => service.drain.andThen fun service () => service.answerReport source

def handleLines (service : Service) (request : Request) : Outcome Service Reply :=
  match decodeLimit request with
  | .error issues => .done service (.invalid issues)
  | .ok limit =>
    .done service (.lines (service.recent.drop (service.recent.length - limit.toNat)))

def handleStatus (service : Service) : Outcome Service Reply :=
  match service.status with
  | .ok status => .done service (.status status)
  | .error _ => .done service .internalError

inductive Endpoint where
  | publish
  | report
  | lines
  | status
  | page
  deriving DecidableEq, Repr

namespace Endpoint

def methods : Endpoint → List String
  | publish | report => ["POST"]
  | lines | status => ["GET"]
  | page => ["GET", "HEAD"]

def routes : List (String × Endpoint) :=
  [ ("/publish", publish), ("/report", report), ("/reports", lines), ("/stats", status),
    ("/openapi.json", page), ("/docs", page), ("/docs/oauth2-redirect", page), ("/redoc", page) ]

/-- The endpoint of a path; a line break at its end does not count. -/
def ofPath? (path : List Char) : Option Endpoint :=
  let path :=
    match path.getLast? with
    | some '\n' => path.dropLast
    | _ => path
  (routes.find? (·.1.toList = path)).map (·.2)

/-- Whether a path leads somewhere once the slashes at its end are taken away. -/
def isRedirected (path : List Char) : Bool :=
  path.getLast? = some '/' && (ofPath? (path.reverse.dropWhile (· = '/')).reverse).isSome

end Endpoint

def capital : Char → List Char
  | 'ſ' => ['S']
  | 'ﬅ' | 'ﬆ' => ['S', 'T']
  | c => [c.toUpper]

def capitals (method : String) : String := String.ofList (method.toList.flatMap capital)

def serve (assignment : Assignment) (service : Service) (request : Request) :
    Endpoint → Outcome Service Reply
  | .publish => service.handlePublish assignment request
  | .report => service.handleReport request
  | .lines => service.handleLines request
  | .status => service.handleStatus
  | .page => .done service (.bare 200)

/-- The answer to a request with a body, whichever method it has. -/
def respond (assignment : Assignment) (service : Service) (request : Request) :
    Outcome Service Reply :=
  let path := request.target.path.toList
  match Endpoint.ofPath? path with
  | none => .done service (if Endpoint.isRedirected path then .bare 307 else .notFound)
  | some endpoint =>
    if endpoint.methods.contains (capitals request.method) then
      service.serve assignment request endpoint
    else .done service .methodNotAllowed

/-- The answer to one request; no request makes the service itself fail. Methods are the same in
capital and small letters, and `HEAD` is answered without a body. -/
def handle (assignment : Assignment) (service : Service) (request : Request) :
    Outcome Service Reply :=
  (service.respond assignment request).andThen fun service reply =>
    .done service (if capitals request.method = "HEAD" then .bare reply.code else reply)

end Service

end ArrivalRates
