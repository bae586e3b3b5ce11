import ArrivalRates.LoadGenerator.Answer
import ArrivalRates.LoadGenerator.Settings

/-!
# Delivery

The load generator talks to a service it cannot rely on: an answer may carry any status, or none
may come at all. `post` tries a few times with a pause after each failure, `awaitProcessed` looks at
the progress until everything is processed, and `awaitService` waits for the first connection. The
answers to come are part of the session, and so is what the client makes of their statuses; it also
keeps what was asked, slept and logged.
-/

namespace ArrivalRates.LoadGenerator

inductive Call where
  | get (url : Json) (timeout : Int)
  | post (url body params : Json) (timeout : Int)
  | sleep (seconds : Json)

/-- A status from 400 on is a failure, which is how scripts have it; the client library leaves those
from 600 on alone. -/
def failedFrom400 (status : Json) : Except Failure (Option String) := do
  if ← status.atLeast (.int 400) then return some ("status " ++ status.shown) else return none

structure Session where
  gets : List Answer
  /-- The last of these answers comes again and again. -/
  posts : List Answer
  /-- The failure that the client makes of a status, if it makes one. -/
  failed : Json → Except Failure (Option String) := failedFrom400
  clock : Binary64 := .zero false
  calls : List Call := []
  logs : List String := []
  printed : String := ""

namespace Session

def call (session : Session) (made : Call) : Session :=
  { session with calls := session.calls ++ [made] }

def log (session : Session) (record : String) : Session :=
  { session with logs := session.logs ++ [record] }

def print (session : Session) (text : String) : Session :=
  { session with printed := session.printed ++ text ++ "\n" }

def clockAfter (session : Session) (seconds : Json) : Except Failure Binary64 := do
  match Number.ofJson? seconds with
  | some n => return session.clock.add (← n.toBinary64)
  | none => throw .wrongKind

/-- Time passes only by sleeping. -/
def sleep (session : Session) (seconds : Json) : Except Interruption Unit × Session :=
  let called := session.call (.sleep seconds)
  match session.clockAfter seconds with
  | .ok clock => (.ok (), { called with clock })
  | .error cause => (.error (.failure cause), called)

def nextPost (session : Session) : Except Interruption Answer × Session :=
  match session.posts with
  | [] => (.error .exhausted, session)
  | [answer] => (.ok answer, session)
  | answer :: rest => (.ok answer, { session with posts := rest })

end Session

def retryLimit : Int := 3

def retryDelay : Json := .int 1

def postTimeout : Int := 10

structure Posting where
  url : Json
  body : Json
  params : Json
  delay : Json

def Response.isSuccess (response : Response) : Bool := response.status.same (.int 200)

/-- What comes of one attempt: the latency of a success, or a record of the log. -/
def attempt (number : Nat) (answer : Answer) : Except Interruption (Binary64 ⊕ String) := do
  let name := "Attempt " ++ padded 1 number ++ ": "
  match ← answer.look with
  | .refusal _ _ text => return .inr ("ERROR: " ++ name ++ text)
  | .response found =>
    if found.isSuccess then return .inl found.latency
    else
      return .inr
        ("WARNING: " ++ name ++ "status " ++ found.status.shown ++ " - " ++ found.text.shown)

/-- Attempts from a number on, as many as are left; the latency of the first success. -/
def attempts (posting : Posting) :
    Nat → Nat → Session → Except Interruption (Option Binary64) × Session
  | 0, _, session => (.ok none, session)
  | left + 1, number, session =>
    let (answer, session) :=
      (session.call (.post posting.url posting.body posting.params postTimeout)).nextPost
    match answer.bind (attempt number) with
    | .error interruption => (.error interruption, session)
    | .ok (.inl latency) => (.ok (some latency), session)
    | .ok (.inr record) =>
      match (session.log record).sleep posting.delay with
      | (.error interruption, session) => (.error interruption, session)
      | (.ok (), session) => attempts posting left (number + 1) session

/-- Posts until an answer of status 200 comes or the attempts are used up. -/
def post (posting : Posting) (retries : Int) (session : Session) :
    Except Interruption (Option Binary64) × Session :=
  attempts posting retries.toNat 1 session

/-- A count in the status of the service; zero when it is not there. -/
def countOf (status : Json) (name : String) : Except Failure Json :=
  match status with
  | .obj _ => .ok ((status.field? name).getD (.int 0))
  | _ => .error .missingAttribute

def processed (status : Json) : Except Failure Json := do
  let recorded ← countOf status "recorded"
  let dropped ← countOf status "dropped"
  recorded.plus dropped

/-- A count as the log shows it; integers have a limit. -/
def shownCount : Json → Except Failure String
  | .int n =>
    if Text.maxDigits < (Nat.toDigits 10 n.natAbs).length then .error .tooManyDigits
    else .ok (integerText n)
  | count => .ok count.shown

/-- The status of the service if everything is processed, else a record of the log. -/
def progressOf (failed : Json → Except Failure (Option String)) (total : Json)
    (response : Response) : Except Failure (Json ⊕ String) := do
  match ← failed response.status with
  | some text => return .inr ("WARNING: Gagal ambil stats: " ++ text)
  | none =>
    let count ← processed response.body
    if ← count.atLeast total then return .inl response.body
    return .inr ("INFO: Progress: " ++ (← shownCount count) ++ "/" ++ total.shown ++ " ...")

def progress (failed : Json → Except Failure (Option String)) (total : Json) (answer : Answer) :
    Except Interruption (Json ⊕ String) := do
  match ← answer.look with
  | .refusal _ _ text => return .inr ("WARNING: Gagal ambil stats: " ++ text)
  | .response found => (progressOf failed total found).mapError .failure

/-- Looks at the status of the service, with a pause in between, until all is processed. -/
def pollStatus (settings : Settings) (total : Json) :
    List Answer → Session → Except Interruption Json × Session
  | [], session => (.error .exhausted, { session.call (.get settings.statsUrl 5) with gets := [] })
  | answer :: rest, session =>
    let session := { session.call (.get settings.statsUrl 5) with gets := rest }
    match progress session.failed total answer with
    | .error interruption => (.error interruption, session)
    | .ok (.inl status) =>
      (.ok status, session.log "INFO: Semua event telah diproses ✅")
    | .ok (.inr record) =>
      match (session.log record).sleep settings.pollInterval with
      | (.error interruption, session) => (.error interruption, session)
      | (.ok (), session) => pollStatus settings total rest session

def awaitProcessed (settings : Settings) (total : Json) (session : Session) :
    Except Interruption Json × Session :=
  let session := session.log "INFO: Menunggu semua event diproses oleh consumer..."
  pollStatus settings total session.gets session

/-- Asks until the service can be reached; any answer will do. -/
def pollService (settings : Settings) :
    List Answer → Session → Except Interruption Unit × Session
  | [], session => (.error .exhausted, { session.call (.get settings.statsUrl 3) with gets := [] })
  | answer :: rest, session =>
    let session := { session.call (.get settings.statsUrl 3) with gets := rest }
    match answer.look with
    | .error interruption => (.error interruption, session)
    | .ok (.response _) => (.ok (), session.log "INFO: Service siap ✅")
    | .ok (.refusal false name text) => (.error (.raised name text), session)
    | .ok (.refusal true _ _) =>
      match session.sleep (.int 2) with
      | (.error interruption, session) => (.error interruption, session)
      | (.ok (), session) => pollService settings rest session

def awaitService (settings : Settings) (session : Session) : Except Interruption Unit × Session :=
  let session :=
    session.log ("INFO: Menunggu service siap di " ++ settings.serviceUrl.shown ++ "...")
  pollService settings session.gets session

end ArrivalRates.LoadGenerator
