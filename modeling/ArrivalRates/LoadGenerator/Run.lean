import ArrivalRates.LoadGenerator.Summary

/-!
# A run of the load generator

Waits for the service, sends a simulated stream in order of its time stamps and in batches, waits
until everything is processed, asks for a report, prints the summary and checks that the service
received as many events as were sent.
-/

namespace ArrivalRates.LoadGenerator

/-- Messages in the order of their written times; equal times keep their order. -/
def inTimeOrder (messages : List Message) : List Message :=
  messages.mergeSort fun a b => !decide (b.timestamp < a.timestamp)

def slices (size : Nat) : Nat → List α → List (List α)
  | 0, _ => []
  | fuel + 1, items =>
    if items.isEmpty then [] else items.take size :: slices size fuel (items.drop size)

/-- The batches of a stream; a size below one gives none. -/
def batches (size : Int) (messages : List α) : List (List α) :=
  if size < 1 then [] else slices size.toNat messages.length messages

def batchBody (batch : List Message) : Json := .arr (batch.map Message.toJson)

/-- Posts the batches one after the other; a batch that fails is given up. -/
def sendBatches (settings : Settings) :
    List (List Message) → Session → Except Interruption Unit × Session
  | [], session => (.ok (), session)
  | batch :: rest, session =>
    let posting := ⟨settings.publishUrl, batchBody batch, .null, retryDelay⟩
    match post posting retryLimit session with
    | (.error interruption, session) => (.error interruption, session)
    | (.ok _, session) => sendBatches settings rest session

def countLine (sources count : Nat) : String :=
  "INFO: Mengirim total " ++ padded 1 count ++ " event dari " ++ padded 1 sources ++ " source..."

def verified (status : Json) (sent : Nat) : Bool :=
  match (status.field? "received").bind Number.ofJson? with
  | some received => received.same (.int sent)
  | none => false

def reportAndCheck (settings : Settings) (sent : Nat) (status : Json) (session : Session) :
    Except Interruption Unit × Session :=
  let request := ⟨settings.reportUrl, .null, .obj [("source", .str "all")], retryDelay⟩
  match post request retryLimit session with
  | (.error interruption, session) => (.error interruption, session)
  | (.ok _, session) =>
    match printSummary status session with
    | (.error interruption, session) => (.error interruption, session)
    | (.ok (), session) =>
      if verified status sent then (.ok (), session.print "\nVerifikasi statistik berhasil! ✅")
      else (.error .unverified, session)

def conclude (settings : Settings) (sent : Nat) (session : Session) :
    Except Interruption Unit × Session :=
  match awaitProcessed settings (.int sent) session with
  | (.error interruption, session) => (.error interruption, session)
  | (.ok status, session) => reportAndCheck settings sent status session

/-- The size of a batch. A share of the whole is counted before the steps are, so zero is a
division by zero. -/
def batchSize (settings : Settings) : Except Failure Int := do
  match ← Settings.numberOf settings.batchSize with
  | .int 0 => throw .divisionByZero
  | .float x => throw (if x.toRat? = some 0 then .floorByZero else .wrongKind)
  | .int size => return size

def sendStream (settings : Settings) (sources : Nat) (messages : List Message)
    (session : Session) : Except Interruption Unit × Session :=
  let session := session.log (countLine sources messages.length)
  match batchSize settings with
  | .error failure => (.error (.failure failure), session)
  | .ok size =>
    let start := session.clock
    match sendBatches settings (batches size messages) session with
    | (.error interruption, session) => (.error interruption, session)
    | (.ok (), session) =>
      let seconds := session.clock.sub start
      conclude settings messages.length <|
        session.print ("\nSelesai mengirim " ++ padded 1 messages.length ++ " event dalam "
          ++ seconds.toFixed 2 ++ " detik.")

def runStream (settings : Settings) (now : Except Failure Timestamp) (draws : Draws) :
    Except Failure (Nat × List Message) := do
  let now ← now
  let length ← (← settings.simulation.simulatedHours).duration microsPerHour
  let start ← later now (-length)
  let messages ← stream settings.simulation start draws
  let sources ← settings.simulation.sources
  return (sources.length, inTimeOrder messages)

/-- A whole run. The present moment is asked for once the service can be reached. -/
def run (settings : Settings) (now : Except Failure Timestamp) (draws : Draws)
    (session : Session) : Except Interruption Unit × Session :=
  match awaitService settings session with
  | (.error interruption, session) => (.error interruption, session)
  | (.ok (), session) =>
    match runStream settings now draws with
    | .error failure => (.error (.failure failure), session)
    | .ok (sources, messages) => sendStream settings sources messages session

end ArrivalRates.LoadGenerator
