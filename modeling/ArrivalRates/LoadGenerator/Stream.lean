import ArrivalRates.Clock
import ArrivalRates.Number
import ArrivalRates.Timestamp.Iso

/-!
# Simulated streams

Messages of several sources over a simulated period. Each source walks through the period in
buckets of ten minutes with a fixed number of messages each; now and then it is out for an hour,
and its next message then says that the logger starts again. Chance comes in as two sequences of
draws.
-/

namespace ArrivalRates.LoadGenerator

/-- What decides how a stream looks. Sources and message ids may be values of any kind. A part that
is unfit for its purpose is the failure that comes of using it. -/
structure Simulation where
  sources : Except Failure (List Json) := .ok (["host-a", "host-b", "host-c"].map .str)
  messageIds : Except Failure (List Json) :=
    .ok ((List.range 200).map fun n => .str ("MSG" ++ padded 4 n))
  simulatedHours : Except Failure Number := .ok (.int 48)
  eventsPerBucket : Except Failure Number := .ok (.int 20)
  secondaryShare : Except Failure Number := .ok (.float (.ofDecimal false 10 (-2)))
  /-- The share of buckets in which a source goes out. -/
  outageShare : Except Failure Number := .ok (.float (.ofDecimal false 2 (-2)))

/-- The draws that were made so far out of two unending sequences. -/
structure Draws where
  rolls : Nat → Except Failure Number
  choices : Nat → Except Failure Int
  rolled : Nat := 0
  chosen : Nat := 0

namespace Draws

def roll (draws : Draws) : Except Failure (Number × Draws) :=
  (draws.rolls draws.rolled).map fun drawn => (drawn, { draws with rolled := draws.rolled + 1 })

/-- One of the items, by a position that may be any integer. -/
def choose (draws : Draws) (items : List α) : Except Failure (α × Draws) := do
  let position ← draws.choices draws.chosen
  match items[(position % items.length).toNat]? with
  | some item => return (item, { draws with chosen := draws.chosen + 1 })
  | none => throw .remainderByZero

end Draws

structure Message where
  source : Json
  messageId : Json
  timestamp : String
  secondary : Bool
  loggerStarting : Json

namespace Message

def toJson (message : Message) : Json :=
  .obj [ ("source", message.source), ("message_id", message.messageId),
    ("timestamp", .str message.timestamp), ("secondary", .bool message.secondary),
    ("logger_starting", message.loggerStarting) ]

end Message

/-- One message at a moment; the id is drawn before the kind. -/
def message (simulation : Simulation) (source : Json) (time : Timestamp) (starting : Json)
    (draws : Draws) : Except Failure (Message × Draws) := do
  let (messageId, draws) ← draws.choose (← simulation.messageIds)
  let (roll, draws) ← draws.roll
  let secondary := roll.lt (← simulation.secondaryShare)
  return (⟨source, messageId, time.render, secondary, starting⟩, draws)

def microsPerHour : Int := 3600000000

def later (time : Timestamp) (micros : Int) : Except Failure Timestamp :=
  match time.shift? micros with
  | some time => .ok time
  | none => .error .dateOutOfRange

def spacing (count : Int) : Except Failure Int := do
  let seconds ← quotient 600 count
  (Number.float seconds).duration 1000000

def wholeNumber : Number → Except Failure Int
  | .int n => .ok n
  | .float _ => .error .wrongKind

structure Walk where
  time : Timestamp
  restarting : Bool
  draws : Draws

def bucketMessages (simulation : Simulation) (source : Json) (step : Except Failure Int) :
    Nat → Walk → Except Failure (List Message × Walk)
  | 0, walk => .ok ([], walk)
  | count + 1, walk => do
    let micros ← step
    let time ← later walk.time micros
    let (first, draws) ← message simulation source time (.bool walk.restarting) walk.draws
    let (rest, walk) ← bucketMessages simulation source step count ⟨time, false, draws⟩
    return (first :: rest, walk)

/-- One round of a walk: an hour's outage or a bucket of messages. -/
def round (simulation : Simulation) (source : Json) (walk : Walk) :
    Except Failure (List Message × Walk) := do
  let (roll, draws) ← walk.draws.roll
  if roll.lt (← simulation.outageShare) then
    let time ← later walk.time microsPerHour
    return ([], ⟨time, true, draws⟩)
  else
    let count ← wholeNumber (← simulation.eventsPerBucket)
    bucketMessages simulation source (spacing count) count.toNat { walk with draws }

/-- Rounds until the end of the period, at most as many as the fuel says. -/
def sourceMessages (simulation : Simulation) (source : Json) (stop : Int) :
    Nat → Walk → Except Failure (List Message × Draws)
  | 0, walk => .ok ([], walk.draws)
  | fuel + 1, walk =>
    if walk.time.wall.micros < stop then do
      let (first, walk) ← round simulation source walk
      let (rest, draws) ← sourceMessages simulation source stop fuel walk
      return (first ++ rest, draws)
    else .ok ([], walk.draws)

/-- The messages of the sources one after the other. A round that moves at all moves a microsecond,
so the length of the period in microseconds is fuel enough. -/
def streamOf (simulation : Simulation) (start : Timestamp) :
    List Json → Draws → Except Failure (List Message × Draws)
  | [], draws => .ok ([], draws)
  | source :: rest, draws => do
    let length ← (← simulation.simulatedHours).duration microsPerHour
    let stop ← later start length
    let fuel := (stop.wall.micros - start.wall.micros).toNat + 1
    let (first, draws) ←
      sourceMessages simulation source stop.wall.micros fuel ⟨start, false, draws⟩
    let (others, draws) ← streamOf simulation start rest draws
    return (first ++ others, draws)

def stream (simulation : Simulation) (start : Timestamp) (draws : Draws) :
    Except Failure (List Message) := do
  let sources ← simulation.sources
  (streamOf simulation start sources draws).map (·.1)

end ArrivalRates.LoadGenerator
