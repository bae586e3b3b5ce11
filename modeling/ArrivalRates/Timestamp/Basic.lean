import ArrivalRates.Calendar
import ArrivalRates.Text.Integer

/-!
# Timestamps

A timestamp is a wall time with an optional offset from UTC. `Timestamp.parse?` reads the written
form, a date with or without a time of day; `Timestamp.render` writes it, with a fraction only when
there is one.
-/

namespace ArrivalRates

structure Timestamp where
  wall : WallTime
  /-- Microseconds east of UTC. -/
  offset : Option Int
  deriving DecidableEq, Repr

namespace Timestamp

/-- Exactly `count` ASCII digits at the start, as a number, and what follows. -/
def fixedDigits? (count : Nat) (cs : List Char) : Option (Nat × List Char) :=
  let digits := (cs.take count).filterMap Text.asciiDigit?
  if digits.length = count then some (Text.ofDigits digits, cs.drop count) else none

def char? (c : Char) : List Char → Option (List Char)
  | d :: rest => if d = c then some rest else none
  | [] => none

def date? (cs : List Char) : Option (Day × List Char) := do
  let (year, cs) ← fixedDigits? 4 cs
  let cs ← char? '-' cs
  let (month, cs) ← fixedDigits? 2 cs
  let cs ← char? '-' cs
  let (day, cs) ← fixedDigits? 2 cs
  let found ← civilDay? year month day
  some (found, cs)

/-- The fraction of a second behind a point or a comma, cut to microseconds. -/
def fraction? (cs : List Char) : Option (Nat × List Char) :=
  match cs with
  | c :: rest =>
    if c = '.' ∨ c = ',' then
      let digits := (rest.takeWhile fun c => (Text.asciiDigit? c).isSome).filterMap Text.asciiDigit?
      if !digits.isEmpty then
        let micros := (digits ++ List.replicate 6 0).take 6
        some (Text.ofDigits micros, rest.drop digits.length)
      else none
    else some (0, cs)
  | [] => some (0, [])

/-- Hours and minutes, then possibly seconds with a fraction: microseconds of the day. -/
def timeOfDay? (cs : List Char) : Option (Nat × List Char) := do
  let (hour, cs) ← fixedDigits? 2 cs
  let cs ← char? ':' cs
  let (minute, cs) ← fixedDigits? 2 cs
  guard (hour < 24 ∧ minute < 60)
  let start := (hour * 60 + minute) * 60
  match char? ':' cs with
  | none => some (start * 1000000, cs)
  | some cs =>
    let (second, cs) ← fixedDigits? 2 cs
    guard (second < 60)
    let (micros, cs) ← fraction? cs
    some ((start + second) * 1000000 + micros, cs)

def isMinus (c : Char) : Bool := c = '-' || c = '\u2212'

/-- The offset at the end of the text; no text means no offset. -/
def offset? (cs : List Char) : Option (Option Int) :=
  match cs with
  | [] => some none
  | ['Z'] | ['z'] => some (some 0)
  | c :: rest =>
    if c = '+' || isMinus c then do
      let (hours, rest) ← fixedDigits? 2 rest
      let (minutes, rest) ← fixedDigits? 2 ((char? ':' rest).getD rest)
      guard (hours < 24 ∧ minutes < 60 ∧ rest.isEmpty)
      let micros := (hours * 60 + minutes) * 60 * WallTime.microsPerSecond
      some (some (if isMinus c then -micros else micros))
    else none

def isSeparator (c : Char) : Bool := c = 'T' || c = 't' || c = ' ' || c = '_'

def parse? (text : String) : Option Timestamp := do
  let (day, cs) ← date? text.toList
  match cs with
  | [] => some ⟨WallTime.midnight day, none⟩
  | c :: cs =>
    guard (isSeparator c)
    let (micros, cs) ← timeOfDay? cs
    let offset ← offset? cs
    some ⟨⟨(WallTime.midnight day).micros + micros⟩, offset⟩

/-- Microseconds since 1970 in UTC; without an offset the wall time is UTC. -/
def instant (time : Timestamp) : Int :=
  time.wall.micros - time.offset.getD 0

/-- Hours and minutes of an offset, and what is smaller as far as it is there. -/
def renderOffset (offset : Int) : String :=
  let micros := offset.natAbs % 1000000
  let size := offset.natAbs / 1000000
  let fraction := if micros = 0 then "" else "." ++ padded 6 micros
  let seconds := if size % 60 = 0 ∧ micros = 0 then "" else ":" ++ padded 2 (size % 60)
  (if offset < 0 then "-" else "+") ++ padded 2 (size / 3600) ++ ":" ++ padded 2 (size / 60 % 60)
    ++ seconds ++ fraction

def render (time : Timestamp) : String :=
  let wall := time.wall
  let fraction := if wall.microsecond = 0 then "" else "." ++ padded 6 wall.microsecond
  let offset :=
    match time.offset with
    | none => ""
    | some offset => renderOffset offset
  padded 4 wall.day.year.toNat ++ "-" ++ padded 2 wall.day.month ++ "-"
    ++ padded 2 wall.day.dayOfMonth ++ "T" ++ padded 2 wall.hour ++ ":" ++ padded 2 wall.minute
    ++ ":" ++ padded 2 wall.second ++ fraction ++ offset

/-- Moves the wall clock by microseconds; `none` when it leaves the supported years. -/
def shift? (time : Timestamp) (micros : Int) : Option Timestamp :=
  let wall : WallTime := ⟨time.wall.micros + micros⟩
  if wall.isSupported then some ⟨wall, time.offset⟩ else none

end Timestamp

end ArrivalRates
