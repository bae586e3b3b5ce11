import ArrivalRates.Failure
import ArrivalRates.Json.Basic

/-!
# Numbers of either kind

Integers and binary64 numbers side by side, as settings and answers hold them. They compare by
their exact values; a sum is an integer only if both terms are.
-/

namespace ArrivalRates

inductive Number where
  | int (n : Int)
  | float (x : Binary64)
  deriving DecidableEq, Repr

namespace Number

/-- The number in a JSON value; the truth values count as one and zero. -/
def ofJson? : Json → Option Number
  | .int n => some (.int n)
  | .float x => some (.float x)
  | .bool b => some (.int (if b then 1 else 0))
  | _ => none

def toJson : Number → Json
  | int n => .int n
  | float x => .float x

def toRat? : Number → Option Rat
  | int n => some n
  | float x => x.toRat?

/-- Strict order of the exact values; false as soon as one side is not a number. -/
def lt (a b : Number) : Bool :=
  match a.toRat?, b.toRat? with
  | some p, some q => decide (p < q)
  | none, none =>
    match a, b with
    | float x, float y => x.lt y
    | _, _ => false
  | none, some _ => a = float (.infinity true)
  | some _, none => b = float (.infinity false)

def same (a b : Number) : Bool :=
  match a.toRat?, b.toRat? with
  | some p, some q => decide (p = q)
  | none, none => decide (a = b) && decide (a ≠ float .nan)
  | _, _ => false

def le (a b : Number) : Bool := a.lt b || a.same b

/-- The nearest binary64 number; an integer past the largest one has none. -/
def toBinary64 : Number → Except Failure Binary64
  | float x => .ok x
  | int n =>
    match Binary64.ofInt n with
    | .infinity _ => .error .integerTooLarge
    | x => .ok x

def add (a b : Number) : Except Failure Number :=
  match a, b with
  | int m, int n => .ok (int (m + n))
  | a, b => do
    let x ← a.toBinary64
    let y ← b.toBinary64
    return float (x.add y)

def render : Number → String
  | int n => integerText n
  | float x => x.toShortest

def toFixed (places : Nat) (a : Number) : Except Failure String :=
  a.toBinary64.map fun x => x.toFixed places

/-- That many of a unit of `micros` microseconds, to the nearest microsecond. -/
def toMicros (micros : Int) : Number → Except Failure Int
  | int n => .ok (n * micros)
  | float .nan => .error .undefinedInteger
  | float (.infinity _) => .error .infiniteInteger
  | float x =>
    let (whole, part) := x.splitPoint
    let scaled := (Binary64.ofRat part).mul (Binary64.ofInt micros)
    .ok (whole * micros + nearestInt (scaled.toRat?.getD 0))

def maxDays : Nat := 999999999

/-- That many of a unit as a length of time, whose days have to fit a 32-bit count first. -/
def duration (unit : Int) (n : Number) : Except Failure Int := do
  let micros ← n.toMicros unit
  let days := micros / 86400000000
  if days < -2147483648 ∨ 2147483647 < days then throw .daysOutOfRange
  if maxDays < days.natAbs then throw (.tooManyDays days)
  return micros

end Number

end ArrivalRates
