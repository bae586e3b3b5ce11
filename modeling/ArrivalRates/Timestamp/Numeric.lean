import ArrivalRates.Calendar
import ArrivalRates.Text.Integer

/-!
# Moments as numbers

A number is a moment in seconds since 1970, or in milliseconds when it is too large for seconds:
`instantOfInteger?` is exact, `instantOfFloat?` takes the part behind the point from the binary64
number, and `instantOfText?` finds out which of the two a text is.
-/

namespace ArrivalRates

/-- Numbers of a larger size count milliseconds instead of seconds. -/
def secondsLimit : Rat := 20000000000

def microsPerUnit (q : Rat) : Int := if secondsLimit < Binary64.magnitude q then 1000 else 1000000

def supportedInstant? (micros : Int) : Option Int :=
  if (WallTime.mk micros).isSupported then some micros else none

def instantOfInteger? (n : Int) : Option Int := supportedInstant? (n * microsPerUnit n)

/-- The part behind the point is scaled in binary64 and then rounded, a half upward. -/
def instantOfFloat? (x : Binary64) : Option Int := do
  let q ← x.toRat?
  let unit := microsPerUnit q
  let part := (Binary64.ofRat (q - q.floor)).mul (.ofInt unit)
  supportedInstant? (q.floor * unit + (part.toRat?.getD 0 + 1 / 2).floor)

/-- The digits of a text and the power of ten they are to be multiplied by: a sign, digits with a
point among them, and then possibly `e` and another integer. -/
def decimal? (cs : List Char) : Option (Bool × Nat × Int) := do
  let isDigit := fun c => (Text.asciiDigit? c).isSome
  let value := fun (digits : List Char) => Text.ofDigits (digits.filterMap Text.asciiDigit?)
  let (negative, rest) := Text.splitSign cs
  let whole := rest.takeWhile isDigit
  let (places, tail) ←
    match rest.dropWhile isDigit with
    | '.' :: rest => some (rest.takeWhile isDigit, rest.dropWhile isDigit)
    | _ => none
  guard (!(whole.isEmpty && places.isEmpty))
  let power ←
    match tail with
    | [] => some 0
    | c :: rest =>
      if c = 'e' ∨ c = 'E' then
        let (below, digits) := Text.splitSign rest
        if !digits.isEmpty && digits.all isDigit then some (Text.signed below (value digits))
        else none
      else none
  some (negative, value (whole ++ places), power - places.length)

/-- The moment of a number in a text. Without a point it is an integer and has no exponent. -/
def instantOfText? (text : String) : Option Int :=
  let (negative, digits) := Text.splitSign text.toList
  if !digits.isEmpty && digits.all (fun c => (Text.asciiDigit? c).isSome) then
    instantOfInteger? (Text.signed negative (Text.ofDigits (digits.filterMap Text.asciiDigit?)))
  else
    match decimal? text.toList with
    | some (negative, digits, power) => instantOfFloat? (.ofDecimal negative digits power)
    | none => none

end ArrivalRates
