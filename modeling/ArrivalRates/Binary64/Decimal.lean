import ArrivalRates.Binary64.Basic

/-!
# Decimal text of binary64 numbers

Three ways between a datum and decimal digits: a fixed number of places, the shortest digits that
read back, and reading. All of them work on the exact value, so each rounds at most once.
-/

namespace ArrivalRates

/-- Decimal digits of `n`, filled up with zeros on the left to `width` characters. -/
def padded (width n : Nat) : String :=
  let digits := Nat.toDigits 10 n
  String.ofList (List.replicate (width - digits.length) '0' ++ digits)

def integerText (n : Int) : String :=
  if n < 0 then "-" ++ padded 1 n.natAbs else padded 1 n.natAbs

namespace Binary64

private def signText (negative : Bool) : String := if negative then "-" else ""

/-- The text with exactly `places` digits after the point, a half going to the even digit. -/
def toFixed (places : Nat) : Binary64 → String
  | nan => "nan"
  | infinity negative => signText negative ++ "inf"
  | finite negative mantissa exponent =>
    let units := (nearestInt ((mantissa : Rat) * (2 : Rat) ^ exponent * 10 ^ places)).toNat
    let one := Nat.pow 10 places
    let whole := signText negative ++ padded 1 (units / one)
    if places = 0 then whole else whole ++ "." ++ padded places (units % one)

def roundPlaces (places : Nat) : Binary64 → Binary64
  | finite negative mantissa exponent =>
    let units := nearestInt ((mantissa : Rat) * (2 : Rat) ^ exponent * 10 ^ places)
    roundMagnitude negative ((units : Rat) / 10 ^ places)
  | x => x

/-- Past these powers of ten every decimal is infinite or zero. -/
def decimalRange : Int := 400

def ofDecimal (negative : Bool) (digits : Nat) (exponent : Int) : Binary64 :=
  let highest := ((Nat.toDigits 10 digits).length : Int) + exponent
  if digits = 0 then zero negative
  else if decimalRange < highest then infinity negative
  else if highest < -decimalRange then zero negative
  else roundMagnitude negative ((digits : Rat) * (10 : Rat) ^ exponent)

/-- The exponent of the highest power of ten that is not above a positive `q`. -/
def floorLog10 (q : Rat) : Int :=
  if 1 ≤ q then ((Nat.toDigits 10 q.floor.toNat).length : Int) - 1
  else
    let shift := ((List.range 400).find? (fun n => decide (1 ≤ q * (10 : Rat) ^ n))).getD 0
    0 - (shift : Int)

/-- The neighbours of `q` with `count` significant digits that read back as `x`, nearest first. -/
private def decimalNeighbours (x : Binary64) (q : Rat) (count : Nat) : List (Nat × Int) :=
  let exponent := floorLog10 q - count + 1
  let scaled := q / (10 : Rat) ^ exponent
  let below := scaled.floor.toNat
  let nearest := (nearestInt scaled).toNat
  let other := if nearest = below then below + 1 else below
  ([nearest, other].map fun digits => (digits, exponent)).filter fun (digits, exponent) =>
    decide (ofDecimal false digits exponent = x)

/-- The fewest significant digits that read back as the magnitude of a nonzero datum. -/
def shortestDigits (x : Binary64) : Nat × Int :=
  let q := magnitude (x.toRat?.getD 0)
  let size := roundMagnitude false q
  match ((List.range 17).flatMap fun n => decimalNeighbours size q (n + 1)).head? with
  | some found => found
  | none => (0, 0)

private def trimZeros (digits : List Char) : List Char :=
  (digits.reverse.dropWhile (· = '0')).reverse

/-- The shortest text that reads back: positional from `1e-4` up to `1e16`, always with a point. -/
def toShortest : Binary64 → String
  | nan => "nan"
  | infinity negative => signText negative ++ "inf"
  | finite negative mantissa exponent =>
    if mantissa = 0 then signText negative ++ "0.0"
    else
      let (digits, power) := shortestDigits (finite negative mantissa exponent)
      let text := Nat.toDigits 10 digits
      let point : Int := text.length + power
      let text := trimZeros text
      let body : List Char :=
        if point < -3 ∨ 16 < point then
          let tail := if text.length = 1 then [] else '.' :: text.drop 1
          let power := point - 1
          let sign := if power < 0 then ['-'] else ['+']
          text.take 1 ++ tail ++ ['e'] ++ sign ++ (padded 2 power.natAbs).toList
        else if point ≤ 0 then
          ['0', '.'] ++ List.replicate (-point).toNat '0' ++ text
        else if (text.length : Int) ≤ point then
          text ++ List.replicate (point.toNat - text.length) '0' ++ ['.', '0']
        else text.take point.toNat ++ ['.'] ++ text.drop point.toNat
      signText negative ++ String.ofList body

end Binary64

end ArrivalRates
