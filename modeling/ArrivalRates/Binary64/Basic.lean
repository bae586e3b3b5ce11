/-!
# Binary64 numbers

Floating-point data of 53 bits of precision, kept as sign, mantissa and exponent, so that every
operation is exact rational arithmetic followed by one rounding to the nearest datum, a tie going
to the even mantissa. `ofRat` is that rounding; the operations below add only what the signs of
zeros, the infinities and the undefined results need.
-/

namespace ArrivalRates

/-- A finite datum stands for `mantissa * 2 ^ exponent` with its sign. -/
inductive Binary64 where
  | nan
  | infinity (negative : Bool)
  | finite (negative : Bool) (mantissa : Nat) (exponent : Int)
  deriving DecidableEq, Repr, Inhabited

/-- The integer nearest to `q`, a half going to the even neighbour. -/
def nearestInt (q : Rat) : Int :=
  let below := q.floor
  if q - below < 1 / 2 then below
  else if 1 / 2 < q - below then below + 1
  else below + below % 2

namespace Binary64

/-- Bits of a mantissa, the leading one included. -/
def precision : Nat := 53

def leadingBit : Nat := 4503599627370496

def minExponent : Int := -1074

def maxExponent : Int := 971

/-- The exponent of the highest power of two that is not above a positive `q`. -/
def floorLog2 (q : Rat) : Int :=
  let estimate : Int := (Nat.log2 q.num.toNat : Int) - (Nat.log2 q.den : Int)
  if q < (2 : Rat) ^ estimate then estimate - 1 else estimate

/-- A mantissa that rounding carried to twice the leading bit is one binary place too long. -/
def pack (negative : Bool) (mantissa : Nat) (exponent : Int) : Binary64 :=
  let (mantissa, exponent) :=
    if mantissa = 2 * leadingBit then (leadingBit, exponent + 1) else (mantissa, exponent)
  if maxExponent < exponent then infinity negative else finite negative mantissa exponent

def zero (negative : Bool) : Binary64 := finite negative 0 minExponent

/-- The spacing of the data around a positive `q`, as an exponent of two. -/
def quantumExponent (q : Rat) : Int :=
  max (floorLog2 q - (precision - 1 : Nat)) minExponent

/-- Rounds the magnitude `q`; past the largest finite datum the result is infinite. -/
def roundMagnitude (negative : Bool) (q : Rat) : Binary64 :=
  if q ≤ 0 then zero negative
  else
    let exponent := quantumExponent q
    pack negative (nearestInt (q / (2 : Rat) ^ exponent)).toNat exponent

def magnitude (q : Rat) : Rat := if q < 0 then -q else q

/-- The datum nearest to `q`; zero is positive. -/
def ofRat (q : Rat) : Binary64 := roundMagnitude (q < 0) (magnitude q)

def ofInt (n : Int) : Binary64 := ofRat n

def toRat? : Binary64 → Option Rat
  | finite negative mantissa exponent =>
    let size := (mantissa : Rat) * (2 : Rat) ^ exponent
    some (if negative then -size else size)
  | _ => none

def neg : Binary64 → Binary64
  | nan => nan
  | infinity negative => infinity (!negative)
  | finite negative mantissa exponent => finite (!negative) mantissa exponent

/-- A sum that vanishes is the negative zero only if both terms are. -/
def add (x y : Binary64) : Binary64 :=
  match x, y with
  | nan, _ | _, nan => nan
  | infinity a, infinity b => if a = b then infinity a else nan
  | infinity a, finite .. => infinity a
  | finite .., infinity b => infinity b
  | finite a m e, finite b n f =>
    let sum := ((finite a m e).toRat?.getD 0) + ((finite b n f).toRat?.getD 0)
    if sum = 0 then zero (a && b) else ofRat sum

def sub (x y : Binary64) : Binary64 := add x (neg y)

def mul (x y : Binary64) : Binary64 :=
  match x, y with
  | nan, _ | _, nan => nan
  | infinity a, infinity b => infinity (a ^^ b)
  | infinity a, finite b n _ => if n = 0 then nan else infinity (a ^^ b)
  | finite a m _, infinity b => if m = 0 then nan else infinity (a ^^ b)
  | finite a m e, finite b n f =>
    roundMagnitude (a ^^ b) (((m : Rat) * (2 : Rat) ^ e) * ((n : Rat) * (2 : Rat) ^ f))

def div (x y : Binary64) : Binary64 :=
  match x, y with
  | nan, _ | _, nan => nan
  | infinity _, infinity _ => nan
  | infinity a, finite b _ _ => infinity (a ^^ b)
  | finite a _ _, infinity b => zero (a ^^ b)
  | finite a m e, finite b n f =>
    if n = 0 then if m = 0 then nan else infinity (a ^^ b)
    else roundMagnitude (a ^^ b) (((m : Rat) * (2 : Rat) ^ e) / ((n : Rat) * (2 : Rat) ^ f))

/-- The quotient of two integers, rounded once; the sign is that of the operands even at zero. -/
def quotient (a b : Int) : Binary64 :=
  roundMagnitude (decide (a < 0) ^^ decide (b < 0)) (magnitude (a : Rat) / magnitude (b : Rat))

def nearestSqrt (q : Rat) : Nat :=
  let root := Nat.sqrt q.floor.toNat
  let half : Rat := root + 1 / 2
  if q < half * half then root
  else if half * half < q then root + 1
  else root + root % 2

def sqrt : Binary64 → Binary64
  | nan => nan
  | infinity negative => if negative then nan else infinity false
  | finite negative mantissa exponent =>
    if mantissa = 0 then finite negative mantissa exponent
    else if negative then nan
    else
      let q := (mantissa : Rat) * (2 : Rat) ^ exponent
      let quantum := floorLog2 q / 2 - (precision - 1 : Nat)
      pack false (nearestSqrt (q / (2 : Rat) ^ (2 * quantum))) quantum

/-- Strict order; false as soon as one side is not a number. -/
def lt (x y : Binary64) : Bool :=
  match x, y with
  | nan, _ | _, nan => false
  | infinity a, infinity b => a && !b
  | infinity a, finite .. => a
  | finite .., infinity b => !b
  | finite a m e, finite b n f =>
    decide (((finite a m e).toRat?.getD 0) < ((finite b n f).toRat?.getD 0))

def max (x y : Binary64) : Binary64 := if lt x y then y else x

def toInt? (x : Binary64) : Option Int :=
  x.toRat?.bind fun q => if q.den = 1 then some q.num else none

/-- Splits a finite datum at the point; both parts have its sign. -/
def splitPoint (x : Binary64) : Int × Rat :=
  let q := x.toRat?.getD 0
  let whole := if q < 0 then q.ceil else q.floor
  (whole, q - whole)

def signBit (negative : Bool) : Nat := if negative then 0x8000000000000000 else 0

/-- The layout of 64 bits: sign, biased exponent, fraction. -/
def toBits : Binary64 → Nat
  | nan => 0x7ff8000000000000
  | infinity negative => signBit negative + 0x7ff0000000000000
  | finite negative mantissa exponent =>
    if mantissa < leadingBit then signBit negative + mantissa
    else
      signBit negative + (exponent - minExponent + 1).toNat * leadingBit + (mantissa - leadingBit)

end Binary64

end ArrivalRates
