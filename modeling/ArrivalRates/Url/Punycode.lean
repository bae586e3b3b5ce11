/-!
# Punycode

Labels of domain names in ASCII letters, digits and hyphens: first the ASCII characters of the label
and a hyphen, then the other characters in order of their code points, each as the distance from the
one before, counted over all places where a character could be inserted. Distances are written in
digits of base 36 with the low ones first; a digit below its threshold is the last one, and the
thresholds depend on a bias that follows the size of the distances. The names in references are
checked with it.
-/

namespace ArrivalRates.Url.Punycode

def threshold (bias position : Nat) : Nat :=
  max 1 (min 26 (36 * (position + 1) - bias))

theorem threshold_pos (bias position : Nat) : 0 < threshold bias position := by
  unfold threshold
  omega

/-- A distance made small enough, and how often it was made smaller. -/
def damped (distance : Nat) : Nat × Nat :=
  if 455 < distance then
    let (rest, count) := damped (distance / 35)
    (rest, count + 1)
  else (distance, 0)
termination_by distance
decreasing_by omega

/-- The bias after a distance, when the label has grown to `size` characters. -/
def adapted (distance size : Nat) (first : Bool) : Nat :=
  let distance := if first then distance / 700 else distance / 2
  let (rest, count) := damped (distance + distance / size)
  36 * count + 36 * rest / (rest + 38)

def digitChar (digit : Nat) : Char :=
  if digit < 26 then Char.ofNat ('a'.toNat + digit) else Char.ofNat ('0'.toNat + (digit - 26))

def digitValue? (c : Char) : Option Nat :=
  if 'a' ≤ c ∧ c ≤ 'z' then some (c.toNat - 'a'.toNat)
  else if 'A' ≤ c ∧ c ≤ 'Z' then some (c.toNat - 'A'.toNat)
  else if '0' ≤ c ∧ c ≤ '9' then some (c.toNat - '0'.toNat + 26)
  else none

def digits (bias position distance : Nat) : List Char :=
  let t := threshold bias position
  if distance < t then [digitChar distance]
  else
    digitChar (t + (distance - t) % (36 - t))
      :: digits bias (position + 1) ((distance - t) / (36 - t))
termination_by distance
decreasing_by
  have := threshold_pos bias position
  exact Nat.lt_of_le_of_lt (Nat.div_le_self _ _) (by omega)

structure Writing where
  distance : Nat := 0
  bias : Nat := 72
  size : Nat
  isFirst : Bool := true
  written : List Char := []

/-- Passes one place of the label on the way to the characters of a code point. -/
def Writing.pass (code : Nat) (writing : Writing) (c : Char) : Writing :=
  if c.toNat < code then { writing with distance := writing.distance + 1 }
  else if c.toNat = code then
    { distance := 0
      bias := adapted writing.distance (writing.size + 1) writing.isFirst
      size := writing.size + 1
      isFirst := false
      written := writing.written ++ digits writing.bias 0 writing.distance }
  else writing

/-- Writes the characters of code points in order, from a code point on. -/
def writeCodes (label : List Char) : Nat → List Nat → Writing → Writing
  | _, [], writing => writing
  | start, code :: rest, writing =>
    let distance := writing.distance + (code - start) * (writing.size + 1)
    let writing := label.foldl (Writing.pass code) { writing with distance }
    writeCodes label (code + 1) rest { writing with distance := writing.distance + 1 }

def isAscii (c : Char) : Bool := c.toNat < 0x80

def encode (label : List Char) : List Char :=
  let plain := label.filter isAscii
  let others := (label.filter fun c => !isAscii c).map Char.toNat
  let codes := (others.mergeSort fun a b => decide (a ≤ b)).eraseDups
  (if plain.isEmpty then [] else plain ++ ['-'])
    ++ (writeCodes label 0x80 codes { size := plain.length }).written

/-- The distance at the front of a text, from a position and a weight on, and what follows it. -/
def distance? (bias : Nat) : Nat → Nat → List Char → Option (Nat × List Char)
  | _, _, [] => none
  | position, weight, c :: rest => do
    let digit ← digitValue? c
    let t := threshold bias position
    if digit < t then some (digit * weight, rest)
    else
      let (others, rest) ← distance? bias (position + 1) (weight * (36 - t)) rest
      some (digit * weight + others, rest)

/-- Inserts the characters that a text tells into a label. Each takes a digit at least, so the
length of the text is fuel enough. -/
def insertAll (fuel code place bias : Nat) (first : Bool) (label text : List Char) :
    Option (List Char) :=
  match fuel, text with
  | _, [] => some label
  | 0, _ => none
  | fuel + 1, text => do
    let (distance, rest) ← distance? bias 0 1 text
    let size := label.length + 1
    let code := code + (place + distance) / size
    let place := (place + distance) % size
    if code.isValidChar then
      insertAll fuel code (place + 1) (adapted distance size first) false
        (label.insertIdx place (Char.ofNat code)) rest
    else none

/-- The label that a text stands for; the last hyphen ends the ASCII characters. -/
def decode? (text : List Char) : Option (List Char) :=
  let back := text.reverse
  let told := (back.takeWhile (· ≠ '-')).reverse
  let plain := ((back.dropWhile (· ≠ '-')).drop 1).reverse
  insertAll told.length 0x80 0 72 true plain told

end ArrivalRates.Url.Punycode
