import ArrivalRates.Text.Blank
import ArrivalRates.Text.Digit

/-!
# Integers in text

Three forms of an integer. `integer?` takes the digits of every script, with single underscores
between two of them, and limits their number. `plainInteger?` takes the one form in which ASCII
digits are usually written, without zeros in front. `lenientInteger?` also takes what can be brought
into that form: it drops white space around the number, zeros in front of it, single underscores
between its digits and a fraction of zeros.
-/

namespace ArrivalRates.Text

/-- The digits of a text in which single underscores may separate two digits. -/
def digitRun (value? : Char → Option Nat) : List Char → Option (List Nat)
  | [] => none
  | [c] => (value? c).map fun d => [d]
  | c :: '_' :: rest => (value? c).bind fun d => (digitRun value? rest).map (d :: ·)
  | c :: rest => (value? c).bind fun d => (digitRun value? rest).map (d :: ·)

def ofDigits (digits : List Nat) : Nat := digits.foldl (fun n d => 10 * n + d) 0

/-- A sign in front, `true` for minus, and the rest. -/
def splitSign : List Char → Bool × List Char
  | '-' :: rest => (true, rest)
  | '+' :: rest => (false, rest)
  | cs => (false, cs)

def signed (negative : Bool) (n : Nat) : Int := if negative then -(n : Int) else n

/-- Longer numbers are not read at all. -/
def maxDigits : Nat := 4300

def integer? (cs : List Char) : Option Int :=
  let (negative, rest) := splitSign cs
  (digitRun decimalDigit? rest).bind fun digits =>
    if digits.length ≤ maxDigits then some (signed negative (ofDigits digits)) else none

/-- Whether a text begins with a plain number of more characters than are read. -/
def isTooLong (cs : List Char) : Bool :=
  let (negative, rest) :=
    match cs with
    | '-' :: rest => (1, rest)
    | _ => (0, cs)
  match rest with
  | '0' :: _ => false
  | _ => maxDigits < negative + (rest.takeWhile fun c => (asciiDigit? c).isSome).length

/-- Digits with at most a minus sign before them; zero is the only number that begins with `0`. -/
def plainInteger? (cs : List Char) : Option Int :=
  let (negative, digits) :=
    match cs with
    | '-' :: rest => (true, rest)
    | _ => (false, cs)
  let beginsWell :=
    match digits with
    | [] => false
    | '0' :: rest => rest.isEmpty
    | _ => true
  if beginsWell && digits.all (fun c => (asciiDigit? c).isSome) && cs.length ≤ maxDigits then
    some (signed negative (ofDigits (digits.filterMap asciiDigit?)))
  else none

/-- What is left without the zeros in front, and without the underscores among them: it begins at a
digit from `1` on or at a minus sign, and where there is nothing but zeros it is the last one. -/
def withoutZeros? (cs : List Char) : Option (List Char) :=
  let startsNumber := fun c => c = '-' || (c ≠ '0' && (asciiDigit? c).isSome)
  match cs with
  | [] => none
  | first :: _ =>
    if first ≠ '0' then if startsNumber first then some cs else none
    else
      let zeros := cs.takeWhile fun c => c = '0' || c = '_'
      match cs.drop zeros.length with
      | [] => zeros.getLast?.map fun last => [last]
      | next :: rest =>
        if startsNumber next then some (next :: rest)
        else if next = '.' then zeros.getLast?.map fun last => last :: next :: rest
        else none

/-- What stands before a fraction of zeros; a point without digits is no fraction. -/
def withoutFraction? (cs : List Char) : Option (List Char) :=
  match cs.dropWhile (· ≠ '.') with
  | [] => some cs
  | _ :: places =>
    if !places.isEmpty && places.all (· = '0') then some (cs.takeWhile (· ≠ '.')) else none

/-- The characters without underscores, which have to stand alone and inside. -/
def withoutUnderscores? (cs : List Char) : Option (List Char) :=
  let doubled := (cs.zip (cs.drop 1)).any fun (a, b) => a = '_' && b = '_'
  if cs.head? = some '_' ∨ cs.getLast? = some '_' ∨ doubled then none
  else some (cs.filter (· ≠ '_'))

/-- An integer in any of the forms that can be brought into the plain one. After the zeros in front
the number may have a minus sign of its own, but not two. -/
def lenientInteger? (cs : List Char) : Option Int := do
  let (negative, unsigned) ←
    match strip isWhiteSpace cs with
    | '+' :: '-' :: _ => none
    | '+' :: rest => some (false, rest)
    | '-' :: rest => some (true, rest)
    | rest => some (false, rest)
  let body ← withoutZeros? unsigned
  let whole ← withoutFraction? body
  let digits ← withoutUnderscores? whole
  plainInteger? (if negative then '-' :: digits else digits)

end ArrivalRates.Text
