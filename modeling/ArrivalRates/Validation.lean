import ArrivalRates.Json.Basic
import ArrivalRates.Timestamp.Basic
import ArrivalRates.Timestamp.Numeric

/-!
# Validation of values from outside

A decoder takes a JSON value and gives either a value of the library or every issue it found, each
with its place and its cause. The decoders are lenient: numbers and texts are taken for booleans
and integers where they can only mean one. `both` runs two decoders and keeps the issues of each.
-/

namespace ArrivalRates

namespace Validation

/-- One step of the way from the whole value to the place of an issue. -/
inductive Place where
  | key (name : String)
  | index (position : Nat)
  deriving DecidableEq, Repr

inductive Cause where
  | missing
  | notText
  | textTooShort
  | notBoolean
  | unreadableBoolean
  | notInteger
  | unreadableInteger
  | integerTooLong
  | fractionalInteger
  | notFinite
  | brokenText
  | belowMinimum
  | aboveMaximum
  | notList
  | notObject
  | notRecord
  | tagMissing
  | tagUnknown
  | notInstant
  | unreadableInstant
  | unknownZone (name : String)
  | frozen
  | malformedJson
  deriving DecidableEq, Repr

def Cause.code : Cause → String
  | missing => "missing"
  | notText => "string_type"
  | textTooShort => "string_too_short"
  | notBoolean => "bool_type"
  | unreadableBoolean => "bool_parsing"
  | notInteger => "int_type"
  | unreadableInteger => "int_parsing"
  | integerTooLong => "int_parsing_size"
  | fractionalInteger => "int_from_float"
  | notFinite => "finite_number"
  | brokenText => "string_unicode"
  | belowMinimum => "greater_than_equal"
  | aboveMaximum => "less_than_equal"
  | notList => "list_type"
  | notObject => "dict_type"
  | notRecord => "model_attributes_type"
  | tagMissing => "union_tag_not_found"
  | tagUnknown => "union_tag_invalid"
  | notInstant => "datetime_type"
  | unreadableInstant => "datetime_parsing"
  | unknownZone _ => "value_error"
  | frozen => "frozen_instance"
  | malformedJson => "json_invalid"

/-- The text that goes with a cause, where the code alone does not say it. -/
def Cause.note : Cause → Option String
  | unknownZone name => some ("Value error, unknown time zone: " ++ name)
  | _ => none

structure Issue where
  path : List Place
  cause : Cause
  deriving DecidableEq, Repr

/-- A decoded value or the issues that prevent it, never an empty list of them. -/
abbrev Checked (α : Type) := Except (List Issue) α

def fail (cause : Cause) : Checked α := .error [⟨[], cause⟩]

/-- The same result, with its issues one step further inside. -/
def within (place : Place) (result : Checked α) : Checked α :=
  result.mapError fun issues => issues.map fun issue => ⟨place :: issue.path, issue.cause⟩

def issues : Checked α → List Issue
  | .ok _ => []
  | .error issues => issues

/-- Both values, or the issues of both in this order. -/
def both (a : Checked α) (b : Checked β) : Checked (α × β) :=
  match a, b with
  | .ok a, .ok b => .ok (a, b)
  | a, b => .error (issues a ++ issues b)

def all : List (Checked α) → Checked (List α)
  | [] => .ok []
  | result :: rest => (both result (all rest)).map fun (a, as) => a :: as

def text : Json → Checked String
  | .str s => .ok s
  | .brokenText => fail .brokenText
  | _ => fail .notText

def nonEmptyText (value : Json) : Checked String := do
  let s ← text value
  if s.isEmpty then fail .textTooShort else return s

def trueWords : List String := ["1", "on", "t", "true", "y", "yes"]

def falseWords : List String := ["0", "off", "f", "false", "n", "no"]

def isWord (n : Int) : Bool := decide (-9223372036854775808 ≤ n ∧ n ≤ 9223372036854775807)

/-- An integer from a binary64 number that is below 2 to the power of 63 in size. -/
def integerOfFloat (x : Binary64) : Checked Int :=
  match x.toRat? with
  | none => fail .notFinite
  | some q =>
    if q.den ≠ 1 then fail .fractionalInteger
    else if q.num.natAbs < 9223372036854775808 then .ok q.num
    else fail .integerTooLong

def booleanOfInteger (n : Int) : Checked Bool :=
  if n = 0 then .ok false else if n = 1 then .ok true else fail .unreadableBoolean

/-- A truth value. Numbers that could be one but for their value are unreadable, others are of the
wrong kind. -/
def boolean : Json → Checked Bool
  | .bool b => .ok b
  | .int n => if isWord n then booleanOfInteger n else fail .notBoolean
  | .float x =>
    match integerOfFloat x with
    | .ok n => booleanOfInteger n
    | .error _ => fail .notBoolean
  | .str s =>
    let word := s.map Char.toLower
    if trueWords.contains word then .ok true
    else if falseWords.contains word then .ok false
    else fail .unreadableBoolean
  | .brokenText => fail .brokenText
  | _ => fail .notBoolean

def integerOfText (s : String) : Checked Int :=
  if Text.isTooLong s.toList then fail .integerTooLong
  else
    match Text.lenientInteger? s.toList with
    | some n => .ok n
    | none => fail .unreadableInteger

def integer : Json → Checked Int
  | .int n => .ok n
  | .bool b => .ok (if b then 1 else 0)
  | .float x => integerOfFloat x
  | .str s => integerOfText s
  | .brokenText => fail .brokenText
  | _ => fail .notInteger

def atLeast (minimum : Int) (result : Checked Int) : Checked Int := do
  let n ← result
  if n < minimum then fail .belowMinimum else return n

def atMost (maximum : Int) (result : Checked Int) : Checked Int := do
  let n ← result
  if maximum < n then fail .aboveMaximum else return n

def instant : Json → Checked Int
  | .str s =>
    match Timestamp.parse? s with
    | some time => .ok time.instant
    | none => readable (instantOfText? s)
  | .int n =>
    if isWord n then readable (instantOfInteger? n)
    else
      match Binary64.ofInt n with
      | .infinity _ => fail .notInstant
      | x => readable (instantOfFloat? x)
  | .float x => readable (instantOfFloat? x)
  | .brokenText => fail .brokenText
  | _ => fail .notInstant
where
  readable : Option Int → Checked Int
    | some micros => .ok micros
    | none => fail .unreadableInstant

def list (decode : Json → Checked α) : Json → Checked (List α)
  | .arr items =>
    all ((List.range items.length).zip items |>.map fun (i, item) =>
      within (.index i) (decode item))
  | _ => fail .notList

/-- The fields of an object, all decoded in the same way. -/
def table (decode : Json → Checked α) : Json → Checked (List (String × α))
  | .obj fields =>
    all (fields.map fun (key, item) =>
      (within (.key key) (decode item)).map fun a => (key, a))
  | _ => fail .notObject

def required (record : Json) (name : String) (decode : Json → Checked α) : Checked α :=
  within (.key name) <|
    match record.field? name with
    | some value => decode value
    | none => fail .missing

/-- A field with a value for the case that it is not there. -/
def optional (record : Json) (name : String) (default : α) (decode : Json → Checked α) :
    Checked α :=
  match record.field? name with
  | some value => within (.key name) (decode value)
  | none => .ok default

end Validation

end ArrivalRates
