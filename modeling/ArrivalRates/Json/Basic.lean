import ArrivalRates.Binary64.Decimal

/-!
# JSON values

Values with integers of any size apart from binary64 numbers. The fields of an object keep their
order and no key occurs twice in a value that was read. A text with a surrogate that is no part of a
pair is no Unicode text; all such texts are one value, `brokenText`.
-/

namespace ArrivalRates

inductive Json where
  | null
  | bool (value : Bool)
  | int (value : Int)
  | float (value : Binary64)
  | str (value : String)
  | brokenText
  | arr (items : List Json)
  | obj (fields : List (String × Json))
  deriving Inhabited

namespace Json

/-- Sets a key; a key that is there keeps its place. -/
def setField (key : String) (value : Json) : List (String × Json) → List (String × Json)
  | [] => [(key, value)]
  | (k, v) :: rest => if k = key then (k, value) :: rest else (k, v) :: setField key value rest

def field? (key : String) : Json → Option Json
  | obj fields => (fields.find? fun (k, _) => k = key).map (·.2)
  | _ => none

mutual

/-- How many lists and objects stand inside one another. -/
def depth : Json → Nat
  | arr items => depthOfItems items + 1
  | obj fields => depthOfFields fields + 1
  | _ => 0

def depthOfItems : List Json → Nat
  | [] => 0
  | item :: rest => max item.depth (depthOfItems rest)

def depthOfFields : List (String × Json) → Nat
  | [] => 0
  | (_, item) :: rest => max item.depth (depthOfFields rest)

end

mutual

/-- Whether the value can be written as JSON in Unicode: it has no broken text and no number that is
infinite or undefined. -/
def isWritable : Json → Bool
  | brokenText => false
  | float value => value.toRat?.isSome
  | arr items => areWritable items
  | obj fields => areFieldsWritable fields
  | _ => true

def areWritable : List Json → Bool
  | [] => true
  | item :: rest => item.isWritable && areWritable rest

def areFieldsWritable : List (String × Json) → Bool
  | [] => true
  | (_, item) :: rest => item.isWritable && areFieldsWritable rest

end

end Json

end ArrivalRates
