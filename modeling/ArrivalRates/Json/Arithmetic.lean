import ArrivalRates.Number

/-!
# Sums and comparisons of values

Values of one kind can be added and compared: numbers by their exact values, texts by their
characters and lists by their first difference. Across kinds there is no sum and no order, which is
a failure.
-/

namespace ArrivalRates.Json

/-- The sum of numbers; texts and lists are put one behind the other. -/
def plus : Json → Json → Except Failure Json
  | .str a, .str b => .ok (.str (a ++ b))
  | .arr a, .arr b => .ok (.arr (a ++ b))
  | a, b =>
    match Number.ofJson? a, Number.ofJson? b with
    | some m, some n => (m.add n).map Number.toJson
    | _, _ => .error .wrongKind

mutual

/-- Whether two values are equal; the order of fields does not count. -/
def same : Json → Json → Bool
  | .null, .null => true
  | .str a, .str b => a = b
  | .arr a, .arr b => sameItems a b
  | .obj a, .obj b => a.length = b.length && sameFields a b
  | a, b =>
    match Number.ofJson? a, Number.ofJson? b with
    | some m, some n => m.same n
    | _, _ => false

def sameItems : List Json → List Json → Bool
  | [], [] => true
  | a :: as, b :: bs => a.same b && sameItems as bs
  | _, _ => false

def sameFields : List (String × Json) → List (String × Json) → Bool
  | [], _ => true
  | (key, a) :: rest, fields =>
    match (Json.obj fields).field? key with
    | some b => a.same b && sameFields rest fields
    | none => false

end

mutual

def atLeast : Json → Json → Except Failure Bool
  | .str a, .str b => .ok (decide (b ≤ a))
  | .arr a, .arr b => atLeastItems a b
  | a, b =>
    match Number.ofJson? a, Number.ofJson? b with
    | some m, some n => .ok (n.le m)
    | _, _ => .error .wrongKind

/-- Lists compare by their first items that differ; a list follows each of its beginnings. -/
def atLeastItems : List Json → List Json → Except Failure Bool
  | _, [] => .ok true
  | [], _ :: _ => .ok false
  | a :: as, b :: bs => if a.same b then atLeastItems as bs else a.atLeast b

end

end ArrivalRates.Json
