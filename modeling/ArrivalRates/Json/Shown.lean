import ArrivalRates.Json.Basic
import ArrivalRates.Text.Quoted

/-!
# Values in messages

How messages write a value: a text stands as it is, unless it is inside a list or an object.
-/

namespace ArrivalRates.Json

mutual

/-- A value with its texts quoted. -/
def literal : Json → String
  | .null => "None"
  | .bool value => if value then "True" else "False"
  | .int value => integerText value
  | .float value => value.toShortest
  | .str value => Text.quoted value
  | .brokenText => Text.quoted "\ufffd"
  | .arr items => "[" ++ literals items ++ "]"
  | .obj fields => "\x7b" ++ literalFields fields ++ "\x7d"

def literals : List Json → String
  | [] => ""
  | [item] => literal item
  | item :: rest => literal item ++ ", " ++ literals rest

def literalFields : List (String × Json) → String
  | [] => ""
  | [(key, value)] => Text.quoted key ++ ": " ++ literal value
  | (key, value) :: rest =>
    Text.quoted key ++ ": " ++ literal value ++ ", " ++ literalFields rest

end

/-- A value as a message shows it. -/
def shown : Json → String
  | .str value => value
  | value => literal value

end ArrivalRates.Json
