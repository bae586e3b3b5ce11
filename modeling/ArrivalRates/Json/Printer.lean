import ArrivalRates.Json.Basic
import ArrivalRates.Text.Quoted

/-!
# Writing JSON

One line of text for a value; characters below U+0020 are escaped, all others stand as they are.
Numbers that are infinite or undefined are written with the words that the reader takes for them,
and a broken text as one escaped surrogate.
-/

namespace ArrivalRates.Json

def escapedChar (c : Char) : List Char :=
  if c = '"' ∨ c = '\\' then ['\\', c]
  else if c.toNat < 0x20 then ['\\', 'u'] ++ Text.hexadecimal 4 c.toNat
  else [c]

def quoted (text : String) : String :=
  String.ofList (['"'] ++ text.toList.flatMap escapedChar ++ ['"'])

def renderFloat : Binary64 → String
  | .nan => "NaN"
  | .infinity negative => if negative then "-Infinity" else "Infinity"
  | value => value.toShortest

mutual

def render : Json → String
  | null => "null"
  | bool value => if value then "true" else "false"
  | int value => integerText value
  | float value => renderFloat value
  | str value => quoted value
  | brokenText => "\"\\ud800\""
  | arr items => "[" ++ renderItems items ++ "]"
  | obj fields => "\x7b" ++ renderFields fields ++ "\x7d"

def renderItems : List Json → String
  | [] => ""
  | [item] => render item
  | item :: rest => render item ++ ", " ++ renderItems rest

def renderFields : List (String × Json) → String
  | [] => ""
  | [(key, value)] => quoted key ++ ": " ++ render value
  | (key, value) :: rest => quoted key ++ ": " ++ render value ++ ", " ++ renderFields rest

end

end ArrivalRates.Json
