import ArrivalRates.Json.Parser
import ArrivalRates.Json.Shown
import ArrivalRates.Text.Utf8

/-!
# Parameters in queries

A query is a list of names and values. `Query.ofText` reads its written form, in which a plus sign
is a blank and a percent sign stands before the two digits of a byte. `Query.ofJson` takes the
parameters as a caller gives them: an object, a list of pairs or the written form. They end up in
the request that the service is run with.
-/

namespace ArrivalRates.Url

/-- The bytes of a text in which a percent sign and two hexadecimal digits are one byte. -/
def unescape : List Nat → List Nat
  | 0x25 :: a :: b :: rest =>
    match Json.hexValue? (Char.ofNat a), Json.hexValue? (Char.ofNat b) with
    | some high, some low => (high * 16 + low) :: unescape rest
    | _, _ => 0x25 :: unescape (a :: b :: rest)
  | byte :: rest => byte :: unescape rest
  | [] => []

def decoded (text : List Char) : String :=
  String.ofList
    (Text.ofUtf8 (unescape ((String.ofList text).toUTF8.toList.map UInt8.toNat)))

namespace Query

abbrev Parameters := List (String × String)

inductive Fault where
  | notParameters
  /-- An item of a list that has no parts, or a list or an object in the place of a name. -/
  | notPair
  | shortPair
  | unorderedPair
  deriving DecidableEq, Repr

/-- A name or value of a parameter, where a plus sign is a blank. -/
def decodedPart (part : List Char) : String :=
  decoded (part.map fun c => if c = '+' then ' ' else c)

/-- The parameters in order; one without an equals sign has an empty value. -/
def ofText (query : List Char) : Parameters :=
  let parts := ((String.ofList query).splitOn "&").filter fun part => !part.isEmpty
  parts.map fun part =>
    (decodedPart (part.toList.takeWhile (· ≠ '=')),
      decodedPart ((part.toList.dropWhile (· ≠ '=')).drop 1))

/-- The text of a value: truth values in small letters, and none for null. -/
def valueText : Json → String
  | .bool value => if value then "true" else "false"
  | .null => ""
  | value => value.shown

def ofPair : Json → Except Fault (String × String)
  | .arr (.arr _ :: _) | .arr (.obj _ :: _) => .error .notPair
  | .arr (name :: value :: _) => .ok (name.shown, valueText value)
  | .arr _ => .error .shortPair
  | .str text =>
    match text.toList with
    | name :: value :: _ => .ok (String.singleton name, String.singleton value)
    | _ => .error .shortPair
  | .obj _ => .error .unorderedPair
  | _ => .error .notPair

/-- The parameters under one name; a list gives one for each of its items. -/
def ofField (name : String) : Json → Parameters
  | .arr values => values.map fun value => (name, valueText value)
  | value => [(name, valueText value)]

def ofJson : Json → Except Fault Parameters
  | .str text => .ok (ofText text.toList)
  | .arr items => items.mapM ofPair
  | .obj fields => .ok (fields.flatMap fun (name, value) => ofField name value)
  | _ => .error .notParameters

def isEmpty : Json → Bool
  | .bool value => !value
  | .int n => n = 0
  | .float x => x.toRat? = some 0
  | .str text => text.isEmpty
  | .arr items => items.isEmpty
  | .obj fields => fields.isEmpty
  | _ => false

def isPlain (c : Char) : Bool := c.isAlphanum || ['_', '.', '-', '~', ' '].contains c

def partSize (part : String) : Nat :=
  part.toList.foldl (fun size c => size + if isPlain c then 1 else 3 * c.utf8Size) 0

def size (parameters : Parameters) : Nat :=
  parameters.foldl (fun size (name, value) => size + partSize name + partSize value + 2) 0 - 1

end Query

end ArrivalRates.Url
