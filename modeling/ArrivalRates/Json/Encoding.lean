import ArrivalRates.Json.Parser

/-!
# The encoding of a JSON text

JSON begins with two ASCII characters, or is one, so the zeros among the first bytes tell UTF-16
and UTF-32 from UTF-8. `symbols?` finds the encoding and gives the characters. Two units of UTF-16
may be one character; any other surrogate is none, in UTF-32 each one.
-/

namespace ArrivalRates.Json

inductive Encoding where
  | utf8
  | utf16 (bigEndian : Bool)
  | utf32 (bigEndian : Bool)
  deriving DecidableEq, Repr

/-- The encoding that the zeros among the first bytes show. -/
def Encoding.ofBytes : List Nat → Encoding
  | [a, b] => if a = 0 then utf16 true else if b = 0 then utf16 false else utf8
  | a :: b :: c :: d :: _ =>
    if a = 0 then if b = 0 then utf32 true else utf16 true
    else if b = 0 then if c = 0 ∧ d = 0 then utf32 false else utf16 false
    else utf8
  | _ => utf8

def ofUnit (unit : Nat) : Symbol :=
  if isHighSurrogate unit || isLowSurrogate unit then none else some (Char.ofNat unit)

def units16? (bigEndian : Bool) : List Nat → Option (List Nat)
  | [] => some []
  | [_] => none
  | a :: b :: rest =>
    (units16? bigEndian rest).map ((if bigEndian then a * 256 + b else b * 256 + a) :: ·)

/-- The symbols of UTF-16 units; a high surrogate and a low one after it are one character. -/
def ofUnits16 : List Nat → List Symbol
  | high :: low :: rest =>
    if isHighSurrogate high && isLowSurrogate low then
      some (Char.ofNat (0x10000 + (high - 0xd800) * 0x400 + (low - 0xdc00))) :: ofUnits16 rest
    else ofUnit high :: ofUnits16 (low :: rest)
  | [unit] => [ofUnit unit]
  | [] => []

def symbols32? (bigEndian : Bool) : List Nat → Option (List Symbol)
  | a :: b :: c :: d :: rest =>
    let unit :=
      if bigEndian then ((a * 256 + b) * 256 + c) * 256 + d
      else ((d * 256 + c) * 256 + b) * 256 + a
    if unit < 0x110000 then (symbols32? bigEndian rest).map (ofUnit unit :: ·) else none
  | [] => some []
  | _ => none

/-- The symbols of a body, whose bytes are those of the given text in UTF-8. A byte order mark in
front of UTF-8 is no part of it. -/
def symbols? (body : String) : Option (List Symbol) :=
  let bytes := body.toUTF8.toList.map UInt8.toNat
  match Encoding.ofBytes bytes with
  | .utf8 =>
    match body.toList with
    | '\ufeff' :: rest => some (rest.map some)
    | rest => some (rest.map some)
  | .utf16 bigEndian => (units16? bigEndian bytes).map ofUnits16
  | .utf32 bigEndian => symbols32? bigEndian bytes

end ArrivalRates.Json
