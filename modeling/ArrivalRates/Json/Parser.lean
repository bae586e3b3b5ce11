import ArrivalRates.Json.Basic
import ArrivalRates.Text.Integer

/-!
# Reading JSON

A reader for the JSON grammar that also takes the words `NaN`, `Infinity` and `-Infinity`. A number
without point and exponent is an integer, any other is rounded to binary64; of equal keys the last
value counts. Lists and objects stand inside one another only up to a limit. A text is a sequence of
symbols, since what comes from outside may hold surrogates that are no characters. The recursion
spends one unit of fuel per value, per item and per symbol of a string; twice the length of the text
is enough.
-/

namespace ArrivalRates.Json

inductive Fault where
  | malformed
  /-- An integer of more than `Text.maxDigits` digits. -/
  | integerTooLong
  | tooDeep
  deriving DecidableEq, Repr

/-- A character of a text; none is a surrogate that stands there itself and is in no pair. -/
abbrev Symbol := Option Char

abbrev Reading (α : Type) := Except Fault (α × List Symbol)

def isSpace (s : Symbol) : Bool := s = some ' ' || s = some '\t' || s = some '\n' || s = some '\r'

def skipSpace (text : List Symbol) : List Symbol := text.dropWhile isSpace

def digit? (s : Symbol) : Option Nat := s.bind Text.asciiDigit?

def isDigit (s : Symbol) : Bool := (digit? s).isSome

def ofDigits (digits : List Symbol) : Nat := Text.ofDigits (digits.filterMap digit?)

def hexValue? (c : Char) : Option Nat :=
  if '0' ≤ c ∧ c ≤ '9' then some (c.toNat - '0'.toNat)
  else if 'a' ≤ c ∧ c ≤ 'f' then some (c.toNat - 'a'.toNat + 10)
  else if 'A' ≤ c ∧ c ≤ 'F' then some (c.toNat - 'A'.toNat + 10)
  else none

def hexUnit? : List Symbol → Option (Nat × List Symbol)
  | some a :: some b :: some c :: some d :: rest => do
    let a ← hexValue? a
    let b ← hexValue? b
    let c ← hexValue? c
    let d ← hexValue? d
    some (((a * 16 + b) * 16 + c) * 16 + d, rest)
  | _ => none

def isHighSurrogate (n : Nat) : Bool := decide (0xd800 ≤ n ∧ n < 0xdc00)

def isLowSurrogate (n : Nat) : Bool := decide (0xdc00 ≤ n ∧ n < 0xe000)

/-- The character of one escaped unit, or of two that form a pair; there is none for a surrogate
without its partner. -/
def unicodeEscape? (text : List Symbol) : Option (Symbol × List Symbol) :=
  match hexUnit? text with
  | none => none
  | some (high, rest) =>
    if isHighSurrogate high then
      match rest with
      | some '\\' :: some 'u' :: tail =>
        match hexUnit? tail with
        | some (low, rest') =>
          if isLowSurrogate low then
            some (some (Char.ofNat (0x10000 + (high - 0xd800) * 0x400 + (low - 0xdc00))), rest')
          else some (none, rest)
        | none => some (none, rest)
      | _ => some (none, rest)
    else if isLowSurrogate high then some (none, rest)
    else some (some (Char.ofNat high), rest)

def simpleEscape? : Char → Option Char
  | '"' => some '"'
  | '\\' => some '\\'
  | '/' => some '/'
  | 'b' => some '\x08'
  | 'f' => some '\x0c'
  | 'n' => some '\n'
  | 'r' => some '\r'
  | 't' => some '\t'
  | _ => none

def wholeText? (done : List Symbol) : Option String :=
  if done.all Option.isSome then some (String.ofList (done.filterMap id)) else none

/-- The rest of a string after its opening quote; it has no text if it holds a lone surrogate. -/
def string (fuel : Nat) (done text : List Symbol) : Reading (Option String) :=
  match fuel, text with
  | 0, _ => .error .malformed
  | _, [] => .error .malformed
  | _, some '"' :: rest => .ok (wholeText? done.reverse, rest)
  | fuel + 1, some '\\' :: some 'u' :: rest =>
    match unicodeEscape? rest with
    | some (symbol, rest) => string fuel (symbol :: done) rest
    | none => .error .malformed
  | fuel + 1, some '\\' :: symbol :: rest =>
    match symbol.bind simpleEscape? with
    | some c => string fuel (some c :: done) rest
    | none => .error .malformed
  | fuel + 1, some c :: rest =>
    if c.toNat < 0x20 ∨ c = '\\' then .error .malformed else string fuel (some c :: done) rest
  | fuel + 1, none :: rest => string fuel (none :: done) rest

def fraction (text : List Symbol) : List Symbol × List Symbol :=
  match text with
  | some '.' :: rest =>
    let digits := rest.takeWhile isDigit
    if digits.isEmpty then ([], text) else (digits, rest.dropWhile isDigit)
  | _ => ([], text)

/-- A sign in front, `true` for minus, and the rest. -/
def splitSign : List Symbol → Bool × List Symbol
  | some '-' :: rest => (true, rest)
  | some '+' :: rest => (false, rest)
  | text => (false, text)

/-- The power of ten behind `e`, if there is one with a digit. -/
def exponent (text : List Symbol) : Option Int × List Symbol :=
  match text with
  | some c :: rest =>
    if c = 'e' ∨ c = 'E' then
      let (negative, tail) := splitSign rest
      let digits := tail.takeWhile isDigit
      if digits.isEmpty then (none, text)
      else (some (Text.signed negative (ofDigits digits)), tail.dropWhile isDigit)
    else (none, text)
  | _ => (none, text)

/-- A number; without fraction and exponent it is an integer. -/
def number (text : List Symbol) : Reading Json :=
  let (negative, body) :=
    match text with
    | some '-' :: rest => (true, rest)
    | _ => (false, text)
  let digits := body.takeWhile isDigit
  let (digits, rest) :=
    match digits with
    | some '0' :: _ => ([some '0'], body.drop 1)
    | _ => (digits, body.dropWhile isDigit)
  if digits.isEmpty then .error .malformed
  else
    let (places, rest) := fraction rest
    let (power, rest) := exponent rest
    let value := ofDigits (digits ++ places)
    if places.isEmpty && power.isNone then
      if digits.length ≤ Text.maxDigits then .ok (int (Text.signed negative value), rest)
      else .error .integerTooLong
    else
      .ok (float (Binary64.ofDecimal negative value (power.getD 0 - places.length)), rest)

def afterWord? (word : String) (text : List Symbol) : Option (List Symbol) :=
  let letters := word.toList.map some
  if text.take letters.length = letters then some (text.drop letters.length) else none

def words : List (String × Json) :=
  [ ("null", null), ("true", bool true), ("false", bool false), ("NaN", float .nan),
    ("Infinity", float (.infinity false)), ("-Infinity", float (.infinity true)) ]

def word? (text : List Symbol) : Option (Json × List Symbol) :=
  words.findSome? fun (word, value) => (afterWord? word text).map fun rest => (value, rest)

/-- A field added to those before it. Under a broken name stands a broken text, whatever was
there. -/
def addField (done : List (String × Json)) (name : Option String) (item : Json) :
    List (String × Json) :=
  match name with
  | some key => setField key item done
  | none => done ++ [("\ufffd", brokenText)]

mutual

/-- One value at the start of the text, where `room` more lists and objects may open. -/
def value (fuel room : Nat) (text : List Symbol) : Reading Json :=
  match fuel with
  | 0 => .error .malformed
  | fuel + 1 =>
    match text with
    | some '"' :: rest =>
      (string fuel [] rest).map fun (text, rest) =>
        ((text.map str).getD brokenText, rest)
    | some '[' :: rest =>
      if room = 0 then .error .tooDeep
      else
        match skipSpace rest with
        | some ']' :: rest => .ok (arr [], rest)
        | rest => items fuel (room - 1) [] rest
    | some '{' :: rest =>
      if room = 0 then .error .tooDeep
      else
        match skipSpace rest with
        | some '}' :: rest => .ok (obj [], rest)
        | rest => fields fuel (room - 1) [] rest
    | _ =>
      match word? text with
      | some found => .ok found
      | none => number text

def items (fuel room : Nat) (done : List Json) (text : List Symbol) : Reading Json :=
  match fuel with
  | 0 => .error .malformed
  | fuel + 1 =>
    match value fuel room text with
    | .error fault => .error fault
    | .ok (item, rest) =>
      match skipSpace rest with
      | some ',' :: rest => items fuel room (item :: done) (skipSpace rest)
      | some ']' :: rest => .ok (arr (item :: done).reverse, rest)
      | _ => .error .malformed

def fields (fuel room : Nat) (done : List (String × Json)) (text : List Symbol) : Reading Json :=
  match fuel with
  | 0 => .error .malformed
  | fuel + 1 =>
    match text with
    | some '"' :: rest =>
      match string fuel [] rest with
      | .error fault => .error fault
      | .ok (key, rest) =>
        match skipSpace rest with
        | some ':' :: rest =>
          match value fuel room (skipSpace rest) with
          | .error fault => .error fault
          | .ok (item, rest) =>
            let done := addField done key item
            match skipSpace rest with
            | some ',' :: rest => fields fuel room done (skipSpace rest)
            | some '}' :: rest => .ok (obj done, rest)
            | _ => .error .malformed
        | _ => .error .malformed
    | _ => .error .malformed

end

/-- The value of a whole text in which at most `limit` lists and objects stand inside one
another. -/
def parse (limit : Nat) (text : List Symbol) : Except Fault Json :=
  let text := skipSpace text
  match value (2 * text.length + 2) limit text with
  | .error fault => .error fault
  | .ok (found, rest) => if (skipSpace rest).isEmpty then .ok found else .error .malformed

end ArrivalRates.Json
