import ArrivalRates.Failure
import ArrivalRates.Timestamp.Basic

/-!
# Written times of the ISO form

`Iso.parse` reads the wide family of forms that ISO 8601 allows: dates with or without
hyphens, by month and day or by week and weekday, times down to any of their parts, with or without
colons, and an offset of the same form. Any one character separates date and time. The text is read
as bytes of UTF-8, and past its end a byte is zero; a single byte between time and offset is let
pass.
-/

namespace ArrivalRates

namespace Iso

abbrev Bytes := List Nat

/-- The byte at the start, zero at the end of the text. -/
def peek (bytes : Bytes) : Nat := bytes.headD 0

def isDigit (byte : Nat) : Bool := decide (0x30 ≤ byte ∧ byte ≤ 0x39)

def hyphen : Nat := 0x2d

def colon : Nat := 0x3a

def digits? (count : Nat) (bytes : Bytes) : Option (Nat × Bytes) :=
  let front := bytes.take count
  if front.length = count && front.all isDigit then
    some (Text.ofDigits (front.map (· - 0x30)), bytes.drop count)
  else none

/-- Where the date of a text ends. The week forms `YYYYWww` and `YYYYWwwd` are told apart by the
number of digits in a row, since those of a time of day come in pairs; a hyphen after `YYYY-Www`
belongs to the date unless another digit follows the next character. -/
def dateLength (bytes : Bytes) : Nat :=
  let byte := fun n => bytes.getD n 0
  let week := 'W'.toNat
  if bytes.length = 7 then 7
  else if byte 4 = hyphen then
    if byte 5 = week then
      if byte 8 = hyphen && !isDigit (byte 10) then 10 else 8
    else 10
  else if byte 4 = week then
    let run := 7 + ((bytes.drop 7).takeWhile isDigit).length
    if run < 9 then run else if run % 2 = 0 then 7 else 8
  else 8

/-- The day of a week of a year: week 1 holds the first Thursday. -/
def weekDay? (year week weekday : Nat) : Option Day :=
  let first := Day.ofCivil year 1 1
  let firstMonday : Int := first.index - ((first.weekday + 6) % 7 : Nat)
  let start := if (first.weekday + 6) % 7 ≤ 3 then firstMonday else firstMonday + 7
  let long := first.weekday = 4 ∨ (first.weekday = 3 ∧ isLeapYear year)
  if 1 ≤ year ∧ 1 ≤ week ∧ (week ≤ 52 ∨ (week = 53 ∧ long)) ∧ 1 ≤ weekday ∧ weekday ≤ 7 then
    some ⟨start + ((week - 1) * 7 + (weekday - 1) : Nat)⟩
  else none

inductive Date where
  | civil (year month day : Nat)
  | day (found : Day)
  /-- A day of the year before the first one, which has no months. -/
  | early

def weekDate? (year : Nat) (hyphens : Bool) (bytes : Bytes) : Option Date := do
  let (week, bytes) ← digits? 2 bytes
  let weekday ←
    if bytes.isEmpty then some 1
    else
      let bytes ← if hyphens then if peek bytes = hyphen then some bytes.tail else none
        else some bytes
      (digits? 1 bytes).map (·.1)
  if year = 0 ∧ 1 ≤ week ∧ week ≤ 52 ∧ 1 ≤ weekday ∧ weekday ≤ 7 then some .early
  else (weekDay? year week weekday).map .day

def date? (bytes : Bytes) : Option Date := do
  let (year, bytes) ← digits? 4 bytes
  let hyphens := peek bytes = hyphen
  let bytes := if hyphens then bytes.tail else bytes
  if peek bytes = 'W'.toNat then weekDate? year hyphens bytes.tail
  else do
    let (month, bytes) ← digits? 2 bytes
    let bytes ← if hyphens then if peek bytes = hyphen then some bytes.tail else none
      else some bytes
    let (day, _) ← digits? 2 bytes
    some (.civil year month day)

structure Clock where
  hour : Nat := 0
  minute : Nat := 0
  second : Nat := 0
  microsecond : Nat := 0

/-- What may follow two digits of a time: nothing, one last byte, the next two digits or the
fraction. -/
inductive Next where
  | finished (clean : Bool)
  | digits (bytes : Bytes)
  | fraction (bytes : Bytes)

/-- The step after two digits. A byte that is no separator belongs to the digits that follow. -/
def next? (colons : Bool) (bytes : Bytes) : Option Next :=
  match bytes with
  | [] => some (.finished true)
  | [c] => some (.finished (c = 0))
  | c :: rest =>
    if colons && c = colon then some (.digits rest)
    else if c = '.'.toNat ∨ c = ','.toNat then some (.fraction rest)
    else if colons then none
    else some (.digits bytes)

/-- The digits of a fraction, cut to microseconds, and whether nothing follows them. -/
def fraction? (bytes : Bytes) : Option (Nat × Bool) := do
  let count := min 6 bytes.length
  let (value, rest) ← digits? count bytes
  some (value * Nat.pow 10 (6 - count), peek (rest.dropWhile isDigit) = 0)

/-- A time of day or the size of an offset, and whether nothing is left behind it. -/
def clock? (bytes : Bytes) : Option (Clock × Bool) := do
  let (hour, bytes) ← digits? 2 bytes
  let colons := peek bytes = colon
  match ← next? colons bytes with
  | .finished clean => some (⟨hour, 0, 0, 0⟩, clean)
  | .fraction bytes =>
    let (microsecond, clean) ← fraction? bytes
    some (⟨hour, 0, 0, microsecond⟩, clean)
  | .digits bytes =>
    let (minute, bytes) ← digits? 2 bytes
    match ← next? colons bytes with
    | .finished clean => some (⟨hour, minute, 0, 0⟩, clean)
    | .fraction bytes =>
      let (microsecond, clean) ← fraction? bytes
      some (⟨hour, minute, 0, microsecond⟩, clean)
    | .digits bytes =>
      let (second, bytes) ← digits? 2 bytes
      match ← next? colons bytes with
      | .finished clean => some (⟨hour, minute, second, 0⟩, clean)
      | .fraction bytes | .digits bytes =>
        let (microsecond, clean) ← fraction? bytes
        some (⟨hour, minute, second, microsecond⟩, clean)

def startsOffset (byte : Nat) : Bool :=
  byte = '+'.toNat || byte = hyphen || byte = 'Z'.toNat

/-- The offset from UTC in microseconds; one without whole seconds is UTC itself. -/
def offset? (bytes : Bytes) : Option Int :=
  match bytes with
  | [] => none
  | sign :: rest =>
    if sign = 'Z'.toNat then if peek rest = 0 then some 0 else none
    else do
      let (clock, clean) ← clock? rest
      guard clean
      let seconds := (clock.hour * 60 + clock.minute) * 60 + clock.second
      let size : Int := if seconds = 0 then 0 else seconds * 1000000 + clock.microsecond
      some (if sign = hyphen then -size else size)

/-- The time of day behind a date with its offset; no text is midnight. -/
def time? (bytes : Bytes) : Option (Clock × Option Int) := do
  let front := bytes.takeWhile fun byte => !startsOffset byte
  let rest := bytes.drop front.length
  let (clock, clean) ← clock? front
  if rest.isEmpty then if clean then some (clock, none) else none
  else (offset? rest).map fun offset => (clock, some offset)

def characterLength (byte : Nat) : Nat :=
  if byte < 0x80 then 1
  else if byte / 16 = 0xe then 3
  else if byte / 16 = 0xf then 4
  else 2

def checkOffset (offset : Int) : Except Failure Unit :=
  if offset.natAbs < 86400000000 then .ok ()
  else
    let seconds := offset / 1000000
    .error (.offsetTooLarge (seconds / 86400) (seconds % 86400) (offset % 1000000))

def checkDate : Date → Except Failure Day
  | .early => .error .monthOutOfRange
  | .day found => if found.isSupported then .ok found else .error (.yearOutOfRange found.year)
  | .civil year month day =>
    if year < 1 then .error (.yearOutOfRange year)
    else if month < 1 ∨ 12 < month then .error .monthOutOfRange
    else
      match civilDay? year month day with
      | some found => .ok found
      | none => .error .dayOutOfRange

def checkClock (clock : Clock) : Except Failure Int :=
  if 23 < clock.hour then .error .hourOutOfRange
  else if 59 < clock.minute then .error .minuteOutOfRange
  else if 59 < clock.second then .error .secondOutOfRange
  else
    let seconds := (clock.hour * 60 + clock.minute) * 60 + clock.second
    .ok (seconds * 1000000 + clock.microsecond)

def parse (text : String) : Except Failure Timestamp := do
  let bytes := text.toUTF8.toList.map UInt8.toNat
  if bytes.length < 7 then throw (.unreadableTime text)
  let length := dateLength bytes
  let some date := date? (bytes.take length) | throw (.unreadableTime text)
  let tail := bytes.drop length
  let (clock, offset) ←
    if tail.isEmpty then pure (({} : Clock), none)
    else
      match time? (tail.drop (characterLength (peek tail))) with
      | some found => pure found
      | none => throw (.unreadableTime text)
  match offset with
  | some offset => checkOffset offset
  | none => pure ()
  let day ← checkDate date
  let micros ← checkClock clock
  return ⟨⟨(WallTime.midnight day).micros + micros⟩, offset⟩

end Iso

end ArrivalRates
