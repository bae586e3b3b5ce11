/-!
# Reading UTF-8

`ofUtf8` reads any bytes: what is no character of UTF-8 becomes the replacement character, one for
as many bytes as a character could have begun with.
-/

namespace ArrivalRates.Text

/-- How many bytes follow the first byte of a character, and the bounds of the next one. The later
ones lie between `0x80` and `0xbf`. -/
def followers? (first : Nat) : Option (Nat × Nat × Nat) :=
  if first < 0x80 then some (0, 0x80, 0xbf)
  else if first < 0xc2 then none
  else if first < 0xe0 then some (1, 0x80, 0xbf)
  else if first = 0xe0 then some (2, 0xa0, 0xbf)
  else if first = 0xed then some (2, 0x80, 0x9f)
  else if first < 0xf0 then some (2, 0x80, 0xbf)
  else if first = 0xf0 then some (3, 0x90, 0xbf)
  else if first < 0xf4 then some (3, 0x80, 0xbf)
  else if first = 0xf4 then some (3, 0x80, 0x8f)
  else none

/-- The following bytes of a character, as far as they are there. -/
def following : Nat → Nat → Nat → List Nat → List Nat
  | count + 1, low, high, byte :: rest =>
    if low ≤ byte ∧ byte ≤ high then byte :: following count 0x80 0xbf rest else []
  | _, _, _, _ => []

def codePoint (first : Nat) (rest : List Nat) : Nat :=
  let share :=
    match rest.length with
    | 0 => 0x80
    | 1 => 0x20
    | 2 => 0x10
    | _ => 0x08
  rest.foldl (fun code byte => code * 0x40 + byte % 0x40) (first % share)

/-- The character at the front of some bytes, and how many bytes after the first it takes. -/
def frontCharacter (first : Nat) (rest : List Nat) : Char × Nat :=
  match followers? first with
  | none => ('\ufffd', 0)
  | some (count, low, high) =>
    let found := following count low high rest
    (if found.length = count then Char.ofNat (codePoint first found) else '\ufffd', found.length)

def ofUtf8 : List Nat → List Char
  | [] => []
  | first :: rest =>
    let (c, count) := frontCharacter first rest
    c :: ofUtf8 (rest.drop count)
termination_by bytes => bytes.length

end ArrivalRates.Text
