import ArrivalRates.Text.Digit

/-!
# Numeric addresses of hosts

The two numeric forms that a host may have. `isIpv4` takes four decimal numbers below 256 between
points; `isIpv6` takes eight groups of hexadecimal digits between colons, of which a run may be left
out once and the last two may be written in the first form, and behind them the name of a zone. Only
the reading of references needs them.
-/

namespace ArrivalRates.Url

def isAsciiDigit (c : Char) : Bool := (Text.asciiDigit? c).isSome

def parts (separator : Char) (cs : List Char) : List (List Char) :=
  ((String.ofList cs).splitOn (String.singleton separator)).map String.toList

def isOctet (digits : List Char) : Bool :=
  digits.all isAsciiDigit && digits.length ≤ 3
    && match digits with
      | [] => false
      | '0' :: rest => rest.isEmpty
      | _ => (digits.filterMap Text.asciiDigit?).foldl (fun n d => 10 * n + d) 0 < 256

def isIpv4 (cs : List Char) : Bool :=
  let octets := parts '.' cs
  octets.length = 4 && octets.all isOctet

def isHexDigit (c : Char) : Bool :=
  isAsciiDigit c || ('a' ≤ c && c ≤ 'f') || ('A' ≤ c && c ≤ 'F')

def isGroup (digits : List Char) : Bool :=
  !digits.isEmpty && digits.length ≤ 4 && digits.all isHexDigit

/-- The groups with the first form at their end written as two groups, if it is well formed. -/
def withoutIpv4? (groups : List (List Char)) : Option (List (List Char)) :=
  match groups.getLast? with
  | some last =>
    if last.contains '.' then
      if isIpv4 last then some (groups.dropLast ++ [['0'], ['0']]) else none
    else some groups
  | none => some groups

/-- What stands before and after the one empty group inside, if there is one. -/
def splitAtGap (groups : List (List Char)) : List (List Char) × List (List Char) :=
  let front := groups.take 1 ++ (groups.drop 1).takeWhile fun group => !group.isEmpty
  (front, groups.drop (front.length + 1))

/-- The groups beside a gap: an empty one at the end of the address has to touch the gap. -/
def besideGap? (groups : List (List Char)) : Option (List (List Char)) :=
  if groups = [[]] then some [] else if groups.all isGroup then some groups else none

def areGroups (groups : List (List Char)) : Bool :=
  let inner := (groups.drop 1).dropLast
  if inner.any List.isEmpty then
    let (front, back) := splitAtGap groups
    match besideGap? front, besideGap? back with
    | some front, some back => front.length + back.length < 8
    | _, _ => false
  else groups.length = 8 && groups.all isGroup

/-- An address behind which a percent sign may lead to the name of a zone. -/
def isIpv6 (cs : List Char) : Bool :=
  let address := cs.takeWhile (· ≠ '%')
  let zone := cs.drop address.length
  let groups := parts ':' address
  (zone.isEmpty || (1 < zone.length && !(zone.drop 1).contains '%')) && !cs.contains '/'
    && 3 ≤ groups.length
    && match withoutIpv4? groups with
      | some groups => areGroups groups
      | none => false

end ArrivalRates.Url
