import ArrivalRates.Binary64.Decimal
import ArrivalRates.Text.Blank
import ArrivalRates.Text.Integer
import ArrivalRates.Text.Quoted
import ArrivalRates.Url.Address
import ArrivalRates.Url.DomainName

/-!
# References to resources

A reference has up to five parts: `scheme:`, `//authority`, a path, `?query` and `#fragment`.
`Url.parse` takes it apart and refuses what cannot be sent. With a scheme or an authority the path
is put into normal form: steps such as `.` and `..` are taken.

References serve to run the service: a caller of `Service.visit` says with one where a request goes.
What is proved of the service starts where a request has arrived, so no theorem is about references,
nor about their hosts and queries.
-/

namespace ArrivalRates

structure Url where
  scheme : String
  host : List Char
  path : List Char
  query : Option (List Char)

namespace Url

inductive Fault where
  | tooLong
  | partTooLong (name : String)
  | unprintable (c : Char) (position : Nat)
  | invalidIpv4 (host : String)
  | invalidIpv6 (host : String)
  | invalidDomain (host : String)
  | invalidPort (port : String)
  /-- A path that would be taken for an authority. -/
  | leadingSlashes
  /-- A path that would be taken for the end of a scheme. -/
  | leadingColon
  deriving DecidableEq, Repr

def Fault.message : Fault → String
  | tooLong => "URL too long"
  | partTooLong name => "URL component '" ++ name ++ "' too long"
  | unprintable c position =>
    "Invalid non-printable ASCII character in URL, " ++ Text.quoted (String.singleton c)
      ++ " at position " ++ integerText position ++ "."
  | invalidIpv4 host => "Invalid IPv4 address: " ++ Text.quoted host
  | invalidIpv6 host => "Invalid IPv6 address: " ++ Text.quoted host
  | invalidDomain host => "Invalid IDNA hostname: " ++ Text.quoted host
  | invalidPort port => "Invalid port: " ++ Text.quoted port
  | leadingSlashes => "Relative URLs cannot have a path starting with '//'"
  | leadingColon => "Relative URLs cannot have a path starting with ':'"

/-- The most characters of a reference, and of each of its parts once it is escaped. -/
def maxLength : Nat := 65536

def isHidden (c : Char) : Bool := c.toNat < 0x20 || c.toNat = 0x7f

/-- The scheme and what follows its colon; a colon in front of all ends an empty scheme. -/
def splitScheme (cs : List Char) : List Char × List Char :=
  let isInside := fun (c : Char) => c.isAlphanum || c = '+' || c = '-' || c = '.'
  let scheme := cs.takeWhile isInside
  match cs.drop scheme.length with
  | ':' :: rest => if scheme.head?.all Char.isAlpha then (scheme, rest) else ([], cs)
  | _ => ([], cs)

def splitAuthority : List Char → List Char × List Char
  | '/' :: '/' :: rest =>
    let isInside := fun (c : Char) => !(c = '/' || c = '?' || c = '#')
    (rest.takeWhile isInside, rest.dropWhile isInside)
  | cs => ([], cs)

def splitAtLast? (separator : Char) (cs : List Char) : Option (List Char × List Char) :=
  let back := cs.reverse
  match back.dropWhile (· ≠ separator) with
  | [] => none
  | _ :: front => some (front.reverse, (back.takeWhile (· ≠ separator)).reverse)

/-- The host of an authority without user, and its port. A host in brackets may hold colons. -/
def splitPort (cs : List Char) : List Char × List Char :=
  let inBrackets :=
    match cs with
    | '[' :: _ => splitAtLast? ']' cs
    | _ => none
  let (host, rest) :=
    match inBrackets with
    | some (front, rest) => (front ++ [']'], rest)
    | none => (cs.takeWhile (· ≠ ':'), cs.dropWhile (· ≠ ':'))
  match rest with
  | ':' :: port => (host, port)
  | port => (host, port)

/-- Moves of a reader of four numbers with any character between two of them. An even state expects
a digit, an odd one has seen one. -/
def numericMoves (c : Char) (state : Nat) : List Nat :=
  (if isAsciiDigit c then [state / 2 * 2 + 1] else [])
    ++ if state % 2 = 1 ∧ state < 7 then [state + 1] else []

/-- Whether a host looks like four numbers, and so has to be a numeric address. -/
def looksNumeric (host : List Char) : Bool :=
  (host.foldl (fun states c => (states.flatMap (numericMoves c)).eraseDups) [0]).contains 7

def checkHost (host : List Char) : Except Fault Unit :=
  let text := String.ofList host
  if looksNumeric host then if isIpv4 host then .ok () else .error (.invalidIpv4 text)
  else if host.head? = some '[' ∧ host.getLast? = some ']' then
    if isIpv6 (host.drop 1).dropLast then .ok () else .error (.invalidIpv6 text)
  else if host.all (fun c => c.toNat < 0x80) ∨ DomainName.isValid host then .ok ()
  else .error (.invalidDomain text)

def defaultPorts : List (String × Int) :=
  [("ftp", 21), ("http", 80), ("https", 443), ("ws", 80), ("wss", 443)]

/-- The port of an authority, unless there is none or it is that of the scheme. -/
def readPort (scheme port : List Char) : Except Fault (Option Int) :=
  if port.isEmpty then .ok none
  else
    match Text.integer? (Text.strip Text.isBlank port) with
    | none => .error (.invalidPort (String.ofList port))
    | some n =>
      .ok (if defaultPorts.contains (String.ofList scheme, n) then none else some n)

/-- The steps of a path with `.` left out and `..` taken back, in reverse. -/
def walk : List String → List String → List String
  | done, [] => done
  | done, "." :: rest => walk done rest
  | done, ".." :: rest => walk (if done = [""] then done else done.drop 1) rest
  | done, step :: rest => walk (step :: done) rest

def normalPath (path : List Char) : List Char :=
  ("/".intercalate (walk [] ((String.ofList path).splitOn "/")).reverse).toList

/-- A path without scheme and authority has to be told apart from both. -/
def checkRelativePath : List Char → Except Fault Unit
  | '/' :: '/' :: _ => .error .leadingSlashes
  | ':' :: _ => .error .leadingColon
  | _ => .ok ()

def checkText (cs : List Char) : Except Fault Unit :=
  if maxLength < cs.length then .error .tooLong
  else
    match cs.find? isHidden with
    | some c => .error (.unprintable c (cs.takeWhile fun c => !isHidden c).length)
    | none => .ok ()

def parse (text : String) : Except Fault Url := do
  let cs := text.toList
  checkText cs
  let (scheme, rest) := splitScheme (cs.takeWhile (· ≠ '#'))
  let (authority, rest) := splitAuthority rest
  let path := rest.takeWhile (· ≠ '?')
  let query :=
    match rest.drop path.length with
    | _ :: query => some query
    | [] => none
  let (user, place) := (splitAtLast? '@' authority).getD ([], authority)
  let (host, port) := splitPort place
  checkHost host
  let port ← readPort scheme port
  if scheme.isEmpty && user.isEmpty && host.isEmpty && port.isNone then
    checkRelativePath path
    return ⟨"", host, path, query⟩
  else return ⟨String.ofList scheme, host, normalPath path, query⟩

def isAbsolute (url : Url) : Bool := !url.scheme.isEmpty && !url.host.isEmpty

/-- A host in ASCII as it is sent: in small letters, with the characters escaped that a host cannot
have. -/
def sentHost (host : List Char) : List Char :=
  host.flatMap fun c =>
    if [' ', '<', '>', '[', ']', '^'].contains c then
      '%' :: (Text.hexadecimal 2 c.toNat).map Char.toUpper
    else [c.toLower]

/-- Whether a host is a name that is sent as it is and has to be read before. -/
def isMarked (host : List Char) : Bool :=
  host.all Punycode.isAscii && (sentHost host).take 4 = DomainName.marker

/-- The length of a text in which three characters stand for each byte of an unsafe one. -/
def escapedSize (isUnsafe : Char → Bool) (cs : List Char) : Nat :=
  cs.foldl (fun size c => size + if c.toNat < 0x80 ∧ !isUnsafe c then 1 else 3 * c.utf8Size) 0

def isUnsafeInQuery (c : Char) : Bool := [' ', '"', '#', '<', '>'].contains c

def isUnsafeInPath (c : Char) : Bool :=
  isUnsafeInQuery c || ['?', '\x60', '\x7b', '\x7d'].contains c

def checkSizes (path : List Char) (query : Option (List Char)) : Except Fault Unit :=
  if maxLength < escapedSize isUnsafeInPath path then .error (.partTooLong "path")
  else if query.any fun query => maxLength < escapedSize isUnsafeInQuery query then
    .error (.partTooLong "query")
  else .ok ()

end Url

end ArrivalRates
