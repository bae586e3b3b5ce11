import ArrivalRates.Binary64.Decimal
import ArrivalRates.Text.Quoted
import ArrivalRates.Url.DomainName.Table
import ArrivalRates.Url.Punycode

/-!
# Domain names beyond ASCII

A domain name consists of labels between full stops. A label has to be in composed form and may hold
letters, digits and marks of all scripts, some only beside certain others; one that runs from right
to left may not mix directions. `checkName` says whether a name can be written in ASCII, where a
label with other characters stands in Punycode behind `xn--`, and `checkAsciiName` whether one that
is written so can be read. A reference to an unfit name makes no request; running the service needs
no more of names than that.
-/

namespace ArrivalRates.Url.DomainName

/-- What is wrong with a name. Positions count from one. -/
inductive Fault where
  | nameTooLong
  | emptyName
  | labelTooLong
  | emptyLabel
  | notComposed
  /-- Hyphens at the third and the fourth place. -/
  | reservedHyphens
  | outerHyphen
  | leadingMark
  | notAllowed (c : Char) (position : Nat) (label : String)
  | joinerNotAllowed (c : Char) (position : Nat) (label : String)
  /-- A character beside which another one is missing. -/
  | neighbourMissing (c : Char) (position : Nat) (label : String)
  | undirectedStart (label : String)
  | wrongDirection (position : Nat)
  | mixedNumerals
  | wrongEnd
  | nothingBehindMarker
  | hyphenAtEnd
  | undecodable
  /-- A label in mixed directions that begins from left to right. -/
  | wrongDirectionToRight (position : Nat)
  deriving DecidableEq, Repr

def codeText (c : Char) : String :=
  "U+" ++ (String.ofList (Text.hexadecimal 4 c.toNat)).toUpper

def placeText (position : Nat) (label : String) (joint : String) : String :=
  " at position " ++ integerText position ++ joint ++ Text.quoted label

def Fault.message : Fault → String
  | nameTooLong => "Domain too long"
  | emptyName => "Empty domain"
  | labelTooLong => "Label too long"
  | emptyLabel => "Empty Label"
  | notComposed => "Label must be in Normalization Form C"
  | reservedHyphens => "Label has disallowed hyphens in 3rd and 4th position"
  | outerHyphen => "Label must not start or end with a hyphen"
  | leadingMark => "Label begins with an illegal combining character"
  | notAllowed c position label =>
    "Codepoint " ++ codeText c ++ placeText position label " of " ++ " not allowed"
  | joinerNotAllowed c position label =>
    "Unknown codepoint adjacent to joiner " ++ codeText c ++ placeText position label " in "
  | neighbourMissing c position label =>
    "Codepoint " ++ codeText c ++ " not allowed" ++ placeText position label " in "
  | undirectedStart label =>
    "First codepoint in label " ++ Text.quoted label ++ " must be directionality L, R or AL"
  | wrongDirection position =>
    "Invalid direction for codepoint at position " ++ integerText position
      ++ " in a right-to-left label"
  | wrongDirectionToRight position =>
    "Invalid direction for codepoint at position " ++ integerText position
      ++ " in a left-to-right label"
  | mixedNumerals => "Can not mix numeral types in a right-to-left label"
  | wrongEnd => "Label ends with illegal codepoint directionality"
  | nothingBehindMarker => "Malformed A-label, no Punycode eligible content found"
  | hyphenAtEnd => "A-label must not end with a hyphen"
  | undecodable => "Invalid A-label"

abbrev Check := Except Fault Unit

/-! ## Composed form -/

def combiningClass (code : Nat) : Nat :=
  match combiningClasses.find? fun (first, last, _) => first ≤ code && code ≤ last with
  | some (_, _, value) => value
  | none => 0

/-- A character taken apart, at most so many times. -/
def apart : Nat → Nat → List Nat
  | 0, code => [code]
  | fuel + 1, code =>
    match compositions.find? fun (whole, _) => whole = code with
    | some (_, first, second) => apart fuel first ++ [second]
    | none => [code]

/-- Puts a mark in front of those before it that have a higher class. The text stands in reverse. -/
def settle (code : Nat) : List Nat → List Nat
  | [] => [code]
  | before :: rest =>
    if combiningClass code ≠ 0 ∧ combiningClass code < combiningClass before then
      before :: settle code rest
    else code :: before :: rest

def decomposed (label : List Char) : List Nat :=
  ((label.flatMap fun c => apart 4 c.toNat).foldl (fun done code => settle code done) []).reverse

def composition? (first second : Nat) : Option Nat :=
  (compositions.find? fun (_, a, b) => a = first ∧ b = second).map (·.1)

/-- The character that a mark can be put on, the marks behind it in reverse, and the rest. A mark of
the same class or of none keeps those behind it apart from the character. -/
def composedFrom (start : Nat) (between : List Nat) : List Nat → List Nat
  | [] => start :: between.reverse
  | code :: rest =>
    let isFree := between.head?.all fun before => combiningClass before < combiningClass code
    match if isFree then composition? start code else none with
    | some whole => composedFrom whole between rest
    | none =>
      if combiningClass code = 0 then start :: between.reverse ++ composedFrom code [] rest
      else composedFrom start (code :: between) rest

/-- Whether putting the characters together again gives the label itself. -/
def isComposed (label : List Char) : Bool :=
  let codes := decomposed label
  let marks := codes.takeWhile fun code => combiningClass code ≠ 0
  let composed :=
    match codes.drop marks.length with
    | [] => marks
    | start :: rest => marks ++ composedFrom start [] rest
  composed = label.map Char.toNat

/-! ## Characters in context -/

def isVirama (c : Char) : Bool := combiningClass c.toNat = 9

def isNonspacing (c : Char) : Bool := marks.has c && !spacingMarks.has c

/-- A mark that splits no joint. -/
def joinsBeside (letters : Char → Bool) (cs : List Char) : Bool :=
  (cs.dropWhile isNonspacing).head?.any letters

/-- Whether a joiner may stand between the characters before it, in reverse, and those after it. -/
def joinerFits (c : Char) (before after : List Char) : Bool :=
  before.head?.any isVirama
    || (c = '\u200c' && joinsBeside (fun c => joiningLeft.has c || joiningBoth.has c) before
      && joinsBeside (fun c => joiningRight.has c || joiningBoth.has c) after)

def isArabicDigit (c : Char) : Bool := '\u0660' ≤ c && c ≤ '\u0669'

def isEasternDigit (c : Char) : Bool := '\u06f0' ≤ c && c ≤ '\u06f9'

/-- Whether a character that needs others may stand in a label; all others may. -/
def contextFits (label : List Char) (c : Char) (before after : List Char) : Bool :=
  if c = '\u00b7' then before.head? = some 'l' && after.head? = some 'l'
  else if c = '\u0375' then after.head?.any greek.has
  else if c = '\u05f3' || c = '\u05f4' then before.head?.any hebrew.has
  else if c = '\u30fb' then label.any fun c => c ≠ '\u30fb' && japanese.has c
  else if isArabicDigit c then !label.any isEasternDigit
  else if isEasternDigit c then !label.any isArabicDigit
  else true

/-- The characters from the next one on, those before it standing in reverse. -/
def checkCharacters (label before : List Char) : List Char → Check
  | [] => .ok ()
  | c :: after =>
    let position := before.length + 1
    let text := String.ofList label
    if !allowed.has c then .error (.notAllowed c position text)
    else if c = '\u200c' ∨ c = '\u200d' then
      if joinerFits c before after then checkCharacters label (c :: before) after
      else .error (.joinerNotAllowed c position text)
    else if contextFits label c before after then checkCharacters label (c :: before) after
    else .error (.neighbourMissing c position text)

/-! ## Direction -/

inductive Direction where
  | left
  | right
  | arabicNumber
  | number
  | mark
  | neutral
  deriving DecidableEq, Repr

def neutrals : List Char :=
  [ '-', '\u00b7', '\u02b9', '\u02ba', '\u02ec', '\u0375', '\u200c', '\u200d', '\u2e2f', '\u30fb',
    '\ua67f', '\ua788' ]

def Direction.ofChar (c : Char) : Direction :=
  if rightToLeft.has c || arabicLetters.has c then right
  else if isArabicDigit c || (0x10d30 ≤ c.toNat && c.toNat ≤ 0x10d39) then arabicNumber
  else if ('0' ≤ c && c ≤ '9') || isEasternDigit c then number
  else if isNonspacing c then mark
  else if neutrals.contains c || ('\u02c6' ≤ c && c ≤ '\u02cf')
      || ('\ua717' ≤ c && c ≤ '\ua71f') then neutral
  else left

/-- The characters of a label from right to left, from a position on, after a kind of numbers. -/
def checkRightToLeft (position : Nat) (numbers : Option Direction) : List Direction → Check
  | [] => .ok ()
  | direction :: rest =>
    if direction = .left then .error (.wrongDirection position)
    else if direction = .arabicNumber ∨ direction = .number then
      if numbers.any (· ≠ direction) then .error .mixedNumerals
      else checkRightToLeft (position + 1) (some direction) rest
    else checkRightToLeft (position + 1) numbers rest

/-- The first character of a label that does not belong into one from left to right. -/
def checkLeftToRight (position : Nat) : List Direction → Check
  | [] => .ok ()
  | direction :: rest =>
    if direction = .right ∨ direction = .arabicNumber then
      .error (.wrongDirectionToRight position)
    else checkLeftToRight (position + 1) rest

/-- Only a label with a character from right to left is held to the rules of direction. -/
def checkDirection (label : List Char) : Check :=
  let directions := label.map Direction.ofChar
  if directions.any fun direction => direction = .right || direction = .arabicNumber then
    match directions.head? with
    | some .right => do
      checkRightToLeft 1 none directions
      match (directions.reverse.dropWhile (· = .mark)).head? with
      | some .neutral => throw .wrongEnd
      | _ => return ()
    | some .left => checkLeftToRight 1 directions
    | _ => .error (.undirectedStart (String.ofList label))
  else .ok ()

/-! ## Labels and names -/

/-- The most characters of a label before it is looked at. -/
def maxLabelText : Nat := 254

def checkLabel (label : List Char) : Check := do
  if label.isEmpty then throw .emptyLabel
  if maxLabelText < label.length then throw .labelTooLong
  if !isComposed label then throw .notComposed
  if (label.drop 2).take 2 = ['-', '-'] then throw .reservedHyphens
  if label.head? = some '-' ∨ label.getLast? = some '-' then throw .outerHyphen
  if label.head?.any marks.has then throw .leadingMark
  checkCharacters label [] label
  checkDirection label

def marker : List Char := ['x', 'n', '-', '-']

/-- The most characters of a label as it is written, and of a name. -/
def maxLabel : Nat := 63

def maxName : Nat := 253

/-- A label in ASCII is checked as the label that it stands for. -/
def checkAsciiLabel (label : List Char) : Check :=
  let label := label.map Char.toLower
  if label.take 4 = marker then
    let told := label.drop 4
    if told.isEmpty then .error .nothingBehindMarker
    else if told.getLast? = some '-' then .error .hyphenAtEnd
    else
      match Punycode.decode? told with
      | some label => checkLabel label
      | none => .error .undecodable
  else checkLabel label

def written (label : List Char) : Except Fault (List Char) := do
  let text ←
    if label.all Punycode.isAscii then do
      checkAsciiLabel label
      pure label
    else do
      checkLabel label
      pure (marker ++ Punycode.encode label)
  if maxLabel < text.length then throw .labelTooLong
  return text

def isStop (c : Char) : Bool := c = '.' || c = '\u3002' || c = '\uff0e' || c = '\uff61'

/-- The labels of a name; the stop at its end does not begin another one. -/
def labels (name : List Char) : List (List Char) :=
  let all :=
    name.foldr (fun c labels =>
      if isStop c then [] :: labels
      else
        match labels with
        | label :: rest => (c :: label) :: rest
        | [] => [[c]]) [[]]
  if all.getLast? = some [] then all.dropLast else all

def checkNameText (name : List Char) : Check :=
  if name.isEmpty then .error .emptyName
  else if maxName + 1 < name.length then .error .nameTooLong
  else .ok ()

def small (c : Char) : List Char :=
  if c = '\u0130' then ['i', '\u0307']
  else
    match smallLetters.find? fun (capital, _) => capital = c.toNat with
    | some (_, code) => [Char.ofNat code]
    | none => [c.toLower]

/-- Whether a name can be written in ASCII, apart from capital letters. -/
def checkName (name : List Char) : Check := do
  let name := name.flatMap small
  checkNameText name
  let texts ← (labels name).mapM written
  let size := texts.foldl (fun size text => size + text.length + 1) 0
  if maxName + 1 < size then throw .nameTooLong

def checkAsciiName (name : List Char) : Check := do
  checkNameText name
  (labels name).forM checkAsciiLabel

def isValid (name : List Char) : Bool := (checkName name).toBool

end ArrivalRates.Url.DomainName
