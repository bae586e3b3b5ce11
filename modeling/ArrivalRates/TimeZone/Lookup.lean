import ArrivalRates.Failure
import ArrivalRates.TimeZone.Table

/-!
# Looking zones up by name

The data of the zones lie in files below one directory; the last part of a name is the name of the
file and the parts before it are directories, between which a point is as good as a slash.
`TimeZone.lookup` finds a zone or says why there is none. Before any file is looked for, a name has
to be a path that leads down from the directory without detours.
-/

namespace ArrivalRates.TimeZone

def regions : List String :=
  [ "Africa", "America", "America/Argentina", "America/Indiana", "America/Kentucky",
    "America/North_Dakota", "Antarctica", "Arctic", "Asia", "Atlantic", "Australia", "Brazil",
    "Canada", "Chile", "Etc", "Europe", "Indian", "Mexico", "Pacific", "US" ]

/-- The file that every directory has besides the zones, and the directory. -/
def indexFile : String := "__init__.py"

def cacheDirectory : String := "__pycache__"

/-- Files beside the regions that hold no zone. -/
def tables : List String :=
  ["iso3166.tab", "leapseconds", "tzdata.zi", "zone.tab", "zone1970.tab", "zonenow.tab"]

def maxFileName : Nat := 255

/-- The steps of a path with those left out that lead nowhere. -/
def straightened (steps : List String) : List String :=
  (steps.foldl (fun done step =>
    if step = "" ∨ step = "." then done
    else if step = ".." ∧ !done.isEmpty ∧ done.head? ≠ some ".." then done.drop 1
    else step :: done) []).reverse

/-- Whether a name leads into the directory of the zones, here called `_`. -/
def leadsInside (steps : List String) : Bool :=
  match straightened ("_" :: steps) with
  | "_" :: _ :: _ => true
  | _ => false

/-- A name that is no path below the directory of the zones is refused. -/
def checkName (name : String) : Except Failure Unit :=
  let steps := name.splitOn "/"
  if name.startsWith "/" then .error (.absoluteZone name)
  else if name ≠ "." ∧ straightened steps ≠ steps then .error (.windingZone name)
  else if !leadsInside steps then .error (.outerZone name)
  else .ok ()

def splitName (name : String) : String × String :=
  let steps := name.splitOn "/"
  ("/".intercalate (steps.dropLast.flatMap fun step => step.splitOn "."), steps.getLastD "")

def isDirectory (path : String) : Bool := path.isEmpty || regions.contains path

/-- Whether a directory of a name is really the file that stands for one. -/
def isIndex (directory : String) : Bool :=
  let steps := directory.splitOn "/"
  steps.getLast? = some "__init__" && isDirectory ("/".intercalate steps.dropLast)

def openFile (name directory file : String) : Except Failure TimeZone :=
  let path := if directory.isEmpty then file else directory ++ "/" ++ file
  if file.toList.contains '\x00' then .error .nullInZone
  else if regions.contains path ∨ file = cacheDirectory ∨ maxFileName < file.utf8ByteSize then
    .error .zoneUnreadable
  else if file = indexFile ∨ (directory.isEmpty ∧ tables.contains file) then
    .error .malformedZone
  else
    match find? name with
    | some zone => .ok zone
    | none => .error (.unknownZone name)

def lookup (name : String) : Except Failure TimeZone := do
  checkName name
  let (directory, file) := splitName name
  if isIndex directory then throw .fileInZone
  else if isDirectory directory then openFile name directory file
  else throw (.unknownZone name)

end ArrivalRates.TimeZone
