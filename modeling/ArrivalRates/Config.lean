import ArrivalRates.Clock
import ArrivalRates.Frequency
import ArrivalRates.TimeZone.Lookup
import ArrivalRates.Validation

/-!
# Configuration

The settings of the statistics engine. `Config.decode` reads them from the fields of an object, a
missing field taking its default; `Config.load` does so unless there is no object or the zone cannot
be looked up at all. `checkLayout` says which sub-interval sizes go with a window.
-/

namespace ArrivalRates

structure Config where
  zone : TimeZone
  mergeSources : Bool
  sourceGroups : List (String × String)
  maxMessages : Int
  frequency : Frequency
  /-- The number of buckets in a window. -/
  slots : Int
  /-- The sub-interval sizes, in buckets, in the order of their reports. -/
  sizes : List Int
  deriving Repr

namespace Config

def standard : Config where
  zone := TimeZone.utc
  mergeSources := false
  sourceGroups := []
  maxMessages := 1000
  frequency := .days Frequency.defaultDays
  slots := 12
  sizes := [1, 2, 3, 6, 12]

open Validation

def decodeZone (value : Json) : Checked TimeZone := do
  let name ← text value
  match TimeZone.lookup name with
  | .ok zone => return zone
  | .error _ => fail (.unknownZone name)

/-- A frequency is an object whose field `kind` decides what else is read. -/
def decodeFrequency (value : Json) : Checked Frequency :=
  match value with
  | .obj _ =>
    match value.field? "kind" with
    | none => fail .tagMissing
    | some (.str "monthly") => .ok .monthly
    | some (.str "days") =>
      (within (.key "days")
        (optional value "days" Frequency.defaultDays fun n => atLeast 1 (integer n))).map .days
    | some _ => fail .tagUnknown
  | _ => fail .notRecord

def decode (value : Json) : Checked Config := do
  let zone := optional value "output_time_zone" standard.zone decodeZone
  let mergeSources := optional value "merge_sources" standard.mergeSources boolean
  let sourceGroups := optional value "source_groups" standard.sourceGroups (table text)
  let maxMessages := optional value "max_messages_to_keep" standard.maxMessages fun n =>
    atLeast 1 (integer n)
  let frequency := optional value "report_frequency" standard.frequency decodeFrequency
  let slots := optional value "slots_to_keep" standard.slots fun n => atLeast 1 (integer n)
  let sizes := optional value "sub_interval_sizes" standard.sizes (list integer)
  let (zone, mergeSources, sourceGroups, maxMessages, frequency, slots, sizes) ←
    both zone (both mergeSources (both sourceGroups (both maxMessages (both frequency
      (both slots sizes)))))
  return ⟨zone, mergeSources, sourceGroups, maxMessages, frequency, slots, sizes⟩

/-- Whether looking for a zone went wrong in a way that says nothing about its name. -/
def isBreakdown (cause : Failure) : Bool := cause = .zoneUnreadable || cause = .fileInZone

def checkZone (value : Json) : Except Failure Unit :=
  match value.field? "output_time_zone" with
  | some (.str name) =>
    match TimeZone.lookup name with
    | .error cause => if isBreakdown cause then .error cause else .ok ()
    | .ok _ => .ok ()
  | _ => .ok ()

/-- Reads a configuration from an object. A zone that cannot be looked up ends the reading before
any issue is found. -/
def load : Json → Except Failure (Checked Config)
  | .obj fields => do
    checkZone (.obj fields)
    return decode (.obj fields)
  | _ => .error .wrongKind

/-- Names with an underscore in front that belong to the configurations as such and cannot be set on
one of them. -/
def fixedNames : List String :=
  [ "__weakref__", "__fields_set__", "__class_vars__", "__private_attributes__", "__signature__",
    "__pydantic_complete__", "__pydantic_computed_fields__", "__pydantic_core_schema__",
    "__pydantic_custom_init__", "__pydantic_decorators__", "__pydantic_fields__",
    "__pydantic_generic_metadata__", "__pydantic_parent_namespace__", "__pydantic_post_init__",
    "__pydantic_root_model__", "__pydantic_serializer__", "__pydantic_setattr_handlers__",
    "__pydantic_validator__" ]

/-- A configuration never changes; an attempt to set a field is an issue of that field. Names that
begin with an underscore are no fields: some cannot be set to any value, the one that holds all
fields only to an object, and then they are lost; the others may be set without effect. -/
def setField (config : Config) (name : String) (value : Json) : Except Failure (Checked Config) :=
  if name = "__class__" then .error .wrongKind
  else if name = "__dict__" then
    match value with
    | .obj _ => .error .missingAttribute
    | _ => .error .wrongKind
  else if fixedNames.contains name then .error .missingAttribute
  else if name.startsWith "_" then .ok (.ok config)
  else .ok (within (.key name) (fail .frozen))

end Config

/-- The first size that does not cut a window of `slots` buckets into equal parts. -/
def indivisible? (slots : Int) (sizes : List Int) : Option Int :=
  sizes.find? fun size => decide (size < 1 ∨ slots % size ≠ 0)

/-- There has to be a size, and the window has to be a multiple of each. -/
def checkLayout (slots : Int) (sizes : List Int) : Except Failure Unit :=
  if sizes.isEmpty then .error .noSizes
  else
    match indivisible? slots sizes with
    | some size => .error (.indivisibleSize slots size)
    | none => .ok ()

end ArrivalRates
