/-!
# Groups of sources

A static table from source names to the group under which a source is analysed. A source without
an entry belongs to the group of all such sources.
-/

namespace ArrivalRates

structure SourceGroups where
  assignments : List (String × String)
  deriving DecidableEq, Repr

namespace SourceGroups

/-- The group of every source that has none of its own. -/
def allSources : String := "[ALL_SOURCES]"

def empty : SourceGroups := ⟨[]⟩

/-- Sets the entry of a source; an entry that is there keeps its place. -/
def assign (groups : SourceGroups) (source group : String) : SourceGroups :=
  if groups.assignments.any (·.1 = source) then
    ⟨groups.assignments.map fun entry => if entry.1 = source then (source, group) else entry⟩
  else ⟨groups.assignments ++ [(source, group)]⟩

def ofList (entries : List (String × String)) : SourceGroups :=
  entries.foldl (fun groups (source, group) => groups.assign source group) empty

def groupFor (groups : SourceGroups) (source : String) : String :=
  ((groups.assignments.find? (·.1 = source)).map (·.2)).getD allSources

def size (groups : SourceGroups) : Nat := groups.assignments.length

end SourceGroups

end ArrivalRates
