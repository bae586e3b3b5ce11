import ArrivalRates.Url.Basic
import ArrivalRates.Url.Query

/-!
# Targets of requests

Where a request of the service goes: a path and parameters. `Target.resolve` finds them from the
reference and the parameters that a caller gives. A reference that does not say where to go all by
itself is taken below the root of the service, so its path then begins with exactly one slash. This
serves to run the service on written requests; theorems begin where a request has arrived.
-/

namespace ArrivalRates

structure Target where
  /-- The path with its escapes undone. -/
  path : String
  parameters : Url.Query.Parameters

namespace Target

inductive Fault where
  | url (fault : Url.Fault)
  | query (fault : Url.Query.Fault)
  /-- A name that has been written in ASCII and cannot be read. -/
  | name (fault : Url.DomainName.Fault)
  deriving DecidableEq, Repr

/-- The path of a reference as it is sent, in normal form. -/
def sentPath (url : Url) : List Char :=
  if url.isAbsolute then if url.path.isEmpty then ['/'] else url.path
  else Url.normalPath ('/' :: url.path.dropWhile (· = '/'))

/-- A reference below the root is put together anew, and its parts then have to be short enough. -/
def checkSizes (url : Url) : Except Url.Fault Unit :=
  if url.isAbsolute then .ok () else Url.checkSizes (sentPath url) url.query

def given (query : Json) : Except Url.Query.Fault Url.Query.Parameters :=
  if Url.Query.isEmpty query then .ok [] else Url.Query.ofJson query

/-- Parameters of the caller count instead of those in the reference, which is put together anew
with them. -/
def replaced (url : Url) (query : Json) : Except Fault Url.Query.Parameters := do
  let parameters ← (given query).mapError .query
  (Url.checkSizes (sentPath url) none).mapError .url
  if Url.maxLength < Url.Query.size parameters then throw (.url (.partTooLong "query"))
  return parameters

/-- The name of the host, if the reference itself says where to go. -/
def checkName (url : Url) : Url.DomainName.Check :=
  if url.isAbsolute && Url.isMarked url.host then
    Url.DomainName.checkAsciiName (Url.sentHost url.host)
  else .ok ()

def resolve (reference : String) (query : Json) : Except Fault Target := do
  let url ← (Url.parse reference).mapError .url
  (checkSizes url).mapError .url
  let parameters ←
    match query with
    | .null => pure (Url.Query.ofText (url.query.getD []))
    | query => replaced url query
  (checkName url).mapError .name
  return ⟨Url.decoded (sentPath url), parameters⟩

end Target

end ArrivalRates
