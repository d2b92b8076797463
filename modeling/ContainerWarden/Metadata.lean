import ContainerWarden.Plan
import ContainerWarden.Record.Desired
import ContainerWarden.Settings

namespace ContainerWarden.Metadata

def service (settings : Settings) : Outcome Address :=
  (Address.ofService settings.metadataUrl).mapError .invalidAddress

def address (settings : Settings) (path : String) (fields : List (String × String)) :
    Outcome Address := do
  let place ← ((← service settings).below path).mapError .invalidAddress
  if fields.isEmpty then return place
  else
    match fields.findSome? fun (_, value) => Text.unencodable? value with
    | some run => throw (.unencodable run)
    | none => (place.withFields fields).mapError .invalidAddress

def plainRequest (settings : Settings) (path : String) : Outcome HttpRequest := do
  return { address := ← address settings path [], timeout := settings.metadataTimeout }

def versionFields (current : String) (maxWait : Int) : List (String × String) :=
  [("wait", "true"), ("value", current), ("maxWait", toString maxWait)]

def versionRequest (settings : Settings) (current : String) (maxWait : Int) : Outcome HttpRequest := do
  let wait ← (Number.finiteOfInt? maxWait).elim (.error .integerBeyondFloat) .ok
  let place ← address settings "/version" (versionFields current maxWait)
  return { address := place, timeout := wait + settings.metadataTimeout }

/-- A redirection is not followed, but it must lead to an address. -/
def checkRedirection (address : Address) (response : HttpResponse) : Outcome Unit :=
  match response.redirection? with
  | none => .ok ()
  | some location =>
    match address.checkLocation location with
    | .ok () => .ok ()
    | .error (.noAddress fault) => .error (.invalidLocation fault)
    | .error (.noPlace fault) => .error (.invalidAddress fault)

def contents (path : String) (response : HttpResponse) : Outcome Json :=
  match response.document with
  | .ok value => .ok value
  | .error (.tooDeep container) => .error (.nestedTooDeep container)
  | .error _ => .error (.invalidJson path)

def document (path : String) (request : HttpRequest) : Job Json := do
  let response ← Job.fetch request
  Job.ofExcept (checkRedirection request.address response)
  if !response.isSuccess then throw (.badStatus (response.failureText request.address.text))
  Job.ofExcept (contents path response)

def plainDocument (settings : Settings) (path : String) : Job Json := do
  document path (← Job.ofExcept (plainRequest settings path))

def selfHost (settings : Settings) : Job HostIdentity := do
  let value ← plainDocument settings "/self/host"
  if value.isObject then Job.ofExcept (HostIdentity.ofJson value)
  else throw (.unexpectedHost value)

/-- The desired containers. Items of the list that are no objects are passed over. -/
def containers (settings : Settings) : Job (List DesiredContainer) := do
  match ← plainDocument settings "/containers" with
  | .arr items => Job.ofExcept ((items.filter Json.isObject).mapM DesiredContainer.ofJson)
  | other => throw (.unexpectedContainers other.typeName)

def version (settings : Settings) (current : String) (maxWait : Int) : Job String := do
  let request ← Job.ofExcept (versionRequest settings current maxWait)
  return (← document "/version" request).text

end ContainerWarden.Metadata
