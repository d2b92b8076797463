import ContainerWarden.Api.Message
import ContainerWarden.Sidecar

namespace ContainerWarden

structure Api where
  settings : Settings
  world : World
  sidecar : Option Sidecar := none

inductive Endpoint where
  | health
  | status
  | events
  | reconcile
  | dedup
  deriving DecidableEq, Repr

namespace Endpoint

def all : List Endpoint := [health, status, events, reconcile, dedup]

def path : Endpoint → String
  | health => "/health"
  | status => "/status"
  | events => "/events"
  | reconcile => "/reconcile"
  | dedup => "/dedup"

def method : Endpoint → String
  | reconcile | dedup => "POST"
  | _ => "GET"

def ofPath? (path : String) : Option Endpoint := all.find? (·.path == path)

end Endpoint

namespace Api

def perform (api : Api) (job : Job α) : Outcome α × Api :=
  let (outcome, world) := api.world.perform job
  (outcome, { api with world })

def keep (api : Api) (sidecar : Sidecar) : Api :=
  { api with world := sidecar.world, sidecar := some sidecar }

/-- Makes a sidecar and starts it. One that was made stays, also if its start fails. -/
def startup (api : Api) : Outcome Unit × Api :=
  match Sidecar.connectAndMake api.settings .logging api.world with
  | .error fault => (.error fault, api)
  | .ok sidecar =>
    let (outcome, sidecar) := sidecar.start
    (outcome, api.keep sidecar)

def shutdown (api : Api) : Api :=
  match api.sidecar with
  | none => api
  | some sidecar => { api.keep { sidecar with world := api.world }.stop with sidecar := none }

def isRunning (api : Api) : Bool := api.sidecar.isSome

def health (api : Api) : ApiResponse :=
  .ok (.obj [("status", .str "healthy"), ("running", .bool api.isRunning)])

def finiteOrNull : Json → Json
  | .float x => if x.isFinite then .float x else .null
  | value => value

def status (api : Api) : ApiResponse :=
  .ok (.obj (api.world.status.snapshot.map fun (name, value) => (name, finiteOrNull value)))

def textOrNull : Option String → Json
  | some s => .str s
  | none => .null

def rowJson (row : LogRow) : Json :=
  .obj [("id", .int row.id), ("level", .str row.level), ("component", textOrNull row.component),
    ("container_id", textOrNull row.containerId), ("message", .str row.message)]

def events (api : Api) (request : ApiRequest) : ApiResponse :=
  match readPage? (request.field? "limit") with
  | none => .invalid
  | some limit =>
    match api.world.log.latest (.int limit) (textOrNull (request.field? "component")) with
    | .ok rows => .ok (.arr (rows.map rowJson))
    | .error _ => .internalError

def containerIds (ids : List Json) : ApiResponse :=
  .ok (.obj [("container_ids", .arr ids)])

def isText : Json → Bool
  | .str _ => true
  | _ => false

def component : String := "api"

def runPass (api : Api) (announcement trouble : String) (caught : Fault → Bool) (pass : Job (List Json)) :
    ApiResponse × Api :=
  let job : Job (List Json) := do
    Job.log (.info component announcement .null)
    pass
  match api.perform job with
  | (.ok ids, api) => (if ids.all isText then containerIds ids else .internalError, api)
  | (.error fault, api) =>
    (if caught fault then .detail 502 (trouble ++ ": " ++ fault.message) else .internalError, api)

def reconcile (api : Api) (user : String) : ApiResponse × Api :=
  api.runPass ("Manual orphan pass requested by " ++ user) "Metadata unavailable" Fault.isMetadata do
    return (← Orphan.pass api.settings).map .str

def dedup (api : Api) (user : String) : ApiResponse × Api :=
  api.runPass ("Manual duplicate check requested by " ++ user) "Container runtime unavailable"
    Fault.isRuntime (Duplicate.pass api.settings)

def serve (api : Api) (request : ApiRequest) (user : String) : Endpoint → ApiResponse × Api
  | .health => (api.health, api)
  | .status => (if api.isRunning then api.status else .notRunning, api)
  | .events => (api.events request, api)
  | .reconcile => if api.isRunning then api.reconcile user else (.notRunning, api)
  | .dedup => if api.isRunning then api.dedup user else (.notRunning, api)

def pages : List String := ["/docs", "/docs/oauth2-redirect", "/openapi.json", "/redoc"]

def servePage (request : ApiRequest) : ApiResponse :=
  if request.method == "GET" || request.method == "HEAD" then .page else .wrongMethod

def handlePath (api : Api) (request : ApiRequest) (path : String) : ApiResponse × Api :=
  match Endpoint.ofPath? path with
  | none => (if pages.contains path then servePage request else .notFound, api)
  | some endpoint =>
    if request.method != endpoint.method then (.wrongMethod, api)
    else if endpoint = .health then (api.health, api)
    else
      match request.authenticate api.settings with
      | .error response => (response, api)
      | .ok user => api.serve request user endpoint

def withoutSlashes (path : String) : String :=
  String.ofList (path.toList.reverse.dropWhile (· == '/')).reverse

def handle (api : Api) (request : ApiRequest) : ApiResponse × Api :=
  let (response, api) := api.handlePath request (withoutSlashes request.path)
  ((if response.isEncodable then response else .internalError).sentTo request.method, api)

end Api

end ContainerWarden
