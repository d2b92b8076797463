import ContainerWarden.Handler

namespace ContainerWarden

inductive RuntimeCall where
  | containers (all : Bool)
  | inspect (id : String)
  | remove (id : String) (force : Bool)
  | stop (id : Json) (grace : Int)
  | events

structure Failures where
  list : Option Fault := none
  subscribe : Option Fault := none
  connect : Option Fault := none
  inspect : List (String × Fault) := []
  remove : List (String × Fault) := []
  stop : List (String × Fault) := []

/-- Surroundings whose answers are all laid down beforehand, with the traces that work leaves. -/
structure World where
  containers : List Json := []
  inspections : List (String × Json) := []
  feed : List (Outcome Json) := []
  finite : Bool := false
  failures : Failures := {}
  /-- Answers by the end of the path. The last one is given again and again. -/
  pages : List (String × List (Outcome HttpResponse)) := []
  /-- What the next listings show instead of the containers. -/
  listings : List (Outcome (List Json)) := []
  restsLeft : Option Nat := none
  closed : Bool := false
  calls : List RuntimeCall := []
  requests : List HttpRequest := []
  log : EventLog := {}
  status : Status := .fresh
  notes : List (String × LifecycleEvent) := []
  rests : List Float := []

namespace World

def called (world : World) (call : RuntimeCall) : World := { world with calls := call :: world.calls }

def failureFor (failures : List (String × Fault)) : Json → Option Fault
  | .str id => failures.lookup id
  | _ => none

def isRunning (container : Json) : Bool :=
  ((container.member? "State").getD .null).isText "running"

def nextListing (world : World) : Outcome Unit × World :=
  match world.listings with
  | [] => (.ok (), world)
  | .ok containers :: rest => (.ok (), { world with containers, listings := rest })
  | .error fault :: rest => (.error fault, { world with listings := rest })

def list (world : World) (all : Bool) : Outcome (List Json) × World :=
  match (world.called (.containers all)).nextListing with
  | (.error fault, world) => (.error fault, world)
  | (.ok (), world) =>
    match world.failures.list with
    | some fault => (.error fault, world)
    | none => (.ok (if all then world.containers else world.containers.filter isRunning), world)

def inspect (world : World) (id : String) : Outcome Json :=
  match world.failures.inspect.lookup id with
  | some fault => .error fault
  | none =>
    match world.inspections.lookup id with
    | some answer => .ok answer
    | none => .error (.noSuchContainer id)

def orFault : Option Fault → Outcome Unit
  | some fault => .error fault
  | none => .ok ()

def notFoundPage : HttpResponse := ⟨404, [], none⟩

def nextPage (path : String) : List (String × List (Outcome HttpResponse)) →
    Outcome HttpResponse × List (String × List (Outcome HttpResponse))
  | [] => (.ok notFoundPage, [])
  | (p, answers) :: rest =>
    if path.endsWith p then
      match answers with
      | [] => (.ok notFoundPage, (p, []) :: rest)
      | [answer] => (answer, (p, [answer]) :: rest)
      | answer :: later => (answer, (p, later) :: rest)
    else
      let (answer, remaining) := nextPage path rest
      (answer, (p, answers) :: remaining)

/-- Asks for a document. An answer from an address without a type is not taken. -/
def fetch (world : World) (request : HttpRequest) : Outcome HttpResponse × World :=
  if world.closed then (.error .clientClosed, world)
  else
    let (answer, pages) := nextPage (Text.percentDecoded request.address.path) world.pages
    let world := { world with pages, requests := request :: world.requests }
    match answer with
    | .error fault => (.error fault, world)
    | .ok response =>
      if request.address.hasType then (.ok response, world)
      else (.error (.untypedAddress request.address.shown), world)

def append (world : World) (entry : LogEntry) : Outcome Unit × World :=
  match world.log.append entry with
  | .ok log => (.ok (), { world with log })
  | .error fault => (.error fault, world)

def rested (world : World) (seconds : Float) : World :=
  { world with rests := seconds :: world.rests, restsLeft := world.restsLeft.map (· - 1) }

def answer (effect : Effect) (world : World) : effect.Reply × World :=
  match effect with
  | .list all => world.list all
  | .inspect id => (world.inspect id, world.called (.inspect id))
  | .remove id force => (orFault (world.failures.remove.lookup id), world.called (.remove id force))
  | .stop id grace => (orFault (failureFor world.failures.stop id), world.called (.stop id grace))
  | .subscribe => (orFault world.failures.subscribe, world.called .events)
  | .fetch request => world.fetch request
  | .log entry => world.append entry
  | .count field amount => ((), { world with status := world.status.count field amount })
  | .assign field value => ((), { world with status := world.status.put field.label value })
  | .note handler event => ((), { world with notes := (handler, event) :: world.notes })
  | .stopping => (world.restsLeft == some 0, world)
  | .rest seconds => (.ok (), world.rested seconds)

def perform (world : World) (job : Job α) : Outcome α × World := Job.run answer job world

end World

end ContainerWarden
