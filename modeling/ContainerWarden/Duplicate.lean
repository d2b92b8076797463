import ContainerWarden.Runtime
import ContainerWarden.Settings

namespace ContainerWarden.Duplicate

def component : String := "dedup"

abbrev Groups := List (String × List Json)

def Groups.ids (groups : Groups) (service : String) : List Json := (groups.lookup service).getD []

def Groups.add (groups : Groups) (service : String) (id : Json) : Groups :=
  match groups with
  | [] => [(service, [id])]
  | (s, ids) :: rest =>
    if s == service then (s, ids ++ [id]) :: rest else (s, ids) :: Groups.add rest service id

def serviceOf? (settings : Settings) (container : ContainerSummary) : Option String :=
  if container.running && (container.labels.get? settings.uuidLabel).any Json.isPresent then
    settings.singletonServices.find? (container.labels.holds settings.serviceNameLabel ·)
  else none

def Groups.collect (settings : Settings) (groups : Groups) (container : ContainerSummary) : Groups :=
  match serviceOf? settings container with
  | some service => groups.add service container.id
  | none => groups

def group (settings : Settings) (containers : List ContainerSummary) : Groups :=
  containers.foldl (Groups.collect settings) []

def select (settings : Settings) (containers : List ContainerSummary) : List Json :=
  let groups := group settings containers
  settings.singletonServices.filterMap fun service =>
    let ids := groups.ids service
    if 1 < ids.length then ids.getLast? else none

def logInfo (message : String) (id : Json) : Job Unit := Job.log (.info component message id)

def logError (message : String) (id : Json) : Job Unit := Job.log (.error component message id)

def stopOne (id : Json) : Job Unit := do
  logInfo ("Stopping duplicate metadata/dns service: " ++ id.text) id
  Job.recover Fault.isRuntime
    (do
      Job.stop id 0
      Job.count .duplicatesStopped 1)
    fun fault =>
      logError ("Failed to stop duplicate metadata/dns service: " ++ id.text ++ ": " ++ fault.message)
        id

def stopAll : List Json → Job Unit
  | [] => return ()
  | id :: rest => do
    stopOne id
    stopAll rest

def pass (settings : Settings) : Job (List Json) := do
  let containers ← Runtime.containers true
  Job.count .dedupPasses 1
  let chosen := select settings containers
  stopAll chosen
  return chosen

end ContainerWarden.Duplicate
