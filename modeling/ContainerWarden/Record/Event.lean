import ContainerWarden.Record.Field

namespace ContainerWarden

structure LifecycleEvent where
  id : Json
  status : Json
  source : Json := .str ""

namespace LifecycleEvent

def started : String := "start"

def died : String := "die"

def replaySource : String := "-simulated-"

def simulated (event : LifecycleEvent) : Bool := event.source.isText replaySource

def simulatedStart (id : Json) : LifecycleEvent := ⟨id, .str started, .str replaySource⟩

def ofJson (report : Json) : Outcome (Option LifecycleEvent) := do
  let actor := (← Record.member report "Actor").orElse (.obj [])
  let ownId ← Record.member report "id"
  let id ← if ownId.isPresent then pure ownId else Record.member actor "ID"
  let status := (← Record.member report "status").orElse (← Record.member report "Action")
  let source := (← Record.member report "from").orElse (.str "")
  return if id.isPresent && status.isPresent then some ⟨id, status, source⟩ else none

def route? (event : LifecycleEvent) : Option String :=
  match event.status with
  | .str status => some status
  | _ => none

end LifecycleEvent

end ContainerWarden
