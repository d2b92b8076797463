import ContainerWarden.Plan

namespace ContainerWarden

structure Handler where
  className : String
  handle : LifecycleEvent → Job Unit

namespace Handler

def logging (name : String) : Handler where
  className := "EventLogHandler"
  handle event :=
    let origin := if event.simulated then "replayed" else "live"
    Job.log (.info "events" (name ++ ": " ++ event.status.text ++ " (" ++ origin ++ ")") event.id)

def failure (event : LifecycleEvent) (handler : Handler) (fault : Fault) : LogEntry :=
  .error "events"
    (handler.className ++ " failed on " ++ event.status.text ++ ": " ++ fault.headline) event.id

def logFailure (event : LifecycleEvent) (handler : Handler) (fault : Fault) : Job Unit := do
  Job.count .handlerFailures 1
  Job.log (failure event handler fault)

def give (event : LifecycleEvent) (handler : Handler) : Job Unit :=
  Job.recover (fun _ => true) (handler.handle event) (logFailure event handler)

def giveAll (event : LifecycleEvent) : List Handler → Job Unit
  | [] => return ()
  | handler :: rest => do
    give event handler
    giveAll event rest

def dispatch (handlers : List Handler) (event : LifecycleEvent) : Job Unit := do
  giveAll event handlers
  Job.count .eventsDispatched 1

end Handler

abbrev Routes (η : Type) := List (String × List η)

namespace Routes

/-- The handlers for a status. A status that is a sequence or an object cannot be looked up. -/
def find (routes : Routes η) (status : Json) : Outcome (List η) :=
  match status with
  | .str s => .ok ((routes.lookup s).getD [])
  | .arr _ | .obj _ => .error (.unhashable status.typeName)
  | _ => .ok []

end Routes

structure HandlerRegistry where
  binexecWatcher : Handler
  startHandler : Handler
  networkManager : Handler

namespace HandlerRegistry

def logging : HandlerRegistry where
  binexecWatcher := .logging "binexec"
  startHandler := .logging "start"
  networkManager := .logging "network"

def routes (registry : HandlerRegistry) : Routes Handler :=
  [(LifecycleEvent.started,
      [registry.binexecWatcher, registry.startHandler, registry.networkManager]),
    (LifecycleEvent.died, [registry.networkManager])]

end HandlerRegistry

end ContainerWarden
