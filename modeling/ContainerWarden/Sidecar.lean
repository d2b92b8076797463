import ContainerWarden.Bootstrap
import ContainerWarden.Guard
import ContainerWarden.Orphan

namespace ContainerWarden

structure WatchOrder where
  interval : Int
  recheck : Int
  deriving DecidableEq, Repr

structure Sidecar where
  settings : Settings
  registry : HandlerRegistry
  world : World
  cadence : Cadence Float
  routers : List EventService := []
  active : Option Nat := none
  guardAlive : Bool := false
  stopped : Bool := false
  watches : List WatchOrder := []
  closes : Nat := 0

namespace Sidecar

def make (settings : Settings) (registry : HandlerRegistry) (world : World) : Outcome Sidecar := do
  let _ ← Metadata.service settings
  let cadence ← Guard.cadence settings
  return { settings, registry, cadence, world := { world with closed := false, status := .fresh } }

def connectAndMake (settings : Settings) (registry : HandlerRegistry) (world : World) :
    Outcome Sidecar := do
  Bootstrap.connect world
  make settings registry world

def perform (sidecar : Sidecar) (job : Job α) : Outcome α × Sidecar :=
  let (outcome, world) := sidecar.world.perform job
  (outcome, { sidecar with world })

def component : String := "sidecar"

def announce (sidecar : Sidecar) (message : String) : Sidecar :=
  (sidecar.perform (Job.log (.info component message .null))).2

/-- The longest rest that a thread can take, in seconds. -/
def longestRest : Float := 9223372036.854775

/-- The guard makes a first pass, if work is not to stop, and rests. A rest that is too long ends it. -/
def startGuard (sidecar : Sidecar) : Sidecar :=
  if sidecar.guardAlive then sidecar
  else
    let sidecar := (sidecar.perform Guard.logStart).2
    if sidecar.stopped then sidecar
    else
      match sidecar.perform (Guard.tick sidecar.settings sidecar.cadence) with
      | (.ok (wait, cadence), sidecar) =>
        { sidecar with cadence, guardAlive := wait ≤ longestRest }
      | (.error _, sidecar) => sidecar

def moveRouter (sidecar : Sidecar) (move : EventService → EventService) : Sidecar :=
  match sidecar.active with
  | none => sidecar
  | some index =>
    match sidecar.routers[index]? with
    | none => sidecar
    | some service =>
      let service := move { service with world := sidecar.world }
      { sidecar with world := service.world, routers := sidecar.routers.set index service }

def closeClient (sidecar : Sidecar) : Sidecar :=
  { sidecar with world := { sidecar.world with closed := true }, closes := sidecar.closes + 1 }

def stop (sidecar : Sidecar) : Sidecar :=
  ({ sidecar with stopped := true, guardAlive := false }.moveRouter .stop).closeClient.announce
    "Sidecar stopped"

def startRouter (sidecar : Sidecar) : Outcome Unit × Sidecar :=
  let (outcome, world, service?) :=
    Bootstrap.start sidecar.settings.eventPoolSize sidecar.registry sidecar.world
  let routers := sidecar.routers ++ service?.toList
  let active := match outcome with
    | .ok () => some sidecar.routers.length
    | .error _ => sidecar.active
  (outcome, { sidecar with world, routers, active })

def watch (sidecar : Sidecar) : Sidecar :=
  let order : WatchOrder :=
    ⟨sidecar.settings.changePollInterval, sidecar.settings.recheckInterval⟩
  { sidecar with watches := sidecar.watches ++ [order] }

def start (sidecar : Sidecar) : Outcome Unit × Sidecar :=
  let sidecar := sidecar.watch.startGuard
  if sidecar.settings.enableEvents then
    match sidecar.startRouter with
    | (.ok (), sidecar) => (.ok (), (sidecar.announce "Sidecar started").moveRouter .settle)
    | (.error fault, sidecar) => (.error fault, sidecar.stop)
  else (.ok (), sidecar.announce "Sidecar started")

def streamsClosed (sidecar : Sidecar) : Nat :=
  sidecar.routers.foldl (fun total service => total + service.router.closes) 0

def handled (sidecar : Sidecar) : List Handling := sidecar.routers.flatMap (·.handled)

end Sidecar

end ContainerWarden
