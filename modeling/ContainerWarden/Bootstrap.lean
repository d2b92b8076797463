import ContainerWarden.Router.Service
import ContainerWarden.Runtime

namespace ContainerWarden.Bootstrap

def plan (size : Int) (registry : HandlerRegistry) : RouterPlan Handler :=
  .make registry.routes size size

def replay (containers : List ContainerSummary) : List LifecycleEvent :=
  containers.map fun container => .simulatedStart container.id

inductive Phase where
  | opening
  | listing
  | replaying
  | reading
  | abandoned
  deriving DecidableEq, Repr

structure Launch (η : Type) where
  router : Router η
  phase : Phase := .opening

def Launch.fresh (plan : RouterPlan η) (feed : List (Outcome Json)) (finite : Bool) : Launch η :=
  { router := .fresh plan feed finite }

inductive Move where
  | begin
  | replay
  | listen
  | abandon
  | turn (move : RouterMove)

/-- A start after a move; none if the move is not possible now. The stream is open before the containers
    are listed, so that no event falls between, but it is not read before all of them are replayed. -/
def step (plan : RouterPlan η) (containers : List ContainerSummary) (launch : Launch η) :
    Move → Option (Launch η)
  | .begin =>
    match launch.phase with
    | .opening => (launch.router.step plan .begin).map fun router => ⟨router, .listing⟩
    | _ => none
  | .replay =>
    match launch.phase with
    | .listing =>
      (launch.router.step plan (.bring (replay containers))).map fun router => ⟨router, .replaying⟩
    | _ => none
  | .listen =>
    match launch.phase with
    | .replaying =>
      if launch.router.callers.all (·.isThrough) then
        (launch.router.step plan .listen).map fun router => ⟨router, .reading⟩
      else none
    | _ => none
  | .abandon =>
    match launch.phase with
    | .listing | .replaying => (launch.router.step plan .stop).map fun router => ⟨router, .abandoned⟩
    | _ => none
  | .turn move =>
    if move.ofStart then none
    else (launch.router.step plan move).map fun router => { launch with router }

def advance (containers : List ContainerSummary) (service : EventService) (phase : Phase)
    (move : Move) : EventService × Phase :=
  match step service.plan containers ⟨service.router, phase⟩ move with
  | some launch => ({ service with router := launch.router }, launch.phase)
  | none => (service, phase)

def announce (count : Nat) : Job Unit := do
  Job.count .eventsReplayed count
  Job.log (.info "events"
    ("Replayed " ++ toString count ++ " existing containers as start events") .null)

def fill (service : EventService) : Outcome Unit × EventService :=
  match service.perform (Runtime.containers true) with
  | (.error fault, service) => (.error fault, service)
  | (.ok containers, service) =>
    let (service, phase) := advance containers service .listing .replay
    match service.place.perform (announce containers.length) with
    | (.error fault, service) => (.error fault, service)
    | (.ok (), service) => (.ok (), (advance containers service phase .listen).1)

def start (size : Int) (registry : HandlerRegistry) (world : World) :
    Outcome Unit × World × Option EventService :=
  match (EventService.fresh (plan size registry) world).start with
  | (.error fault, service) => (.error fault, service.world, none)
  | (.ok (), service) =>
    match fill service with
    | (.ok (), service) => (.ok (), service.world, some service)
    | (.error fault, service) =>
      let service := service.stop
      (.error fault, service.world, some service)

def connect (world : World) : Outcome Unit := World.orFault world.failures.connect

end ContainerWarden.Bootstrap
