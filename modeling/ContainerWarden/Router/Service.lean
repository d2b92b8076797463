import ContainerWarden.Router
import ContainerWarden.World

namespace ContainerWarden

structure Handling where
  number : Nat
  event : LifecycleEvent
  names : List String

structure EventService where
  plan : RouterPlan Handler
  router : Router Handler
  world : World
  blocked : Bool := false
  handled : List Handling := []

namespace EventService

def fresh (plan : RouterPlan Handler) (world : World) : EventService :=
  { plan, router := Router.fresh plan world.feed world.finite, world }

def perform (service : EventService) (job : Job α) : Outcome α × EventService :=
  let (outcome, world) := service.world.perform job
  (outcome, { service with world })

def move (service : EventService) (move : RouterMove) : EventService :=
  match service.router.step service.plan move with
  | some router => { service with router }
  | none => service

def logStreamFault (service : EventService) : EventService :=
  match service.router.streamFault with
  | some fault =>
    (service.perform (Job.log (.error "events" ("Event stream failed: " ++ fault.headline) .null))).2
  | none => service

def record (number : Nat) (event : LifecycleEvent) (names : List String) :
    List Handling → List Handling
  | [] => if names.isEmpty then [] else [⟨number, event, names⟩]
  | entry :: rest =>
    if entry.number = number then { entry with names := entry.names ++ names } :: rest
    else entry :: record number event names rest

def namesSince (world : World) (count : Nat) : List String :=
  ((world.notes.take (world.notes.length - count)).map (·.1)).reverse

def work (service : EventService) (number : Nat) (assignment : Assignment Handler) : EventService :=
  match assignment.stage, assignment.handlers with
  | .waiting, _ => service.move (.start number)
  | .running, [] => (service.perform (Job.count .eventsDispatched 1)).2.move (.count number)
  | .running, handler :: _ =>
    let count := service.world.notes.length
    let (outcome, service) := service.perform (handler.handle assignment.event)
    let names := namesSince service.world count
    let handled := record number assignment.event names service.handled
    { service with handled }.move (.call number outcome)
  | .failed fault, handler :: _ =>
    let (written, service) := service.perform (handler.logFailure assignment.event fault)
    service.move (.record number written)
  | .failed _, [] => service.move (.record number (.ok ()))
  | .settled _, _ => service.move (.release number)

def dispatcherMove? (router : Router Handler) : Option RouterMove :=
  match router.dispatcher with
  | .idle => some .look
  | .watching =>
    if !router.queue.isEmpty then some .take else if router.stopped then some .lapse else none
  | .waiting _ _ =>
    if router.slots.free ≠ 0 then some .acquire else if router.stopped then some .miss else none
  | .balked _ _ => some .heed
  | .holding _ _ => some .hand
  | .absent | .ended => none

def handMove? (service : EventService) (who : Submitter) : Option RouterMove :=
  match service.router.handOf who with
  | .seeking _ => some (.check who)
  | .pressing _ =>
    if service.router.queue.length < service.plan.capacity then some (.place who)
    else if service.router.stopped then some (.tire who)
    else none
  | .none => none

/-- The callers go on in the order in which they came, each with one event after another. -/
def callerMove? (service : EventService) : Option RouterMove :=
  match service.router.callers.findIdx? (!·.isThrough) with
  | some index =>
    match service.router.handOf (.caller index) with
    | .none => some (.next index)
    | _ => service.handMove? (.caller index)
  | none => none

def pumpMove? (service : EventService) : Option RouterMove :=
  match service.router.pump with
  | .pulling => service.router.pulled.map fun _ => .pull
  | .drawn _ => some .consider
  | .submitting _ => service.handMove? .pump
  | .absent | .ended => none

def nextMove? (service : EventService) : Option RouterMove :=
  (dispatcherMove? service.router).orElse fun _ =>
    service.callerMove?.orElse fun _ => service.pumpMove?

def workTurn? (service : EventService) : Option EventService :=
  if service.blocked then none
  else service.router.work.tasks.head?.map fun (number, assignment) => service.work number assignment

/-- One step that leads on; none if there is nothing to do. Events are passed on as far as they can be
    before a worker takes its next step with one. -/
def turn? (service : EventService) : Option EventService :=
  match service.nextMove? with
  | some .pull =>
    let service := service.move .pull
    match service.router.pump with
    | .ended => some service.logStreamFault
    | _ => some service
  | some other => some (service.move other)
  | none => service.workTurn?

def unplaced (router : Router Handler) : Nat :=
  router.callers.foldl (fun total caller => total + caller.inlet.length + caller.hand.events.length) 0

/-- Steps are taken as long as there is something to wait for. -/
def turnWhile (isWaiting : Router Handler → Bool) : Nat → EventService → EventService
  | 0, service => service
  | fuel + 1, service =>
    if isWaiting service.router then
      match service.turn? with
      | some next => turnWhile isWaiting fuel next
      | none => service
    else service

/-- More steps than can lead on: each event takes a few, and two more for each of its handlers. -/
def turnBound (service : EventService) : Nat :=
  let router := service.router
  let events := router.feed.length + unplaced router + router.queue.length + router.work.size + 4
  let longest := service.plan.routes.foldl (fun n (_, handlers) => max n handlers.length) 0
  events * (2 * longest + 24)

def settle (service : EventService) : EventService :=
  service.turnWhile (fun _ => true) service.turnBound

def start (service : EventService) : Outcome Unit × EventService :=
  if service.router.subscribed then (.ok (), service)
  else
    match service.perform Job.subscribe with
    | (.ok (), service) => (.ok (), (service.move .begin).settle)
    | (.error fault, service) => (.error fault, service)

def openStream (service : EventService) : Outcome Unit × EventService :=
  if service.router.subscribed then (.ok (), service.move .listen)
  else (.error .routerNotStarted, service)

def listen (service : EventService) : Outcome Unit × EventService :=
  let (outcome, service) := service.openStream
  (outcome, service.settle)

def place (service : EventService) : EventService :=
  service.turnWhile (fun router => unplaced router ≠ 0) service.turnBound

def submit (service : EventService) (events : List LifecycleEvent) : EventService :=
  (service.move (.bring events)).place.settle

def stop (service : EventService) : EventService :=
  ((service.move .stop).move .shutDown).settle

def dispatch (service : EventService) (event : LifecycleEvent) : Outcome Unit × EventService :=
  let count := service.world.notes.length
  let (outcome, service) := service.perform do
    Handler.dispatch (← Job.ofExcept (service.plan.routes.find event.status)) event
  let names := namesSince service.world count
  let handled := if names.isEmpty then [] else [⟨service.router.work.accepted, event, names⟩]
  (outcome, { service with handled := service.handled ++ handled })

def fill (service : EventService) (events : List LifecycleEvent) : Nat × EventService :=
  let service := { service with blocked := true }.submit events
  (events.length - unplaced service.router, service)

def unblock (service : EventService) : EventService := { service with blocked := false }.settle

end EventService

end ContainerWarden
