import ContainerWarden.EventStream
import ContainerWarden.Handler
import ContainerWarden.Moves
import ContainerWarden.Pool
import ContainerWarden.Slots

namespace ContainerWarden

structure RouterPlan (η : Type) where
  routes : Routes η
  workers : Nat
  capacity : Nat

def RouterPlan.make (routes : Routes η) (workers queue : Int) : RouterPlan η :=
  ⟨routes, (max 1 workers).toNat, (max 1 queue).toNat⟩

inductive Submission where
  | none
  /-- About to look whether the router is stopped. -/
  | seeking (event : LifecycleEvent)
  | pressing (event : LifecycleEvent)

def Submission.events : Submission → List LifecycleEvent
  | .none => []
  | .seeking event | .pressing event => [event]

structure Caller where
  inlet : List LifecycleEvent
  hand : Submission := .none

def Caller.isThrough (caller : Caller) : Bool :=
  caller.inlet.isEmpty && caller.hand.events.isEmpty

inductive Dispatcher (η : Type) where
  | absent
  | idle
  | watching
  | waiting (event : LifecycleEvent) (handlers : List η)
  /-- With an event for which no worker came free in time. -/
  | balked (event : LifecycleEvent) (handlers : List η)
  | holding (event : LifecycleEvent) (handlers : List η)
  | ended

inductive Pump where
  | absent
  | pulling
  /-- With an event of the stream, about to look whether the router is stopped. -/
  | drawn (event : LifecycleEvent)
  | submitting (hand : Submission)
  | ended

structure Assignment (η : Type) where
  event : LifecycleEvent
  handlers : List η
  stage : Stage := .waiting

inductive Submitter where
  | caller (index : Nat)
  | pump
  deriving DecidableEq, Repr

structure Router (η : Type) where
  queue : List LifecycleEvent := []
  slots : Slots
  dispatcher : Dispatcher η := .absent
  work : Pool (Assignment η) := .empty
  callers : List Caller := []
  pump : Pump := .absent
  feed : List (Outcome Json) := []
  /-- Whether the stream ends after its last report. -/
  finite : Bool := false
  subscribed : Bool := false
  stopped : Bool := false
  poolOpen : Bool := false
  closes : Nat := 0
  /-- The events that the dispatcher has taken from the queue, newest first. -/
  taken : List LifecycleEvent := []
  /-- The events that the pool has accepted, newest first. -/
  handed : List LifecycleEvent := []
  /-- The events that handlers were called with, newest first. -/
  calls : List (LifecycleEvent × η) := []
  /-- The failure that ended the pump, unless the router was stopped before. -/
  streamFault : Option Fault := none

inductive RouterMove where
  | begin
  | listen
  | stop
  | shutDown
  | bring (events : List LifecycleEvent)
  | next (index : Nat)
  | pull
  | consider
  /-- A submitter looks whether the router is stopped; if so it gives its event up. -/
  | check (who : Submitter)
  | place (who : Submitter)
  | tire (who : Submitter)
  | look
  | take
  | lapse
  | acquire
  | miss
  | heed
  /-- The dispatcher hands its event to the pool, which refuses it once it is shut down. -/
  | hand
  | start (number : Nat)
  | call (number : Nat) (outcome : Outcome Unit)
  /-- The failure of a handler is logged, or the log refuses it. -/
  | record (number : Nat) (written : Outcome Unit)
  | count (number : Nat)
  | release (number : Nat)

def RouterMove.ofStart : RouterMove → Bool
  | .begin | .listen | .bring _ => true
  | _ => false

namespace Router

def fresh (plan : RouterPlan η) (feed : List (Outcome Json)) (finite : Bool) : Router η :=
  { slots := .allFree plan.workers, feed, finite }

def handOf (router : Router η) : Submitter → Submission
  | .caller index =>
    match router.callers[index]? with
    | some caller => caller.hand
    | none => .none
  | .pump =>
    match router.pump with
    | .submitting hand => hand
    | _ => .none

def setHand (router : Router η) (hand : Submission) : Submitter → Router η
  | .caller index =>
    { router with callers := router.callers.modify index fun caller => { caller with hand } }
  | .pump => { router with pump := .submitting hand }

def letGo (router : Router η) : Submitter → Router η
  | .caller index => router.setHand .none (.caller index)
  | .pump => { router with pump := .pulling }

def pulled (router : Router η) : Option (Router η) :=
  match EventStream.pull router.feed with
  | (some (.ok event), feed) => some { router with feed, pump := .drawn event }
  | (some (.error fault), feed) =>
    let streamFault := if router.stopped then router.streamFault else some fault
    some { router with feed, pump := .ended, streamFault }
  | (none, feed) =>
    if router.finite || router.closes ≠ 0 then some { router with feed, pump := .ended } else none

/-- The dispatcher after it took an event: a status that cannot be looked up is its end. -/
def taking (plan : RouterPlan η) (event : LifecycleEvent) : Dispatcher η :=
  match plan.routes.find event.status with
  | .error _ => .ended
  | .ok [] => .idle
  | .ok handlers => .waiting event handlers

def assign (router : Router η) (number : Nat) (assignment : Assignment η) : Router η :=
  { router with work := router.work.update number assignment }

/-- The assignment after the next handler was called. A handler that failed stays the next one until
    its failure is logged. -/
def called (assignment : Assignment η) : Outcome Unit → Assignment η
  | .ok () => { assignment with handlers := assignment.handlers.drop 1 }
  | .error fault => { assignment with stage := .failed fault }

def recorded (assignment : Assignment η) : Outcome Unit → Assignment η
  | .ok () => { assignment with handlers := assignment.handlers.drop 1, stage := .running }
  | .error fault => { assignment with stage := .settled (.error fault) }

def step (plan : RouterPlan η) (router : Router η) : RouterMove → Option (Router η)
  | .begin =>
    if router.subscribed then none
    else some { router with subscribed := true, poolOpen := true, dispatcher := .idle }
  | .listen =>
    if !router.subscribed then none
    else
      match router.pump with
      | .absent | .ended => some { router with pump := .pulling, streamFault := none }
      | _ => some router
  | .stop => some { router with
      stopped := true
      closes := if router.subscribed then router.closes + 1 else router.closes }
  | .shutDown => if router.stopped then some { router with poolOpen := false } else none
  | .bring events => some { router with callers := router.callers ++ [{ inlet := events }] }
  | .next index =>
    match router.callers[index]? with
    | some ⟨event :: rest, .none⟩ =>
      some { router with callers := router.callers.set index ⟨rest, .seeking event⟩ }
    | _ => none
  | .pull =>
    match router.pump with
    | .pulling => router.pulled
    | _ => none
  | .consider =>
    match router.pump with
    | .drawn event =>
      if router.stopped then some { router with pump := .ended }
      else some (router.setHand (.seeking event) .pump)
    | _ => none
  | .check who =>
    match router.handOf who with
    | .seeking event =>
      if router.stopped then some (router.letGo who) else some (router.setHand (.pressing event) who)
    | _ => none
  | .place who =>
    match router.handOf who with
    | .pressing event =>
      if router.queue.length < plan.capacity then
        some ({ router with queue := router.queue ++ [event] }.letGo who)
      else none
    | _ => none
  | .tire who =>
    match router.handOf who with
    | .pressing event =>
      if router.queue.length < plan.capacity then none else some (router.setHand (.seeking event) who)
    | _ => none
  | .look =>
    match router.dispatcher with
    | .idle =>
      if router.stopped then some { router with dispatcher := .ended }
      else some { router with dispatcher := .watching }
    | _ => none
  | .take =>
    match router.dispatcher, router.queue with
    | .watching, event :: rest =>
      some { router with
        queue := rest, taken := event :: router.taken, dispatcher := taking plan event }
    | _, _ => none
  | .lapse =>
    match router.dispatcher, router.queue with
    | .watching, [] => some { router with dispatcher := .idle }
    | _, _ => none
  | .acquire =>
    match router.dispatcher with
    | .waiting event handlers =>
      router.slots.take?.map fun slots => { router with slots, dispatcher := .holding event handlers }
    | _ => none
  | .miss =>
    match router.dispatcher with
    | .waiting event handlers =>
      if router.slots.free = 0 then some { router with dispatcher := .balked event handlers } else none
    | _ => none
  | .heed =>
    match router.dispatcher with
    | .balked event handlers =>
      if router.stopped then some { router with dispatcher := .ended }
      else some { router with dispatcher := .waiting event handlers }
    | _ => none
  | .hand =>
    match router.dispatcher with
    | .holding event handlers =>
      if router.poolOpen then
        some { router with
          dispatcher := .idle
          work := router.work.accept { event, handlers }
          handed := event :: router.handed }
      else some { router with slots := router.slots.giveBack, dispatcher := .ended }
    | _ => none
  | .start number =>
    match router.work.task? number with
    | some ⟨event, handlers, .waiting⟩ => some (router.assign number ⟨event, handlers, .running⟩)
    | _ => none
  | .call number outcome =>
    match router.work.task? number with
    | some ⟨event, handler :: rest, .running⟩ =>
      some { router.assign number (called ⟨event, handler :: rest, .running⟩ outcome) with
        calls := (event, handler) :: router.calls }
    | _ => none
  | .record number written =>
    match router.work.task? number with
    | some ⟨event, handlers, .failed fault⟩ =>
      some (router.assign number (recorded ⟨event, handlers, .failed fault⟩ written))
    | _ => none
  | .count number =>
    match router.work.task? number with
    | some ⟨event, [], .running⟩ => some (router.assign number ⟨event, [], .settled (.ok ())⟩)
    | _ => none
  | .release number =>
    match router.work.task? number with
    | some ⟨_, _, .settled _⟩ =>
      some { router with slots := router.slots.giveBack, work := router.work.finish number }
    | _ => none

end Router

end ContainerWarden
