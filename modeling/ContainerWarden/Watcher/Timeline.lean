import ContainerWarden.Orphan
import ContainerWarden.Watcher
import ContainerWarden.World

namespace ContainerWarden

inductive WatchSight where
  | poll (time : Float) (current : String) (maxWait : Int) (timeout : Float)
  | wait (seconds : Float)
  | start (time : Float) (version : String)
  | done (time : Float) (version : String)
  | busy (time : Float)

structure TimedAnswer where
  elapsed : Float
  answer : Outcome HttpResponse

/-- Surroundings in which time passes only as laid down. -/
structure WatchScript where
  settings : Settings
  interval : Int
  recheck : Option Float
  answers : List TimedAnswer
  durations : List Float
  failures : List (String × Fault)
  reconciles : Bool
  stopAt : Option Float

structure Pending where
  time : Float
  number : Nat
  version : String

structure Timeline where
  now : Float := 0
  watcher : Watcher Float
  world : World
  pending : List Pending := []
  polls : Nat := 0
  exhausted : Bool := false
  sights : List WatchSight := []

namespace WatchScript

def policy (script : WatchScript) : WatchPolicy Float :=
  .ofSettings script.settings script.interval script.recheck

def clock (timeline : Timeline) : Float := 100 + timeline.now

def maxPolls : Nat := 301

def duration (script : WatchScript) (number : Nat) : Float :=
  (script.durations[number % script.durations.length]?).getD 0

def callback (script : WatchScript) (version : String) : Job Unit := do
  match script.failures.lookup version with
  | some fault => throw fault
  | none =>
    if script.reconciles then
      let _ ← Orphan.onChange script.settings (.str version)

end WatchScript

namespace Timeline

open WatchScript (clock)

def see (timeline : Timeline) (sight : WatchSight) : Timeline :=
  { timeline with sights := sight :: timeline.sights }

def move (script : WatchScript) (timeline : Timeline) (move : WatchMove Float) : Timeline :=
  match timeline.watcher.step script.policy move with
  | some watcher => { timeline with watcher }
  | none => timeline

def perform (timeline : Timeline) (job : Job Unit) : Outcome Unit × Timeline :=
  let (outcome, world) := timeline.world.perform job
  (outcome, { timeline with world })

def complete (script : WatchScript) (timeline : Timeline) (pending : Pending) : Timeline :=
  let timeline := { timeline with now := pending.time }.see (.done pending.time pending.version)
  let (outcome, timeline) := timeline.perform (script.callback pending.version)
  let timeline := timeline.move script (.conclude pending.number outcome)
  let timeline := match outcome with
    | .ok () => timeline
    | .error fault =>
      let (written, timeline) := timeline.perform (Watcher.logCallbackFailure fault)
      timeline.move script (.record pending.number written)
  timeline.move script (.release pending.number)

def nextPending : List Pending → Option (Pending × List Pending)
  | [] => none
  | entry :: rest =>
    match nextPending rest with
    | none => some (entry, [])
    | some (first, others) =>
      if first.time < entry.time then some (first, entry :: others) else some (entry, rest)

/-- Completes the callbacks that are due by a time. The first argument bounds their number. -/
def completeDue (script : WatchScript) : Nat → Timeline → (Float → Bool) → Timeline
  | 0, timeline, _ => timeline
  | fuel + 1, timeline, isDue =>
    match nextPending timeline.pending with
    | some (first, others) =>
      if isDue first.time then
        let timeline := { timeline with pending := others }
        completeDue script fuel (timeline.complete script first) isDue
      else timeline
    | none => timeline

def completeWhere (script : WatchScript) (timeline : Timeline) (isDue : Float → Bool) : Timeline :=
  completeDue script timeline.pending.length timeline isDue

def advance (script : WatchScript) (timeline : Timeline) (target : Float) : Timeline :=
  { timeline.completeWhere script (· ≤ target) with now := target }

def isStopping (script : WatchScript) (timeline : Timeline) : Bool :=
  timeline.exhausted || script.stopAt.any (· ≤ timeline.now)

def heedStop (script : WatchScript) (timeline : Timeline) : Timeline :=
  if timeline.isStopping script then timeline.move script .stop else timeline

def rest (script : WatchScript) (timeline : Timeline) (seconds : Float) : Timeline :=
  let timeline := timeline.see (.wait seconds)
  if timeline.isStopping script then timeline
  else
    let target := timeline.now + Cadence.greater 0 seconds
    let target := match script.stopAt with
      | some stop => Cadence.lesser target stop
      | none => target
    timeline.advance script target

def answerAt (script : WatchScript) (number : Nat) : TimedAnswer :=
  ((script.answers[number]?).orElse fun _ => script.answers.getLast?).getD
    ⟨0, .ok World.notFoundPage⟩

def ask (script : WatchScript) (timeline : Timeline) (request : HttpRequest) : Timeline :=
  let current := timeline.watcher.version
  let timeline := timeline.see (.poll timeline.now current script.interval request.timeout)
  let timed := answerAt script timeline.polls
  let timeline := timeline.advance script (timeline.now + timed.elapsed)
  let polls := timeline.polls + 1
  let served := script.stopAt.isNone && script.answers.length ≤ polls
  let timeline := { timeline with
    polls, exhausted := timeline.exhausted || served || WatchScript.maxPolls ≤ polls }
  let page : World := { pages := [("", [timed.answer])] }
  let outcome := (page.perform (timeline.watcher.ask script.settings script.interval)).1
  timeline.move script (.answer outcome (clock timeline) (clock timeline))

def poll (script : WatchScript) (timeline : Timeline) : Timeline :=
  match timeline.watcher.request script.settings script.interval with
  | .ok request => timeline.ask script request
  | .error fault => timeline.move script (.answer (.error fault) (clock timeline) (clock timeline))

def report (script : WatchScript) (timeline : Timeline) (fault : Fault) : Timeline :=
  let (written, timeline) := timeline.perform (Watcher.logFailure fault)
  timeline.move script (.report written)

def acquire (script : WatchScript) (timeline : Timeline) : Timeline :=
  if timeline.watcher.slots.free ≠ 0 then timeline.move script .take
  else
    let limit := timeline.now + 1
    let target := match nextPending timeline.pending with
      | some (first, _) => Cadence.lesser limit first.time
      | none => limit
    let timeline := timeline.advance script target
    if timeline.watcher.slots.free ≠ 0 then timeline.move script .take
    else (timeline.see (.busy timeline.now)).move script .miss

def submit (script : WatchScript) (timeline : Timeline) (version : String) : Timeline :=
  let number := timeline.watcher.callbacks.accepted
  let timeline := (timeline.see (.start timeline.now version)).move script .submit
  let timeline := timeline.move script (.start number)
  let duration := script.duration number
  if duration == 0 then timeline.complete script ⟨timeline.now, number, version⟩
  else { timeline with pending := timeline.pending ++ [⟨timeline.now + duration, number, version⟩] }

def run (script : WatchScript) : Nat → Timeline → Timeline
  | 0, timeline => timeline
  | fuel + 1, timeline =>
    match timeline.watcher.phase with
    | .checking =>
      let timeline := timeline.heedStop script
      run script fuel (timeline.move script (.look (clock timeline)))
    | .polling _ => run script fuel (timeline.poll script)
    | .reporting fault => run script fuel (timeline.report script fault)
    | .resting seconds =>
      run script fuel ((timeline.rest script seconds).move script (.wake (.ok ())))
    | .acquiring _ => run script fuel (timeline.acquire script)
    | .balked _ => run script fuel ((timeline.heedStop script).move script .heed)
    | .submitting version => run script fuel (timeline.submit script version)
    | .leaving _ =>
      (timeline.completeWhere script fun _ => true).move script .leave
    | .ended _ => timeline

def outcome (timeline : Timeline) : Option (Outcome Unit) :=
  match timeline.watcher.phase with
  | .ended outcome => some outcome
  | _ => none

end Timeline

/-- More moves than a watcher can make: a bounded number of requests, each with few moves of its own and
    two for each second in which no slot comes free. -/
def WatchScript.moveBound (script : WatchScript) : Nat :=
  let longest := script.durations.foldl Cadence.greater 0
  (maxPolls + 1) * (2 * longest.ceil.toUInt64.toNat + script.policy.slots + 8)

def WatchScript.play (script : WatchScript) (world : World) : Timeline :=
  let start : Timeline := { watcher := Watcher.fresh script.policy 100, world }
  start.run script script.moveBound

end ContainerWarden
