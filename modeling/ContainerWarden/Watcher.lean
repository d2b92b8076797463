import ContainerWarden.Cadence
import ContainerWarden.Metadata
import ContainerWarden.Moves
import ContainerWarden.Pool
import ContainerWarden.Slots

namespace ContainerWarden

structure WatchPolicy (τ : Type) where
  interval : τ
  /-- How long after a callback the next one is due without a change; none for never. -/
  recheck : Option τ
  slots : Nat

/-- A recheck after no time at all is none. A number below one counts as one. -/
def WatchPolicy.make [OfNat τ 0] [BEq τ] (interval : τ) (recheck : Option τ) (concurrency : Int) :
    WatchPolicy τ where
  interval
  recheck := recheck.filter (· != 0)
  slots := (max 1 concurrency).toNat

def WatchPolicy.ofSettings (settings : Settings) (interval : Int) (recheck : Option Float) :
    WatchPolicy Float :=
  .make (Number.ofInt interval) recheck settings.changeConcurrency

structure Callback where
  version : String
  stage : Stage := .waiting

inductive WatchPhase (τ : Type) where
  | checking
  | polling (since : τ)
  | reporting (fault : Fault)
  | resting (seconds : τ)
  | acquiring (version : String)
  /-- No slot came free in time. -/
  | balked (version : String)
  | submitting (version : String)
  /-- No more requests: the callbacks in flight run to their end. -/
  | leaving (outcome : Outcome Unit)
  | ended (outcome : Outcome Unit)

def WatchPhase.unless (phase : WatchPhase τ) : Outcome Unit → WatchPhase τ
  | .ok () => phase
  | .error fault => .leaving (.error fault)

structure Watcher (τ : Type) where
  version : String := "init"
  lastRun : τ
  phase : WatchPhase τ := .checking
  slots : Slots
  callbacks : Pool Callback := .empty
  /-- The versions that were submitted, newest first. -/
  submitted : List String := []
  stopping : Bool := false

/-- What can happen to a watcher. Clock readings come with the moves that take them. -/
inductive WatchMove (τ : Type) where
  | look (now : τ)
  /-- The answer of the service, with the clock as it is read first and once more after that. -/
  | answer (outcome : Outcome String) (seen later : τ)
  | report (written : Outcome Unit)
  | wake (rested : Outcome Unit)
  | take
  | miss
  /-- A look whether to stop, after no slot came free. -/
  | heed
  | submit
  | start (number : Nat)
  | conclude (number : Nat) (outcome : Outcome Unit)
  | record (number : Nat) (written : Outcome Unit)
  | release (number : Nat)
  | leave
  | stop

namespace Watcher

variable {τ : Type} [OfNat τ 0] [Sub τ] [LT τ] [LE τ] [DecidableLT τ] [DecidableLE τ]

def fresh (policy : WatchPolicy τ) (now : τ) : Watcher τ :=
  { lastRun := now, slots := .allFree policy.slots }

def request (settings : Settings) (interval : Int) (watcher : Watcher τ) : Outcome HttpRequest :=
  Metadata.versionRequest settings watcher.version interval

def ask (settings : Settings) (interval : Int) (watcher : Watcher τ) : Job String :=
  Metadata.version settings watcher.version interval

def isDue (policy : WatchPolicy τ) (lastRun now : τ) : Bool :=
  match policy.recheck with
  | some period => period ≤ now - lastRun
  | none => false

/-- The rest after an answer without news: what is left of the interval since the request. -/
def remaining (policy : WatchPolicy τ) (since now : τ) : τ :=
  Cadence.greater 0 (policy.interval - (now - since))

def isHit (policy : WatchPolicy τ) (watcher : Watcher τ) (version : String) (now : τ) : Bool :=
  version != watcher.version || isDue policy watcher.lastRun now

def afterAnswer (policy : WatchPolicy τ) (watcher : Watcher τ) (since : τ) (outcome : Outcome String)
    (seen later : τ) : Watcher τ :=
  match outcome with
  | .error fault =>
    if fault.isMetadata then { watcher with phase := .reporting fault }
    else { watcher with phase := .leaving (.error fault) }
  | .ok version =>
    if watcher.isHit policy version seen then
      { watcher with version, lastRun := later, phase := .acquiring version }
    else { watcher with phase := .resting (remaining policy since later) }

def setStage (watcher : Watcher τ) (number : Nat) (version : String) (stage : Stage) : Watcher τ :=
  { watcher with callbacks := watcher.callbacks.update number { version, stage } }

def step (policy : WatchPolicy τ) (watcher : Watcher τ) : WatchMove τ → Option (Watcher τ)
  | .look now =>
    match watcher.phase with
    | .checking =>
      if watcher.stopping then some { watcher with phase := .leaving (.ok ()) }
      else some { watcher with phase := .polling now }
    | _ => none
  | .answer outcome seen later =>
    match watcher.phase with
    | .polling since => some (watcher.afterAnswer policy since outcome seen later)
    | _ => none
  | .report written =>
    match watcher.phase with
    | .reporting _ => some { watcher with phase := .unless (.resting policy.interval) written }
    | _ => none
  | .wake rested =>
    match watcher.phase with
    | .resting _ => some { watcher with phase := .unless .checking rested }
    | _ => none
  | .take =>
    match watcher.phase with
    | .acquiring version =>
      watcher.slots.take?.map fun slots => { watcher with slots, phase := .submitting version }
    | _ => none
  | .miss =>
    match watcher.phase with
    | .acquiring version =>
      if watcher.slots.free = 0 then some { watcher with phase := .balked version } else none
    | _ => none
  | .heed =>
    match watcher.phase with
    | .balked version =>
      if watcher.stopping then some { watcher with phase := .leaving (.ok ()) }
      else some { watcher with phase := .acquiring version }
    | _ => none
  | .submit =>
    match watcher.phase with
    | .submitting version =>
      some { watcher with
        phase := .checking
        callbacks := watcher.callbacks.accept { version }
        submitted := version :: watcher.submitted }
    | _ => none
  | .start number =>
    match watcher.callbacks.task? number with
    | some ⟨version, .waiting⟩ => some (watcher.setStage number version .running)
    | _ => none
  | .conclude number outcome =>
    match watcher.callbacks.task? number with
    | some ⟨version, .running⟩ => some (watcher.setStage number version (.concluded outcome))
    | _ => none
  | .record number written =>
    match watcher.callbacks.task? number with
    | some ⟨version, .failed _⟩ => some (watcher.setStage number version (.settled written))
    | _ => none
  | .release number =>
    match watcher.callbacks.task? number with
    | some ⟨_, .settled _⟩ =>
      some { watcher with
        slots := watcher.slots.giveBack
        callbacks := watcher.callbacks.finish number }
    | _ => none
  | .leave =>
    match watcher.phase with
    | .leaving outcome =>
      if watcher.callbacks.size = 0 then some { watcher with phase := .ended outcome } else none
    | _ => none
  | .stop => some { watcher with stopping := true }

def component : String := "metadata"

def logFailure (fault : Fault) : Job Unit :=
  Job.log (.error component ("Failed to get metadata version: " ++ fault.message) .null)

def logCallbackFailure (fault : Fault) : Job Unit :=
  Job.log (.error component ("Change callback failed: " ++ fault.headline) .null)

end Watcher

end ContainerWarden
