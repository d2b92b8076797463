import ContainerWarden.Cadence
import ContainerWarden.Duplicate

namespace ContainerWarden

class Seconds (τ : Type) extends Powers τ where
  shown : τ → Json
  written : τ → String
  rest : τ → Job Unit

instance : Seconds Float where
  shown := .float
  written := Number.written
  rest := Job.rest

namespace Guard

def cadence (settings : Settings) : Outcome (Cadence Float) :=
  Cadence.make settings.dedupMin settings.dedupMax settings.dedupFactor

def beginning : LogEntry := .info Duplicate.component "Duplicate service guard started" .null

def logStart : Job Unit := Job.log beginning

def checkFailure (fault : Fault) : LogEntry :=
  .error Duplicate.component
    (if fault.isRuntime then "Failed to check for bad metadata: " ++ fault.message
      else "Dedup tick failed: " ++ fault.headline) .null

def check (settings : Settings) : Job Unit :=
  Job.recover (fun _ => true) (do let _ ← Duplicate.pass settings) fun fault =>
    Job.log (checkFailure fault)

variable {τ : Type} [OfNat τ 1] [Mul τ] [LT τ] [DecidableLT τ] [Seconds τ]

def intervalFailure (cadence : Cadence τ) (fault : Fault) : LogEntry :=
  .error Duplicate.component
    ("Poll interval failed, using " ++ Seconds.written cadence.max ++ "s: " ++ fault.message) .null

def nextWait (cadence : Cadence τ) : Job (τ × Cadence τ) := do
  match cadence.next with
  | .ok (wait, cadence) =>
    Job.assign .dedupInterval (Seconds.shown wait)
    return (wait, cadence)
  | .error fault =>
    Job.log (intervalFailure cadence fault)
    Job.assign .dedupInterval (Seconds.shown cadence.max)
    return (cadence.max, cadence)

def tick (settings : Settings) (cadence : Cadence τ) : Job (τ × Cadence τ) := do
  check settings
  nextWait cadence

def loop (settings : Settings) : Nat → Cadence τ → Job (Cadence τ)
  | 0, cadence => return cadence
  | rounds + 1, cadence => do
    if ← Job.stopping then return cadence
    let (wait, cadence) ← tick settings cadence
    Seconds.rest wait
    loop settings rounds cadence

def run (settings : Settings) (rounds : Nat) (cadence : Cadence τ) : Job (Cadence τ) := do
  logStart
  loop settings rounds cadence

end Guard

end ContainerWarden
