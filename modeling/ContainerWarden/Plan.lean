import ContainerWarden.EventLog.Basic
import ContainerWarden.Http.Message
import ContainerWarden.Record.Event
import ContainerWarden.Status

namespace ContainerWarden

inductive Effect where
  | list (all : Bool)
  | inspect (id : String)
  | remove (id : String) (force : Bool)
  | stop (id : Json) (grace : Int)
  | subscribe
  | fetch (request : HttpRequest)
  | log (entry : LogEntry)
  | count (field : StatusField) (amount : Nat)
  | assign (field : StatusField) (value : Json)
  | note (handler : String) (event : LifecycleEvent)
  | stopping
  | rest (seconds : Float)

@[reducible] def Effect.Reply : Effect → Type
  | list _ => Outcome (List Json)
  | inspect _ => Outcome Json
  | remove _ _ | stop _ _ | subscribe | log _ | rest _ => Outcome Unit
  | fetch _ => Outcome HttpResponse
  | count _ _ | assign _ _ | note _ _ => Unit
  | stopping => Bool

/-- Work as a tree of steps. Each step is a point at which other work may come in between. -/
inductive Plan (α : Type) : Type where
  | done (result : α)
  | ask (effect : Effect) (next : effect.Reply → Plan α)

namespace Plan

def bind : Plan α → (α → Plan β) → Plan β
  | done a, f => f a
  | ask effect next, f => ask effect fun reply => (next reply).bind f

instance : Monad Plan where
  pure := done
  bind := bind

theorem bind_done (plan : Plan α) : plan.bind done = plan := by
  induction plan with
  | done a => rfl
  | ask effect next ih => exact congrArg (ask effect) (funext ih)

theorem bind_assoc (plan : Plan α) (f : α → Plan β) (g : β → Plan γ) :
    (plan.bind f).bind g = plan.bind fun a => (f a).bind g := by
  induction plan with
  | done a => rfl
  | ask effect next ih => exact congrArg (ask effect) (funext ih)

instance : LawfulMonad Plan :=
  LawfulMonad.mk' Plan bind_done (fun _ _ => rfl) bind_assoc

def perform (effect : Effect) : Plan effect.Reply := ask effect done

def run (answer : (effect : Effect) → σ → effect.Reply × σ) : Plan α → σ → α × σ
  | done a, s => (a, s)
  | ask effect next, s =>
    let (reply, s) := answer effect s
    (next reply).run answer s

theorem run_bind (answer : (effect : Effect) → σ → effect.Reply × σ) (plan : Plan α)
    (f : α → Plan β) (s : σ) :
    (plan.bind f).run answer s = (f (plan.run answer s).1).run answer (plan.run answer s).2 := by
  induction plan generalizing s with
  | done a => rfl
  | ask effect next ih => exact ih (answer effect s).1 (answer effect s).2

end Plan

/-- Work that may fail. What it did before it failed stays done. -/
abbrev Job (α : Type) := ExceptT Fault Plan α

namespace Job

def plan (p : Plan α) : Job α := ExceptT.lift p

def attempt (job : Job α) : Job (Outcome α) := plan job.run

def recover (caught : Fault → Bool) (job : Job α) (handler : Fault → Job α) : Job α := do
  match ← job.attempt with
  | .ok a => return a
  | .error fault => if caught fault then handler fault else throw fault

def list (all : Bool) : Job (List Json) := ExceptT.mk (Plan.perform (.list all))

def inspect (id : String) : Job Json := ExceptT.mk (Plan.perform (.inspect id))

def remove (id : String) (force : Bool) : Job Unit := ExceptT.mk (Plan.perform (.remove id force))

def stop (id : Json) (grace : Int) : Job Unit := ExceptT.mk (Plan.perform (.stop id grace))

def subscribe : Job Unit := ExceptT.mk (Plan.perform .subscribe)

def fetch (request : HttpRequest) : Job HttpResponse := ExceptT.mk (Plan.perform (.fetch request))

def log (entry : LogEntry) : Job Unit := ExceptT.mk (Plan.perform (.log entry))

def count (field : StatusField) (amount : Nat) : Job Unit := plan (Plan.perform (.count field amount))

def assign (field : StatusField) (value : Json) : Job Unit :=
  plan (Plan.perform (.assign field value))

def note (handler : String) (event : LifecycleEvent) : Job Unit :=
  plan (Plan.perform (.note handler event))

def stopping : Job Bool := plan (Plan.perform .stopping)

def rest (seconds : Float) : Job Unit := ExceptT.mk (Plan.perform (.rest seconds))

def ofExcept : Outcome α → Job α
  | .ok a => pure a
  | .error fault => throw fault

def run (answer : (effect : Effect) → σ → effect.Reply × σ) (job : Job α) (s : σ) :
    Outcome α × σ :=
  Plan.run answer (ExceptT.run job) s

end Job

end ContainerWarden
