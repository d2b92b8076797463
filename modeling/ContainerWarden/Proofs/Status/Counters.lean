import Mathlib.Data.List.Forall2
import ContainerWarden.Handler.Recorder
import ContainerWarden.Proofs.Status.Tally

namespace ContainerWarden

inductive Operation where
  | change (version : Json)
  | reconcile
  | check
  | dispatch (handlers : List Handler) (event : LifecycleEvent)
  | route (routes : Routes Handler) (event : LifecycleEvent)

namespace Operation

def job (settings : Settings) : Operation → Job Unit
  | change version => (fun _ => ()) <$> Orphan.onChange settings version
  | reconcile => (fun _ => ()) <$> Orphan.pass settings
  | check => (fun _ => ()) <$> Duplicate.pass settings
  | dispatch handlers event => Handler.dispatch handlers event
  | route routes event => do Handler.dispatch (← Job.ofExcept (routes.find event.status)) event

def calls : Operation → List (Job Unit)
  | dispatch handlers event => handlers.map (·.handle event)
  | route routes event => ((routes.find event.status).toOption.getD []).map (·.handle event)
  | _ => []

def IsApart (operation : Operation) : Prop :=
  ∀ call ∈ operation.calls, Job.Only (·.isApart = true) call

end Operation

inductive Amounts (settings : Settings) :
    Operation → List Exchange → Outcome Unit → Tally → Prop where
  | change {version : Json} {before after trace : List Exchange} {reached : Outcome (List String)}
      {outcome : Outcome Unit} (pass : (Orphan.pass settings).Runs before reached)
      (split : trace = ⟨.assign .metadataVersion version, ()⟩ :: (before ++ after)) :
      Amounts settings (.change version) trace outcome ((Tally.ofCalls trace).plus (.ofPass reached))
  | reconcile {trace : List Exchange} {outcome : Outcome Unit} :
      Amounts settings .reconcile trace outcome (.ofCalls trace)
  | check {trace : List Exchange} {outcome : Outcome Unit} :
      Amounts settings .check trace outcome (.ofCalls trace)
  | dispatch {handlers : List Handler} {event : LifecycleEvent} {own trace : List Exchange}
      {failures : Nat} {outcome : Outcome Unit}
      (dispatches : Handler.Dispatches event handlers own failures trace outcome) :
      Amounts settings (.dispatch handlers event) trace outcome
        ((Tally.ofCalls own).plus (.ofDispatch failures outcome))
  | route {routes : Routes Handler} {handlers : List Handler} {event : LifecycleEvent}
      {own trace : List Exchange} {failures : Nat} {outcome : Outcome Unit}
      (found : routes.find event.status = .ok handlers)
      (dispatches : Handler.Dispatches event handlers own failures trace outcome) :
      Amounts settings (.route routes event) trace outcome
        ((Tally.ofCalls own).plus (.ofDispatch failures outcome))
  | unrouted {routes : Routes Handler} {event : LifecycleEvent} {trace : List Exchange}
      {outcome : Outcome Unit} {fault : Fault} (failed : routes.find event.status = .error fault) :
      Amounts settings (.route routes event) trace outcome
        ((Tally.ofCalls trace).plus (.ofDispatch 0 outcome))

structure Deed (settings : Settings) where
  operation : Operation
  trace : List Exchange
  outcome : Outcome Unit
  run : (operation.job settings).Runs trace outcome

namespace Deed

open Tally (ofCalls isRemoval isStop isListing)

variable {settings : Settings}

def Tells (deed : Deed settings) (tally : Tally) : Prop :=
  Amounts settings deed.operation deed.trace deed.outcome tally

theorem tells_exists (deed : Deed settings) : ∃ tally, deed.Tells tally := by
  obtain ⟨operation, trace, outcome, run⟩ := deed
  cases operation with
  | change version =>
    obtain ⟨reached, run, -⟩ := Job.runs_map.mp run
    cases Orphan.onChange_exchanges run with
    | returned pass | failed pass => exact ⟨_, .change pass rfl⟩
    | broken pass => exact ⟨_, .change pass (by rw [List.append_nil])⟩
  | reconcile => exact ⟨_, .reconcile⟩
  | check => exact ⟨_, .check⟩
  | dispatch handlers event =>
    obtain ⟨own, failures, dispatches⟩ := Handler.dispatch_exchanges run
    exact ⟨_, .dispatch dispatches⟩
  | route routes event =>
    rcases Job.runs_bind.mp run with
      ⟨before, handlers, after, split, lookup, rest⟩ | ⟨fault, missed, -⟩
    · obtain ⟨empty, found⟩ := Job.runs_ofExcept.mp lookup
      obtain ⟨own, failures, dispatches⟩ := Handler.dispatch_exchanges rest
      subst split empty
      exact ⟨_, .route found.symm dispatches⟩
    · exact ⟨_, .unrouted (Job.runs_ofExcept.mp missed).2.symm⟩

/-- What comes after the pass for a new version counts it by its outcome, and calls nothing. -/
theorem shows_after_pass {version : Json} {before after : List Exchange}
    {reached removed : Outcome (List String)}
    (run : (Orphan.onChange settings version).Runs
      (⟨.assign .metadataVersion version, ()⟩ :: (before ++ after)) removed)
    (pass : (Orphan.pass settings).Runs before reached) :
    Shows after (.ofPass reached) ∧ ofCalls after = .zero := by
  obtain ⟨_, later, split, rest⟩ := Job.given_then run
  cases split
  -- The pass ends where it ended, so that the rest of the exchanges belongs to what follows it.
  have ended := Job.steps_of_bind (Job.runs_plan.mpr ⟨reached, pass, rfl⟩) rest
  cases reached with
  | ok ids =>
    obtain ⟨_, nothing, counted, returned⟩ := Job.given_then ended
    obtain ⟨empty, -⟩ := Job.runs_pure.mp returned
    subst counted empty
    refine ⟨(Shows.count .reconcilePasses 1).congr fun field _ => by cases field <;> rfl, ?_⟩
    funext field
    cases field <;> rfl
  | error fault =>
    dsimp only at ended
    cases known : fault.isMetadata with
    | true =>
      rw [known, if_pos rfl] at ended
      obtain ⟨_, written, counted, logging⟩ := Job.given_then ended
      obtain ⟨logged, row, -⟩ := Job.log_return logging
      subst counted row
      have counted : Shows
          [⟨.count .reconcileFailures 1, ()⟩, ⟨.log (Orphan.changeFailure fault), logged⟩] _ :=
        Shows.count .reconcileFailures 1
      refine ⟨counted.congr fun field _ => ?_, ?_⟩
      · cases field <;> simp [Tally.only, Tally.ofPass, known]
      · funext field
        cases field <;> rfl
    | false =>
      rw [known, if_neg Bool.false_ne_true] at ended
      obtain ⟨empty, -⟩ := Job.runs_throw.mp ended
      subst empty
      refine ⟨Shows.nil.congr fun field _ => ?_, ?_⟩
      · cases field <;> simp [Tally.zero, Tally.ofPass, known]
      · funext field
        cases field <;> rfl

theorem shows_of_change {version : Json} {before after : List Exchange}
    {reached removed : Outcome (List String)}
    (run : (Orphan.onChange settings version).Runs
      (⟨.assign .metadataVersion version, ()⟩ :: (before ++ after)) removed)
    (pass : (Orphan.pass settings).Runs before reached) :
    Shows (⟨.assign .metadataVersion version, ()⟩ :: (before ++ after))
      ((ofCalls (⟨.assign .metadataVersion version, ()⟩ :: (before ++ after))).plus
        (.ofPass reached)) := by
  obtain ⟨counted, silent⟩ := shows_after_pass run pass
  have assigned : Shows [⟨.assign .metadataVersion version, ()⟩] .zero := by
    intro status field n counter numeric
    have other : field ≠ .metadataVersion := by
      intro same
      subst same
      cases counter
    exact (Status.value_put_of_ne other version).trans numeric
  refine (assigned.append ((Shows.of_orphanPass pass).append counted)).congr fun field _ => ?_
  have calls : ofCalls (⟨.assign .metadataVersion version, ()⟩ :: (before ++ after)) field =
      ofCalls before field := by
    rw [← List.singleton_append, Tally.ofCalls_append, Tally.ofCalls_append, silent]
    cases field <;> simp [Tally.plus, Tally.zero, ofCalls, isRemoval, isStop, isListing]
  simp [Tally.plus, Tally.zero, calls]

theorem shows_of_dispatches {event : LifecycleEvent} {handlers : List Handler} {own trace : List Exchange}
    {failures : Nat} {outcome : Outcome Unit}
    (dispatches : Handler.Dispatches event handlers own failures trace outcome)
    (apart : ∀ handler ∈ handlers, Job.Only (·.isApart = true) (handler.handle event)) :
    Shows trace ((ofCalls own).plus (.ofDispatch failures outcome)) := by
  cases dispatches with
  | returned gives =>
    refine ((Shows.of_gives gives apart).append (Shows.count .eventsDispatched 1)).congr fun field _ => ?_
    rw [Tally.ofCalls_append, Tally.calls_of_gives gives]
    cases field <;>
      simp [Tally.plus, Tally.zero, Tally.only, Tally.ofDispatch, ofCalls, isRemoval, isStop, isListing]
  | cut gives =>
    refine (Shows.of_gives gives apart).congr fun field _ => ?_
    rw [Tally.calls_of_gives gives]
    cases field <;> simp [Tally.plus, Tally.zero, Tally.only, Tally.ofDispatch]

theorem shows_of_tells {deed : Deed settings} {tally : Tally} (tells : deed.Tells tally)
    (apart : deed.operation.IsApart) : Shows deed.trace tally := by
  obtain ⟨operation, trace, outcome, run⟩ := deed
  cases tells with
  | change pass split =>
    obtain ⟨removed, run, -⟩ := Job.runs_map.mp run
    subst split
    exact shows_of_change run pass
  | reconcile =>
    obtain ⟨removed, run, -⟩ := Job.runs_map.mp run
    exact Shows.of_orphanPass run
  | check =>
    obtain ⟨stopped, run, -⟩ := Job.runs_map.mp run
    exact Shows.of_duplicatePass run
  | dispatch dispatches =>
    exact shows_of_dispatches dispatches fun handler member => apart _ (List.mem_map_of_mem member)
  | route found dispatches =>
    refine shows_of_dispatches dispatches fun handler member => apart _ ?_
    rw [Operation.calls, found]
    exact List.mem_map_of_mem member
  | unrouted failed =>
    rcases Job.runs_bind.mp run with ⟨_, handlers, _, _, lookup, _⟩ | ⟨fault, lookup, missed⟩
    · cases failed.symm.trans (Job.runs_ofExcept.mp lookup).2.symm
    · obtain ⟨empty, -⟩ := Job.runs_ofExcept.mp lookup
      subst empty missed
      exact Shows.nil.congr fun field _ => by cases field <;> rfl

def statusAfter (deeds : List (Deed settings)) : Status := Status.fresh.after (deeds.flatMap (·.trace))

theorem shows_of_all {deeds : List (Deed settings)} {tallies : List Tally}
    (tells : List.Forall₂ Deed.Tells deeds tallies) (apart : ∀ deed ∈ deeds, deed.operation.IsApart) :
    Shows (deeds.flatMap (·.trace)) (.total tallies) := by
  induction tells with
  | nil => exact Shows.nil
  | cons first others ih =>
    obtain ⟨own, rest⟩ := List.forall_mem_cons.mp apart
    rw [List.flatMap_cons]
    exact (shows_of_tells first own).append (ih rest)

theorem tells_all_exists (deeds : List (Deed settings)) :
    ∃ tallies, List.Forall₂ Deed.Tells deeds tallies := by
  induction deeds with
  | nil => exact ⟨[], .nil⟩
  | cons deed rest ih =>
    obtain ⟨tally, tells⟩ := deed.tells_exists
    obtain ⟨tallies, others⟩ := ih
    exact ⟨tally :: tallies, .cons tells others⟩

theorem value_fresh {field : StatusField} (counter : field.isCounter = true) :
    Status.fresh.value field = .int 0 := by
  cases field
  case startedAt | metadataVersion | dedupInterval | eventsReplayed => cases counter
  all_goals rfl

end Deed

/-- Every counter of the status is the number of times that what it stands for has happened. -/
theorem counters_tell {settings : Settings} (deeds : List (Deed settings))
    (apart : ∀ deed ∈ deeds, deed.operation.IsApart) :
    (∃ tallies, List.Forall₂ Deed.Tells deeds tallies) ∧
      ∀ tallies, List.Forall₂ Deed.Tells deeds tallies → ∀ field, field.isCounter = true →
        (Deed.statusAfter deeds).value field = .int (Tally.total tallies field) := by
  refine ⟨Deed.tells_all_exists deeds, fun tallies tells field counter => ?_⟩
  have shown := Deed.shows_of_all tells apart Status.fresh field 0 counter (Deed.value_fresh counter)
  rwa [Nat.zero_add] at shown

theorem Handler.logging_apart (name : String) (event : LifecycleEvent) :
    Job.Only (·.isApart = true) ((Handler.logging name).handle event) := by
  intro trace outcome run exchange member
  rw [Job.runs_log.mp run, List.mem_singleton] at member
  subst member
  rfl

theorem Recorder.handler_apart (recorder : Recorder) (event : LifecycleEvent) :
    Job.Only (·.isApart = true) (recorder.handler.handle event) := by
  intro trace outcome run
  obtain ⟨_, later, split, rest⟩ := Job.given_then run
  have silent : later = [] := by
    split at rest
    · split at rest
      · exact (Job.runs_throw.mp rest).1
      · exact (Job.runs_pure.mp rest).1
    · exact (Job.runs_pure.mp rest).1
  subst split silent
  simp [Effect.isApart]

def Deed.inWorld (settings : Settings) (operation : Operation) (world : World) : Deed settings :=
  ⟨operation, _, _, Job.runs_history World.answer (operation.job settings) world⟩

theorem counters_tell_of_failing_handler :
    let failing : Recorder := { name := "a", failure := some .routerNotStarted }
    let deeds : List (Deed {}) :=
      [.inWorld {} (.dispatch [failing.handler, .logging "b"] (.simulatedStart (.str "c1"))) {},
        .inWorld {} (.change (.str "v")) (Orphan.twoStrays "web")]
    (∀ deed ∈ deeds, deed.operation.IsApart) ∧
      ∃ tallies, List.Forall₂ Deed.Tells deeds tallies ∧
        Tally.total tallies .handlerFailures = 1 ∧ Tally.total tallies .containersRemoved = 2 := by
  intro failing deeds
  have apart : ∀ deed ∈ deeds, deed.operation.IsApart := by
    intro deed member call called
    simp only [deeds, List.mem_cons, List.not_mem_nil, or_false] at member
    rcases member with rfl | rfl
    · simp only [Deed.inWorld, Operation.calls, List.map_cons, List.map_nil, List.mem_cons,
        List.not_mem_nil, or_false] at called
      rcases called with rfl | rfl
      · exact failing.handler_apart _
      · exact Handler.logging_apart "b" _
    · cases called
  obtain ⟨⟨tallies, tells⟩, counted⟩ := counters_tell deeds apart
  have values : ((Deed.statusAfter deeds).value .handlerFailures).wholeNumber? = some 1 ∧
      ((Deed.statusAfter deeds).value .containersRemoved).wholeNumber? = some 2 := by
    decide +kernel
  rw [counted tallies tells _ rfl, counted tallies tells _ rfl] at values
  refine ⟨apart, tallies, tells, ?_, ?_⟩
  · exact Int.ofNat.inj (Option.some.inj values.1)
  · exact Int.ofNat.inj (Option.some.inj values.2)

end ContainerWarden
