import ContainerWarden.Proofs.Status.Counters

namespace ContainerWarden

def HandlerRegistry.handlersFor (registry : HandlerRegistry) (status : String) : List Handler :=
  if status = LifecycleEvent.started then
    [registry.binexecWatcher, registry.startHandler, registry.networkManager]
  else if status = LifecycleEvent.died then [registry.networkManager]
  else []

theorem HandlerRegistry.find_routes (registry : HandlerRegistry) (status : String) :
    registry.routes.find (.str status) = .ok (registry.handlersFor status) := by
  unfold Routes.find HandlerRegistry.routes HandlerRegistry.handlersFor
  have apart : LifecycleEvent.died ≠ LifecycleEvent.started := by decide
  by_cases started : status = LifecycleEvent.started
  · simp [started]
  · by_cases died : status = LifecycleEvent.died
    · simp [died, apart, List.lookup_cons, beq_eq_false_iff_ne.mpr apart]
    · simp [started, died, List.lookup_cons, beq_eq_false_iff_ne.mpr started, beq_eq_false_iff_ne.mpr died]

namespace Handler

structure Attempt where
  handler : Handler
  work : List Exchange
  outcome : Outcome Unit

namespace Attempt

def CameOf (event : LifecycleEvent) (attempt : Attempt) : Prop :=
  (attempt.handler.handle event).Runs attempt.work attempt.outcome

def fault? (attempt : Attempt) : Option Fault :=
  match attempt.outcome with
  | .ok () => none
  | .error fault => some fault

def row? (event : LifecycleEvent) (attempt : Attempt) : Option LogEntry :=
  attempt.fault?.map (failure event attempt.handler)

def notice (row : LogEntry) : List Exchange := [⟨.count .handlerFailures 1, ()⟩, ⟨.log row, .ok ()⟩]

def trace (event : LifecycleEvent) (attempt : Attempt) : List Exchange :=
  attempt.work ++ (attempt.row? event).toList.flatMap notice

end Attempt

def failures (attempts : List Attempt) : Nat := attempts.countP (·.fault?.isSome)

def course (event : LifecycleEvent) (attempts : List Attempt) : List Exchange :=
  attempts.flatMap (·.trace event) ++ [⟨.count .eventsDispatched 1, ()⟩]

def AreWritten (event : LifecycleEvent) (handlers : List Handler) (trace : List Exchange) : Prop :=
  ∀ handler ∈ handlers, ∀ fault refusal,
    (⟨.log (failure event handler fault), .error refusal⟩ : Exchange) ∉ trace

structure Names (handler : Handler) (status id : String) (row : LogEntry) : Prop where
  level : row.level = .str "ERROR"
  component : row.component = .str "events"
  container : row.containerId = .str id
  message : ∃ reason, row.message = .str (handler.className ++ " failed on " ++ status ++ ": " ++ reason)

variable {event : LifecycleEvent} {handlers : List Handler} {own trace : List Exchange}
  {count : Nat} {outcome : Outcome Unit} {attempts : List Attempt} {id status : String}

theorem attempts_of_gives (gives : Gives event handlers own count trace outcome)
    (written : AreWritten event handlers trace) :
    ∃ attempts : List Attempt, attempts.map (·.handler) = handlers ∧
      (∀ attempt ∈ attempts, attempt.CameOf event) ∧ trace = attempts.flatMap (·.trace event) ∧
      outcome = .ok () := by
  induction gives with
  | nil => exact ⟨[], rfl, nofun, rfl, rfl⟩
  | @returned handler rest work own trace count outcome run others ih =>
    obtain ⟨attempts, order, given, rfl, returned⟩ := ih fun handler member fault refusal refused =>
      written handler (by simp [member]) fault refusal (by simp [refused])
    refine ⟨⟨handler, work, .ok ()⟩ :: attempts, by simp [order], ?_, ?_, returned⟩
    · exact List.forall_mem_cons.mpr ⟨run, given⟩
    · simp [Attempt.trace, Attempt.row?, Attempt.fault?]
  | @failed handler rest work own trace count outcome fault run others ih =>
    obtain ⟨attempts, order, given, rfl, returned⟩ := ih fun handler member fault refusal refused =>
      written handler (by simp [member]) fault refusal (by simp [refused])
    refine ⟨⟨handler, work, .error fault⟩ :: attempts, by simp [order], ?_, ?_, returned⟩
    · exact List.forall_mem_cons.mpr ⟨run, given⟩
    · simp [Attempt.trace, Attempt.row?, Attempt.fault?, Attempt.notice]
  | @refused handler rest work fault refusal run =>
    -- Only a row that is refused keeps the event from the handlers that follow.
    exact absurd (by simp) (written handler (by simp) fault refusal)

theorem attempts_of_dispatch (run : (dispatch handlers event).Runs trace outcome)
    (written : AreWritten event handlers trace) :
    ∃ attempts : List Attempt, attempts.map (·.handler) = handlers ∧
      (∀ attempt ∈ attempts, attempt.CameOf event) ∧ trace = course event attempts ∧ outcome = .ok () := by
  obtain ⟨own, count, dispatches⟩ := dispatch_exchanges run
  cases dispatches with
  | returned gives =>
    obtain ⟨attempts, order, given, rfl, -⟩ := attempts_of_gives gives
      fun handler member fault refusal refused => written handler member fault refusal (by simp [refused])
    exact ⟨attempts, order, given, rfl, rfl⟩
  | cut gives =>
    obtain ⟨_, _, _, _, impossible⟩ := attempts_of_gives gives written
    cases impossible

theorem give_runs {attempt : Attempt} (came : attempt.CameOf event) :
    (give event attempt.handler).Runs (attempt.trace event) (.ok ()) := by
  obtain ⟨handler, work, outcome⟩ := attempt
  cases outcome with
  | ok result =>
    have silent : Attempt.trace event ⟨handler, work, .ok result⟩ = work := by
      simp [Attempt.trace, Attempt.row?, Attempt.fault?]
    rw [silent]
    exact Job.recover_of_ok came
  | error fault =>
    have noticed : Attempt.trace event ⟨handler, work, .error fault⟩ =
        work ++ ([⟨.count .handlerFailures 1, ()⟩] ++ [⟨.log (failure event handler fault), .ok ()⟩]) := by
      simp [Attempt.trace, Attempt.row?, Attempt.fault?, Attempt.notice]
    have counted : (Job.count .handlerFailures 1).Runs [⟨.count .handlerFailures 1, ()⟩] (.ok ()) :=
      Job.runs_count.mpr ⟨rfl, rfl⟩
    rw [noticed]
    exact Job.recover_of_caught came rfl (Job.runs_then counted (Job.runs_log.mpr rfl))

theorem giveAll_runs (came : ∀ attempt ∈ attempts, attempt.CameOf event) :
    (giveAll event (attempts.map (·.handler))).Runs (attempts.flatMap (·.trace event)) (.ok ()) := by
  induction attempts with
  | nil => exact Job.runs_pure.mpr ⟨rfl, rfl⟩
  | cons attempt rest ih =>
    obtain ⟨first, others⟩ := List.forall_mem_cons.mp came
    exact Job.runs_then (give_runs first) (ih others)

theorem dispatch_runs (came : ∀ attempt ∈ attempts, attempt.CameOf event) :
    (dispatch (attempts.map (·.handler)) event).Runs (course event attempts) (.ok ()) :=
  Job.runs_then (giveAll_runs came) (Job.runs_count.mpr ⟨rfl, rfl⟩)

theorem shows_attempt {attempt : Attempt} {tally : Tally} (worked : Shows attempt.work tally) :
    Shows (attempt.trace event) (tally.plus (.only .handlerFailures (failures [attempt]))) := by
  refine worked.append ?_
  cases fault : attempt.fault? with
  | none =>
    have silent : attempt.row? event = none := by rw [Attempt.row?, fault, Option.map_none]
    rw [silent]
    exact Shows.nil.congr fun field _ => by simp [Tally.only, Tally.zero, failures, fault]
  | some reason =>
    have written : attempt.row? event = some (failure event attempt.handler reason) := by
      rw [Attempt.row?, fault, Option.map_some]
    have one : failures [attempt] = 1 := by simp [failures, fault]
    rw [written, one]
    exact Shows.reported _ _

theorem shows_attempts {tallies : List Tally}
    (worked : List.Forall₂ (fun attempt tally => Shows attempt.work tally) attempts tallies) :
    Shows (attempts.flatMap (·.trace event))
      ((Tally.total tallies).plus (.only .handlerFailures (failures attempts))) := by
  induction worked with
  | nil =>
    refine Shows.nil.congr fun field _ => ?_
    simp [Tally.plus, Tally.total, Tally.zero, Tally.only, failures]
  | @cons attempt tally attempts tallies first others ih =>
    refine ((shows_attempt first).append ih).congr fun field _ => ?_
    have split : failures (attempt :: attempts) = failures [attempt] + failures attempts := by
      simp [failures, List.countP_cons, Nat.add_comm]
    rw [split]
    by_cases same : field = .handlerFailures
    · simp [Tally.plus, Tally.total, Tally.only, same]
      omega
    · simp [Tally.plus, Tally.total, Tally.only, same]

theorem shows_course {tallies : List Tally}
    (worked : List.Forall₂ (fun attempt tally => Shows attempt.work tally) attempts tallies) :
    Shows (course event attempts)
      ((Tally.total tallies).plus (.ofDispatch (failures attempts) (.ok ()))) := by
  refine ((shows_attempts worked).append (Shows.count .eventsDispatched 1)).congr fun field _ => ?_
  cases field <;> simp [Tally.plus, Tally.only, Tally.ofDispatch]

theorem total_of_zeros (attempts : List Attempt) :
    Tally.total (attempts.map fun _ => Tally.zero) = Tally.zero := by
  induction attempts with
  | nil => rfl
  | cons attempt rest ih => exact congrArg (Tally.plus .zero) ih

/-- Handlers that leave the status alone add nothing to what the dispatch counts. -/
theorem shows_course_of_apart
    (silent : ∀ attempt ∈ attempts, ∀ exchange ∈ attempt.work, exchange.1.isApart = true) :
    Shows (course event attempts) (.ofDispatch (failures attempts) (.ok ())) := by
  have worked : List.Forall₂ (fun attempt tally => Shows attempt.work tally) attempts
      (attempts.map fun _ => Tally.zero) :=
    List.forall₂_map_right_iff.mpr (List.forall₂_same.mpr fun attempt member =>
      Shows.apart (silent attempt member))
  refine (shows_course worked).congr fun field _ => ?_
  rw [total_of_zeros]
  exact Nat.zero_add _

theorem names_failure (identified : event.id = .str id) (stated : event.status = .str status)
    (handler : Handler) (fault : Fault) : Names handler status id (failure event handler fault) :=
  ⟨rfl, rfl, identified, fault.headline, by simp [failure, LogEntry.error, stated, Json.text]⟩

theorem rows_name (identified : event.id = .str id) (stated : event.status = .str status)
    (attempts : List Attempt) :
    List.Forall₂ (fun attempt row => Names attempt.handler status id row)
      (attempts.filter (·.fault?.isSome)) (attempts.filterMap (·.row? event)) := by
  induction attempts with
  | nil => exact .nil
  | cons attempt rest ih =>
    cases fault : attempt.fault? with
    | none => simpa [Attempt.row?, fault] using ih
    | some reason =>
      simpa [Attempt.row?, fault] using ⟨names_failure identified stated attempt.handler reason, ih⟩

structure Isolates (event : LifecycleEvent) (id status : String) (handlers : List Handler)
    (trace : List Exchange) (outcome : Outcome Unit) (attempts : List Attempt) : Prop where
  order : attempts.map (·.handler) = handlers
  given : ∀ attempt ∈ attempts, attempt.CameOf event
  exchanges : trace = course event attempts
  returned : outcome = .ok ()
  rows : List.Forall₂ (fun attempt row => Names attempt.handler status id row)
    (attempts.filter (·.fault?.isSome)) (attempts.filterMap (·.row? event))
  counted : (∀ attempt ∈ attempts, ∀ exchange ∈ attempt.work, exchange.1.isApart = true) →
    Shows trace (.ofDispatch (failures attempts) (.ok ()))
  /-- What the handlers count themselves comes on top. -/
  countedBeside : ∀ tallies, List.Forall₂ (fun attempt tally => Shows attempt.work tally) attempts tallies →
    Shows trace ((Tally.total tallies).plus (.ofDispatch (failures attempts) (.ok ())))

theorem isolates_of_dispatch (identified : event.id = .str id) (stated : event.status = .str status)
    (run : (dispatch handlers event).Runs trace outcome) (written : AreWritten event handlers trace) :
    ∃ attempts, Isolates event id status handlers trace outcome attempts := by
  obtain ⟨attempts, order, given, exchanges, returned⟩ := attempts_of_dispatch run written
  refine ⟨attempts, order, given, exchanges, returned, rows_name identified stated attempts, ?_, ?_⟩
  · intro silent
    rw [exchanges]
    exact shows_course_of_apart silent
  · intro tallies worked
    rw [exchanges]
    exact shows_course worked

theorem dispatch_of_route (stated : event.status = .str status) (registry : HandlerRegistry)
    (settings : Settings) :
    (Operation.route registry.routes event).job settings =
      dispatch (registry.handlersFor status) event := by
  simp only [Operation.job]
  rw [stated, registry.find_routes]
  rfl

/-- A failing handler costs its own row and nothing else: each handler is given the event, in order. -/
theorem failures_isolated (identified : event.id = .str id) (stated : event.status = .str status) :
    (∀ handlers trace outcome, (dispatch handlers event).Runs trace outcome →
      AreWritten event handlers trace →
      ∃ attempts, Isolates event id status handlers trace outcome attempts) ∧
    (∀ attempts : List Attempt, (∀ attempt ∈ attempts, attempt.CameOf event) →
      (dispatch (attempts.map (·.handler)) event).Runs (course event attempts) (.ok ())) ∧
    ∀ (registry : HandlerRegistry) (settings : Settings) trace outcome,
      ((Operation.route registry.routes event).job settings).Runs trace outcome →
      AreWritten event (registry.handlersFor status) trace →
      ∃ attempts, Isolates event id status (registry.handlersFor status) trace outcome attempts := by
  refine ⟨fun handlers trace outcome run written => isolates_of_dispatch identified stated run written,
    fun attempts came => dispatch_runs came, fun registry settings trace outcome run written => ?_⟩
  rw [dispatch_of_route stated] at run
  exact isolates_of_dispatch identified stated run written

theorem failures_isolated_of_failing_handler :
    let event := LifecycleEvent.simulatedStart (.str "c1")
    let handlers := [Recorder.handler { name := "a", failure := some .routerNotStarted }, .logging "b"]
    ∃ trace, (dispatch handlers event).Runs trace (.ok ()) ∧ AreWritten event handlers trace ∧
      ∃ attempts, Isolates event "c1" "start" handlers trace (.ok ()) attempts := by
  intro event handlers
  let failing : Attempt :=
    ⟨Recorder.handler { name := "a", failure := some .routerNotStarted }, [⟨.note "a" event, ()⟩],
      .error .routerNotStarted⟩
  let returning : Attempt :=
    ⟨.logging "b", [⟨.log (.info "events" "b: start (replayed)" (.str "c1")), .ok ()⟩], .ok ()⟩
  have came : ∀ attempt ∈ [failing, returning], attempt.CameOf event := by
    refine List.forall_mem_cons.mpr ⟨.ask _ (.refl _), List.forall_mem_cons.mpr ⟨.ask _ (.refl _), nofun⟩⟩
  have identified : event.id = .str "c1" := rfl
  have stated : event.status = .str "start" := rfl
  have isolated := failures_isolated identified stated
  have run := isolated.2.1 _ came
  have written : AreWritten event handlers (course event [failing, returning]) := by
    simp [AreWritten, course, failing, returning, Attempt.trace, Attempt.row?, Attempt.fault?,
      Attempt.notice]
  exact ⟨_, run, written, isolated.1 handlers _ _ run written⟩

end Handler

end ContainerWarden
