import Mathlib.Data.List.Infix
import ContainerWarden.Bootstrap
import ContainerWarden.Handler.Recorder
import ContainerWarden.Proofs.Router.Handling
import ContainerWarden.Proofs.Router.Opening

namespace ContainerWarden.Bootstrap

variable {η : Type}

def events (containers : List ContainerSummary) (feed : List (Outcome Json)) : List LifecycleEvent :=
  replay containers ++ (EventStream.readAll feed).1

def unproduced (containers : List ContainerSummary) (launch : Launch η) : List LifecycleEvent :=
  match launch.phase with
  | .opening | .listing => replay containers ++ launch.router.unread
  | .replaying | .reading | .abandoned => launch.router.ahead

def routed (containers : List ContainerSummary) : Move → RouterMove
  | .begin => .begin
  | .replay => .bring (replay containers)
  | .listen => .listen
  | .abandon => .stop
  | .turn move => move

section

variable {plan : RouterPlan η} {containers : List ContainerSummary} {feed : List (Outcome Json)}
  {finite : Bool} {launch next : Launch η} {move : Move} {moves : List Move}

theorem step_router (moved : step plan containers launch move = some next) :
    launch.router.step plan (routed containers move) = some next.router := by
  cases move with
  | begin | replay | abandon =>
    simp only [step] at moved
    split at moved
    all_goals first
    | obtain ⟨router, turned, rfl⟩ := Option.map_eq_some_iff.mp moved
      exact turned
    | cases moved
  | listen =>
    simp only [step] at moved
    split at moved
    · split at moved
      · obtain ⟨router, turned, rfl⟩ := Option.map_eq_some_iff.mp moved
        exact turned
      · cases moved
    · cases moved
  | turn move =>
    simp only [step] at moved
    split at moved
    · cases moved
    · obtain ⟨router, turned, rfl⟩ := Option.map_eq_some_iff.mp moved
      exact turned

theorem follow_router (run : follow (step plan containers) (.fresh plan feed finite) moves = some launch) :
    follow (Router.step plan) (.fresh plan feed finite) (moves.map (routed containers)) =
      some launch.router := by
  refine follow_induction
    (motive := fun moves launch => follow (Router.step plan) (.fresh plan feed finite)
      (moves.map (routed containers)) = some launch.router) rfl ?_ run
  intro before state move next _ kept moved
  rw [List.map_append, List.map_singleton]
  exact follow_snoc.mpr ⟨state.router, kept, step_router moved⟩

inductive Ordered (containers : List ContainerSummary) (feed : List (Outcome Json)) (launch : Launch η) :
    Prop where
  | before (early : launch.phase = .opening ∨ launch.phase = .listing)
      (blank : launch.router.Blank feed)
  | replaying (phase : launch.phase = .replaying) (flows : launch.router.Flows (events containers feed))
      (absent : launch.router.pump = .absent)
  | after (late : launch.phase = .reading ∨ launch.phase = .abandoned)
      (flows : launch.router.Flows (events containers feed))

theorem Ordered.turn (kept : Ordered containers feed launch) {router : Router η} {move : RouterMove}
    (own : move.ofStart = false) (turn : Router.Turn plan launch.router move router) :
    Ordered containers feed { launch with router } := by
  cases kept with
  | before early blank => exact .before early (blank.turn turn own)
  | replaying phase flows absent =>
    exact .replaying phase (flows.turn turn own) (Router.pump_absent_turn absent turn own)
  | after late flows => exact .after late (flows.turn turn own)

theorem Ordered.blank (kept : Ordered containers feed launch)
    (early : launch.phase = .opening ∨ launch.phase = .listing) : launch.router.Blank feed := by
  cases kept with
  | before _ blank => exact blank
  | replaying phase => simp [phase] at early
  | after late => rcases early with early | early <;> simp [early] at late

theorem Ordered.flows (kept : Ordered containers feed launch) (replaying : launch.phase = .replaying) :
    launch.router.Flows (events containers feed) ∧ launch.router.pump = .absent := by
  cases kept with
  | before early => simp [replaying] at early
  | replaying _ flows absent => exact ⟨flows, absent⟩
  | after late => simp [replaying] at late

theorem Ordered.step (kept : Ordered containers feed launch)
    (moved : step plan containers launch move = some next) : Ordered containers feed next := by
  cases move with
  | begin =>
    simp only [Bootstrap.step] at moved
    split at moved
    · rename_i opening
      obtain ⟨router, turned, rfl⟩ := Option.map_eq_some_iff.mp moved
      have blank := kept.blank (.inl opening)
      cases Router.turn_of_step turned with
      | intake turn | work turn => cases turn
      | dispatch turn => exact .before (.inr rfl) (blank.same turn.same turn.line)
    · cases moved
  | replay =>
    simp only [Bootstrap.step] at moved
    split at moved
    · rename_i listing
      obtain ⟨router, turned, rfl⟩ := Option.map_eq_some_iff.mp moved
      cases turned
      have blank := kept.blank (.inr listing)
      exact .replaying rfl (blank.bring _) blank.pump
    · cases moved
  | listen =>
    simp only [Bootstrap.step] at moved
    split at moved
    · rename_i replaying
      split at moved
      · rename_i through
        obtain ⟨router, turned, rfl⟩ := Option.map_eq_some_iff.mp moved
        obtain ⟨flows, absent⟩ := kept.flows replaying
        have through : ∀ caller ∈ launch.router.callers, caller = ⟨[], .none⟩ :=
          fun caller member => Caller.eq_of_isThrough (List.all_eq_true.mp through caller member)
        cases Router.turn_of_step turned with
        | dispatch turn | work turn => cases turn
        | intake turn =>
          cases turn with
          | listen => exact .after (.inl rfl) (flows.listen absent through none)
          | listening _ present => exact absurd absent present
      · cases moved
    · cases moved
  | abandon =>
    simp only [Bootstrap.step] at moved
    split at moved
    · rename_i listing
      obtain ⟨router, turned, rfl⟩ := Option.map_eq_some_iff.mp moved
      cases turned
      exact .after (.inr rfl) ((kept.blank (.inr listing)).stop _ _)
    · rename_i replaying
      obtain ⟨router, turned, rfl⟩ := Option.map_eq_some_iff.mp moved
      cases turned
      obtain ⟨flows, -⟩ := kept.flows replaying
      have stopped : Router.Intake plan launch.router .stop _ := .stop
      exact .after (.inr rfl) (flows.intake stopped rfl)
    · cases moved
  | turn move =>
    simp only [Bootstrap.step] at moved
    split at moved
    · cases moved
    · rename_i own
      obtain ⟨router, turned, rfl⟩ := Option.map_eq_some_iff.mp moved
      exact kept.turn (Bool.eq_false_iff.mpr own) (Router.turn_of_step turned)

theorem ordered_of_run
    (run : follow (step plan containers) (.fresh plan feed finite) moves = some launch) :
    Ordered containers feed launch :=
  follow_induction (motive := fun _ launch => Ordered containers feed launch)
    (.before (.inl rfl) (Router.blank_fresh feed finite)) (fun _ _ _ _ _ kept moved => kept.step moved) run

theorem Ordered.front (kept : Ordered containers feed launch) :
    launch.router.line <+: events containers feed := by
  cases kept with
  | before _ blank =>
    rw [blank.line]
    exact List.nil_prefix
  | replaying _ flows | after _ flows => exact (List.prefix_append _ _).trans flows.front

theorem Ordered.whole (kept : Ordered containers feed launch) (going : launch.router.stopped = false) :
    launch.router.line ++ launch.router.held ++ unproduced containers launch = events containers feed ∧
      launch.router.held.length ≤ 1 := by
  cases kept with
  | before early blank =>
    have held : launch.router.held = [] := by
      simp [Router.held, blank.callers, blank.pump, Pump.events]
    have unread : launch.router.unread = (EventStream.readAll feed).1 := by
      rw [Router.unread_of_open (by simp [blank.pump]), blank.feed]
    rw [blank.line, held]
    refine ⟨?_, Nat.zero_le _⟩
    rcases early with phase | phase <;>
    · rw [unproduced, phase, unread]
      rfl
  | replaying phase flows =>
    rw [unproduced, phase]
    exact ⟨flows.whole going, flows.inTurn.held_length⟩
  | after late flows =>
    refine ⟨?_, flows.inTurn.held_length⟩
    rcases late with phase | phase <;>
    · rw [unproduced, phase]
      exact flows.whole going

/-- The order of the events of a start on their way to the handlers. -/
structure OrderLaw (plan : RouterPlan η) (containers : List ContainerSummary) (feed : List (Outcome Json))
    (moves : List Move) (launch : Launch η) : Prop where
  front : launch.router.taken.reverse ++ launch.router.queue <+: events containers feed
  whole : launch.router.stopped = false →
    launch.router.taken.reverse ++ launch.router.queue ++ launch.router.held ++
      unproduced containers launch = events containers feed ∧ launch.router.held.length ≤ 1
  handed : launch.router.handed.reverse <+: launch.router.taken.reverse.filter plan.isHandled
  handedWhole : launch.router.stopped = false →
    launch.router.handed.reverse ++ launch.router.inPassing =
      launch.router.taken.reverse.filter plan.isHandled
  calls : plan.workers = 1 → (∀ number fault, .turn (.record number (.error fault)) ∉ moves) →
    launch.router.calls.reverse <+: (events containers feed).flatMap plan.callsFor
  /-- The failure of a handler that cannot be logged ends no more than the handling of its own event. -/
  callsAnyway : plan.workers = 1 →
    Router.Handled plan (moves.map (routed containers)) launch.router.handed launch.router.calls.reverse

theorem refused_routed {number : Nat} (refused : Router.Refused (moves.map (routed containers)) number) :
    ∃ fault, .turn (.record number (.error fault)) ∈ moves := by
  obtain ⟨fault, member⟩ := refused
  obtain ⟨move, there, same⟩ := List.mem_map.mp member
  cases move with
  | begin | replay | listen | abandon => cases same
  | turn move =>
    cases same
    exact ⟨fault, there⟩

end

theorem events_in_order {size : Int} {registry : HandlerRegistry} {containers : List ContainerSummary}
    {feed : List (Outcome Json)} {finite : Bool} {moves : List Move} {launch : Launch Handler}
    (run : follow (step (plan size registry) containers) (.fresh (plan size registry) feed finite) moves =
      some launch) :
    OrderLaw (plan size registry) containers feed moves launch := by
  have ordered := ordered_of_run run
  have handing := Router.handing_of_run (follow_router run)
  have handed : launch.router.handed.reverse <+:
      launch.router.taken.reverse.filter (plan size registry).isHandled :=
    (List.prefix_append _ _).trans handing.front
  have handled : (plan size registry).workers = 1 →
      Router.Handled (plan size registry) (moves.map (routed containers)) launch.router.handed
        launch.router.calls.reverse :=
    fun single => (Router.accounted_of_run single (follow_router run)).handled
  refine ⟨ordered.front, ordered.whole, handed, fun going => handing.whole (.inl going), ?_, handled⟩
  intro single written
  have complete : ∀ number, ¬ Router.Refused (moves.map (routed containers)) number := by
    intro number refused
    obtain ⟨fault, member⟩ := refused_routed refused
    exact written number fault member
  have taken : launch.router.taken.reverse <+: events containers feed :=
    (List.prefix_append _ _).trans ordered.front
  calc launch.router.calls.reverse
    _ <+: launch.router.handed.reverse.flatMap (plan size registry).callsFor :=
      (handled single).front complete
    _ <+: (launch.router.taken.reverse.filter (plan size registry).isHandled).flatMap
        (plan size registry).callsFor := handed.flatMap _
    _ <+: (events containers feed).flatMap (plan size registry).callsFor := by
      rw [Router.flatMap_callsFor_filter]
      exact taken.flatMap _

def submission : List Move :=
  [.turn (.next 0), .turn (.check (.caller 0)), .turn (.place (.caller 0))]

def dispatch : List Move := [.turn .look, .turn .take, .turn .acquire, .turn .hand]

def replayRun : List Move :=
  [.begin, .replay] ++ submission ++ [.listen] ++ dispatch ++
    [.turn (.start 0), .turn (.call 0 (.ok ())), .turn .pull, .turn .consider, .turn (.check .pump),
      .turn (.place .pump), .turn (.call 0 (.error .routerNotStarted)), .turn (.record 0 (.ok ())),
      .turn (.call 0 (.ok ())), .turn (.count 0), .turn (.release 0)] ++ dispatch ++
    [.turn (.start 1), .turn (.call 1 (.ok ()))]

theorem events_in_order_in_replayRun :
    let containers : List ContainerSummary := [{ id := .str "c1", state := "running" }]
    let feed : List (Outcome Json) := [.ok (.obj [("id", .str "c2"), ("status", .str "die")])]
    ∃ launch, follow (step (plan 1 .logging) containers) (.fresh (plan 1 .logging) feed false) replayRun =
        some launch ∧
      launch.router.calls.length = 4 ∧ OrderLaw (plan 1 .logging) containers feed replayRun launch := by
  intro containers feed
  have counted : (follow (step (plan 1 .logging) containers) (.fresh (plan 1 .logging) feed false)
      replayRun).map (·.router.calls.length) = some 4 := by decide +kernel
  obtain ⟨launch, run, calls⟩ := Option.map_eq_some_iff.mp counted
  exact ⟨launch, run, calls, events_in_order run⟩

def unwritable : Fault := .reported .runtimeError (Text.ofPoints [0xD800])

def failingRegistry : HandlerRegistry where
  binexecWatcher := ({ name := "b", className := "First", failure := some unwritable } : Recorder).handler
  startHandler := ({ name := "s", className := "Second" } : Recorder).handler
  networkManager := ({ name := "n", className := "Third" } : Recorder).handler

/-- A failure that cannot be logged keeps an event from the other handlers, though the next one comes. -/
theorem refused_row_cuts_handling :
    let containers : List ContainerSummary :=
      [{ id := .str "c1", state := "" }, { id := .str "c2", state := "" }]
    let first : LifecycleEvent := .simulatedStart (.str "c1")
    ∃ refusal launch,
      (∀ world : World,
        (world.perform (failingRegistry.binexecWatcher.handle first)).1 = .error unwritable) ∧
      EventLog.append {} (Handler.failure first failingRegistry.binexecWatcher unwritable) =
        .error refusal ∧
      follow (step (plan 1 failingRegistry) containers) (.fresh (plan 1 failingRegistry) [] false)
        ([.begin, .replay] ++ submission ++ dispatch ++
          [.turn (.start 0), .turn (.call 0 (.error unwritable)), .turn (.record 0 (.error refusal)),
            .turn (.release 0)] ++ submission ++ dispatch ++
          [.turn (.start 1), .turn (.call 1 (.error unwritable))]) = some launch ∧
      ¬ launch.router.calls.reverse <+:
        (events containers []).flatMap (plan 1 failingRegistry).callsFor := by
  intro containers first
  have refused : (EventLog.append {}
    (Handler.failure first failingRegistry.binexecWatcher unwritable)).toOption = none := by decide
  cases written : EventLog.append {} (Handler.failure first failingRegistry.binexecWatcher unwritable) with
  | ok log =>
    rw [written] at refused
    cases refused
  | error refusal =>
    refine ⟨refusal, _, fun _ => rfl, rfl, rfl, ?_⟩
    intro front
    have names := front.map fun call => call.2.className
    have cut : ["First", "First"] <+: ["First", "Second", "Third", "First", "Second", "Third"] := names
    simp at cut

end ContainerWarden.Bootstrap
