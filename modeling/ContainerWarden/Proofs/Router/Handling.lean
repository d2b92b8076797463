import ContainerWarden.Proofs.Router.Handing

namespace ContainerWarden

variable {η : Type}

def RouterPlan.callsFor (plan : RouterPlan η) (event : LifecycleEvent) : List (LifecycleEvent × η) :=
  (plan.handlersOf event).map (event, ·)

/-- The handlers that are not called yet. The one that has failed stands before them, until its failure is
    logged. -/
def Assignment.remaining (assignment : Assignment η) : List η :=
  match assignment.stage with
  | .failed _ | .settled (.error _) => assignment.handlers.drop 1
  | _ => assignment.handlers

def Assignment.owed (assignment : Assignment η) : List (LifecycleEvent × η) :=
  assignment.remaining.map (assignment.event, ·)

namespace Router

def Refused (moves : List RouterMove) (number : Nat) : Prop :=
  ∃ fault, RouterMove.record number (.error fault) ∈ moves

theorem Refused.snoc {moves : List RouterMove} {number : Nat} (refused : Refused moves number)
    (move : RouterMove) : Refused (moves ++ [move]) number := by
  obtain ⟨fault, member⟩ := refused
  exact ⟨fault, List.mem_append_left _ member⟩

/-- The calls for events that are done with, newest first. An event is handled in full unless a refused
    row ends its handling. -/
inductive History (plan : RouterPlan η) (moves : List RouterMove) :
    List LifecycleEvent → List (LifecycleEvent × η) → Prop where
  | none : History plan moves [] []
  | full {events calls} (earlier : History plan moves events calls) (event : LifecycleEvent) :
      History plan moves (event :: events) (calls ++ plan.callsFor event)
  | cut {events calls} (earlier : History plan moves events calls) {event part}
      (front : part <+: plan.callsFor event) (refused : Refused moves events.length) :
      History plan moves (event :: events) (calls ++ part)

variable {plan : RouterPlan η} {moves : List RouterMove} {events : List LifecycleEvent}
  {calls : List (LifecycleEvent × η)}

theorem History.snoc (history : History plan moves events calls) (move : RouterMove) :
    History plan (moves ++ [move]) events calls := by
  induction history with
  | none => exact .none
  | full _ event ih => exact ih.full event
  | cut _ front refused ih => exact ih.cut front (refused.snoc move)

theorem History.complete (history : History plan moves events calls)
    (written : ∀ number, ¬ Refused moves number) : calls = events.reverse.flatMap plan.callsFor := by
  induction history with
  | none => rfl
  | full _ event ih => rw [List.reverse_cons, List.flatMap_append, ← ih, List.flatMap_singleton]
  | cut _ _ refused => exact absurd refused (written _)

structure Busy (plan : RouterPlan η) (moves : List RouterMove) (router : Router η) (number : Nat)
    (assignment : Assignment η) (earlier : List LifecycleEvent)
    (before part : List (LifecycleEvent × η)) : Prop where
  alone : router.work.tasks = [(number, assignment)]
  handed : router.handed = assignment.event :: earlier
  last : number = earlier.length
  history : History plan moves earlier before
  calls : router.calls.reverse = before ++ part
  whole : part ++ assignment.owed = plan.callsFor assignment.event
  settled : ∀ outcome, assignment.stage = .settled outcome →
    assignment.owed = [] ∨ Refused moves number

inductive Accounted (plan : RouterPlan η) (moves : List RouterMove) (router : Router η) : Prop where
  | idle (free : router.work.tasks = []) (history : History plan moves router.handed router.calls.reverse)
  | busy {number assignment earlier before part}
      (busy : Busy plan moves router number assignment earlier before part)

variable {router next : Router η} {move : RouterMove}

theorem Accounted.same (kept : Accounted plan moves router) (work : next.work = router.work)
    (handed : next.handed = router.handed) (calls : next.calls = router.calls) :
    Accounted plan (moves ++ [move]) next := by
  cases kept with
  | idle free history =>
    refine .idle (work ▸ free) ?_
    rw [handed, calls]
    exact history.snoc move
  | busy busy =>
    exact .busy ⟨work ▸ busy.alone, handed ▸ busy.handed, busy.last, busy.history.snoc move,
      calls ▸ busy.calls, busy.whole, fun outcome stage =>
        (busy.settled outcome stage).imp_right fun refused => refused.snoc move⟩

theorem Accounted.dispatch (kept : Accounted plan moves router) (conserved : Conserved plan router)
    (handing : Handing plan router) (single : plan.workers = 1)
    (turn : Dispatch plan router move next) : Accounted plan (moves ++ [move]) next := by
  cases turn with
  | @hand event handlers holding =>
    have held := conserved.held.sum
    have total := conserved.total
    have taken : router.inDispatcher = 1 := by simp [inDispatcher, holding]
    -- The only slot is in the hands of the dispatcher.
    have empty : router.work.size = 0 := by omega
    have free : router.work.tasks = [] := List.eq_nil_of_length_eq_zero empty
    cases kept with
    | busy busy => cases free.symm.trans busy.alone
    | idle _ history =>
      have alone : (router.work.accept ⟨event, handlers, .waiting⟩).tasks =
          [(router.work.accepted, ⟨event, handlers, .waiting⟩)] := by simp [Pool.accept, free]
      have whole : Assignment.owed ⟨event, handlers, .waiting⟩ = plan.callsFor event := by
        rw [RouterPlan.callsFor, ← handing.charge event handlers (by rw [holding]; rfl)]
        rfl
      have unsettled : ∀ outcome, Stage.waiting ≠ .settled outcome := by simp
      exact .busy ⟨alone, rfl, handing.ledger.length.symm, history.snoc _, (List.append_nil _).symm, whole,
        fun outcome stage => absurd stage (unsettled outcome)⟩
  | _ => exact kept.same rfl rfl rfl

variable {number : Nat} {assignment : Assignment η} {earlier : List LifecycleEvent}
  {before part : List (LifecycleEvent × η)}

theorem Busy.found (busy : Busy plan moves router number assignment earlier before part) {other : Nat}
    {task : Assignment η} (found : router.work.task? other = some task) :
    other = number ∧ task = assignment := by
  have member := Pool.mem_of_task? found
  rw [busy.alone, List.mem_singleton] at member
  exact ⟨congrArg Prod.fst member, congrArg Prod.snd member⟩

theorem Busy.assign (busy : Busy plan moves router number assignment earlier before part)
    (move : RouterMove) (other : Assignment η) (same : other.event = assignment.event)
    (extra calls : List (LifecycleEvent × η)) (owed : assignment.owed = extra ++ other.owed)
    (called : calls.reverse = router.calls.reverse ++ extra)
    (settled : ∀ outcome, other.stage = .settled outcome →
      other.owed = [] ∨ Refused (moves ++ [move]) number) :
    Accounted plan (moves ++ [move]) { router.assign number other with calls } := by
  have alone : (router.work.update number other).tasks = [(number, other)] := by
    simp [Pool.update, Pool.replace, busy.alone]
  have shown : calls.reverse = before ++ (part ++ extra) := by
    rw [called, busy.calls, List.append_assoc]
  have whole : (part ++ extra) ++ other.owed = plan.callsFor other.event := by
    rw [List.append_assoc, ← owed, same]
    exact busy.whole
  exact .busy ⟨alone, same ▸ busy.handed, busy.last, busy.history.snoc move, shown, whole, settled⟩

theorem Busy.release (busy : Busy plan moves router number assignment earlier before part)
    (move : RouterMove) {outcome : Outcome Unit} (settled : assignment.stage = .settled outcome)
    (slots : Slots) :
    Accounted plan (moves ++ [move]) { router with slots, work := router.work.finish number } := by
  have free : (router.work.finish number).tasks = [] := by simp [Pool.finish, busy.alone]
  have whole := busy.whole
  refine .idle free ?_
  show History plan (moves ++ [move]) router.handed router.calls.reverse
  rw [busy.handed, busy.calls]
  rcases busy.settled outcome settled with done | refused
  · rw [done, List.append_nil] at whole
    rw [whole]
    exact (busy.history.snoc move).full assignment.event
  · rw [busy.last] at refused
    exact (busy.history.snoc move).cut ⟨_, whole⟩ (refused.snoc move)

theorem Accounted.work (kept : Accounted plan moves router) (turn : Work router move next) :
    Accounted plan (moves ++ [move]) next := by
  cases kept with
  | idle free =>
    have nobody : ∀ number task, router.work.task? number ≠ some task := by
      intro number task found
      have member := Pool.mem_of_task? found
      rw [free] at member
      cases member
    cases turn with
    | start found | call found | record found | count found | release found =>
      exact absurd found (nobody _ _)
  | busy busy =>
    cases turn with
    | start found =>
      obtain ⟨rfl, rfl⟩ := busy.found found
      refine busy.assign _ _ ?_ [] router.calls ?_ (List.append_nil _).symm nofun <;> rfl
    | @call _ event handler rest outcome found =>
      obtain ⟨rfl, rfl⟩ := busy.found found
      refine busy.assign _ _ ?_ [(event, handler)] _ ?_ List.reverse_cons ?_
      · cases outcome <;> rfl
      · cases outcome <;> rfl
      · cases outcome <;> exact nofun
    | @record _ event handlers fault written found =>
      obtain ⟨rfl, rfl⟩ := busy.found found
      refine busy.assign _ _ ?_ [] router.calls ?_ (List.append_nil _).symm ?_
      · cases written <;> rfl
      · cases written <;> rfl
      · cases written with
        | ok => exact nofun
        | error refusal => exact fun _ _ => .inr ⟨refusal, by simp⟩
    | count found =>
      obtain ⟨rfl, rfl⟩ := busy.found found
      refine busy.assign _ _ ?_ [] router.calls ?_ (List.append_nil _).symm fun _ _ => .inl ?_ <;> rfl
    | release found =>
      obtain ⟨rfl, rfl⟩ := busy.found found
      exact busy.release _ rfl _

theorem accounted_of_run {feed : List (Outcome Json)} {finite : Bool} (single : plan.workers = 1)
    (run : follow (Router.step plan) (fresh plan feed finite) moves = some router) :
    Accounted plan moves router := by
  refine follow_induction (motive := Accounted plan) (.idle rfl .none) ?_ run
  intro earlier state move next reached kept moved
  cases turn_of_step moved with
  | intake turn => exact kept.same turn.same.work turn.same.handed turn.same.calls
  | dispatch turn =>
    exact kept.dispatch (conserved_of_run reached) (handing_of_run reached) single turn
  | work turn => exact kept.work turn

def Handled (plan : RouterPlan η) (moves : List RouterMove) (events : List LifecycleEvent)
    (calls : List (LifecycleEvent × η)) : Prop :=
  History plan moves events calls ∨
  ∃ event earlier before part, events = event :: earlier ∧ History plan moves earlier before ∧
    part <+: plan.callsFor event ∧ calls = before ++ part

theorem Accounted.handled (kept : Accounted plan moves router) :
    Handled plan moves router.handed router.calls.reverse := by
  cases kept with
  | idle _ history => exact .inl history
  | busy busy => exact .inr ⟨_, _, _, _, busy.handed, busy.history, ⟨_, busy.whole⟩, busy.calls⟩

theorem Handled.front (handled : Handled plan moves events calls)
    (written : ∀ number, ¬ Refused moves number) : calls <+: events.reverse.flatMap plan.callsFor := by
  rcases handled with history | ⟨event, earlier, before, part, rfl, history, front, rfl⟩
  · exact history.complete written ▸ List.prefix_rfl
  · rw [history.complete written, List.reverse_cons, List.flatMap_append, List.flatMap_singleton,
      List.prefix_append_right_inj]
    exact front

theorem flatMap_callsFor_filter (plan : RouterPlan η) (events : List LifecycleEvent) :
    (events.filter plan.isHandled).flatMap plan.callsFor = events.flatMap plan.callsFor := by
  induction events with
  | nil => rfl
  | cons event rest ih =>
    cases handled : plan.isHandled event with
    | true => rw [List.filter_cons_of_pos handled, List.flatMap_cons, List.flatMap_cons, ih]
    | false =>
      have none : plan.callsFor event = [] := by
        have empty : plan.handlersOf event = [] := by simpa [RouterPlan.isHandled] using handled
        rw [RouterPlan.callsFor, empty, List.map_nil]
      rw [List.filter_cons_of_neg (by simp [handled]), List.flatMap_cons, none, List.nil_append, ih]

end Router

end ContainerWarden
