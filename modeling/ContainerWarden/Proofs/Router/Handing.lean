import ContainerWarden.Proofs.Router.Conservation

namespace ContainerWarden

variable {η : Type}

def RouterPlan.handlersOf (plan : RouterPlan η) (event : LifecycleEvent) : List η :=
  match plan.routes.find event.status with
  | .ok handlers => handlers
  | .error _ => []

def RouterPlan.isHandled (plan : RouterPlan η) (event : LifecycleEvent) : Bool :=
  !(plan.handlersOf event).isEmpty

def Dispatcher.charge : Dispatcher η → Option (LifecycleEvent × List η)
  | .waiting event handlers | .balked event handlers | .holding event handlers => some (event, handlers)
  | _ => none

namespace Router

def inPassing (router : Router η) : List LifecycleEvent :=
  match router.dispatcher.charge with
  | some (event, _) => [event]
  | none => []

variable {plan : RouterPlan η} {router next : Router η} {move : RouterMove}

theorem taking_cases (plan : RouterPlan η) (event : LifecycleEvent) :
    (plan.isHandled event = true ∧
      (taking plan event).charge = some (event, plan.handlersOf event)) ∨
    (plan.isHandled event = false ∧ (taking plan event).charge = none) := by
  unfold RouterPlan.isHandled RouterPlan.handlersOf taking
  cases plan.routes.find event.status with
  | error fault => exact .inr ⟨rfl, rfl⟩
  | ok handlers =>
    cases handlers with
    | nil => exact .inr ⟨rfl, rfl⟩
    | cons handler rest => exact .inl ⟨rfl, rfl⟩

/-- The events with handlers get to the pool in the order in which they are taken. Only the end of the
    dispatcher after stop may keep one back. -/
structure Handing (plan : RouterPlan η) (router : Router η) : Prop where
  charge : ∀ event handlers, router.dispatcher.charge = some (event, handlers) →
    handlers = plan.handlersOf event
  shut : router.poolOpen = false → router.stopped = true ∨ router.dispatcher = .absent
  whole : router.stopped = false ∨ router.dispatcher ≠ .ended →
    router.handed.reverse ++ router.inPassing = router.taken.reverse.filter plan.isHandled
  front : router.handed.reverse ++ router.inPassing <+: router.taken.reverse.filter plan.isHandled
  ledger : router.work.Ledger Assignment.event router.handed

theorem handing_fresh (feed : List (Outcome Json)) (finite : Bool) :
    Handing plan (fresh plan feed finite) :=
  ⟨nofun, fun _ => .inr rfl, fun _ => rfl, List.prefix_rfl, Pool.ledger_empty⟩

theorem Intake.gate (turn : Intake plan router move next) :
    (next.stopped = router.stopped ∧ next.poolOpen = router.poolOpen) ∨ next.stopped = true := by
  cases turn with
  | stop => exact .inr rfl
  | shutDown stopped => exact .inr stopped
  | @press who | @tire who | @giveUp who | @place who => cases who <;> exact .inl ⟨rfl, rfl⟩
  | _ => exact .inl ⟨rfl, rfl⟩

theorem Handing.intake (kept : Handing plan router) (turn : Intake plan router move next) :
    Handing plan next := by
  have same := turn.same
  refine ⟨?_, ?_, ?_, ?_, ?_⟩
  · rw [same.dispatcher]
    exact kept.charge
  · rw [same.dispatcher]
    rcases turn.gate with ⟨stopped, opened⟩ | stopped
    · rw [stopped, opened]
      exact kept.shut
    · exact fun _ => .inl stopped
  · unfold inPassing
    rw [same.dispatcher, same.handed, same.taken]
    intro going
    refine kept.whole (going.imp_left fun going => ?_)
    rcases turn.gate with ⟨stopped, _⟩ | stopped
    · exact stopped.symm.trans going
    · cases stopped.symm.trans going
  · unfold inPassing
    rw [same.dispatcher, same.handed, same.taken]
    exact kept.front
  · rw [same.work, same.handed]
    exact kept.ledger

theorem inPassing_of_charge {event : LifecycleEvent} {handlers : List η}
    (charge : router.dispatcher.charge = some (event, handlers)) : router.inPassing = [event] := by
  rw [inPassing, charge]

theorem inPassing_of_none (charge : router.dispatcher.charge = none) : router.inPassing = [] := by
  rw [inPassing, charge]

theorem Handing.keep (kept : Handing plan router) (present : router.dispatcher ≠ .absent)
    (going : router.dispatcher ≠ .ended) (dispatcher : Dispatcher η) (slots : Slots)
    (charge : dispatcher.charge = router.dispatcher.charge) :
    Handing plan { router with dispatcher, slots } := by
  have same : inPassing { router with dispatcher, slots } = router.inPassing := by
    unfold inPassing
    rw [← charge]
  refine ⟨?_, ?_, ?_, ?_, kept.ledger⟩
  · intro event handlers held
    exact kept.charge event handlers (charge.symm.trans held)
  · intro shut
    exact .inl ((kept.shut shut).resolve_right present)
  · intro _
    rw [same]
    exact kept.whole (.inr going)
  · rw [same]
    exact kept.front

theorem Handing.lose (kept : Handing plan router) (stopped : router.stopped = true) (slots : Slots) :
    Handing plan { router with dispatcher := .ended, slots } := by
  -- The event in hand is lost, so that only the prefix remains.
  refine ⟨nofun, fun _ => .inl stopped, ?_, ?_, kept.ledger⟩
  · rintro (going | going)
    · cases going.symm.trans stopped
    · exact absurd rfl going
  · have front := (List.prefix_append router.handed.reverse router.inPassing).trans kept.front
    rw [← List.append_nil router.handed.reverse] at front
    exact front

theorem Handing.dispatch (kept : Handing plan router) (conserved : Conserved plan router)
    (turn : Dispatch plan router move next) : Handing plan next := by
  cases turn with
  | begin unopened =>
    have absent := conserved.unopened unopened
    have idle : router.inPassing = [] := by simp [inPassing, absent, Dispatcher.charge]
    have whole := kept.whole (.inr (by simp [absent]))
    rw [idle] at whole
    exact ⟨nofun, nofun, fun _ => whole, whole ▸ List.prefix_rfl, kept.ledger⟩
  | finish idle stopped => exact kept.lose stopped router.slots
  | drop balked stopped => exact kept.lose stopped router.slots
  | refuse holding shut =>
    exact kept.lose ((kept.shut shut).resolve_right (by simp [holding])) router.slots.giveBack
  | watch idle | lapse idle | miss idle | retry idle =>
    exact kept.keep (by simp [idle]) (by simp [idle]) _ router.slots (by rw [idle]; rfl)
  | acquire waiting =>
    exact kept.keep (by simp [waiting]) (by simp [waiting]) _ _ (by rw [waiting]; rfl)
  | @take event rest watching first =>
    have idle : router.inPassing = [] := by simp [inPassing, watching, Dispatcher.charge]
    have whole := kept.whole (.inr (by simp [watching]))
    rw [idle, List.append_nil] at whole
    have shut : router.poolOpen = false → router.stopped = true := fun shut =>
      (kept.shut shut).resolve_right (by simp [watching])
    have longer : router.handed.reverse ++
        inPassing { router with dispatcher := taking plan event } =
          (event :: router.taken).reverse.filter plan.isHandled := by
      rw [List.reverse_cons, List.filter_append, whole]
      obtain ⟨handled, charge⟩ | ⟨unhandled, none⟩ := taking_cases plan event
      · rw [inPassing_of_charge charge, List.filter_cons_of_pos handled, List.filter_nil]
      · rw [inPassing_of_none none, List.filter_cons_of_neg (by simp [unhandled]), List.filter_nil]
    refine ⟨?_, fun closed => .inl (shut closed), fun _ => longer, longer ▸ List.prefix_rfl, kept.ledger⟩
    intro other handlers held
    obtain ⟨_, charge⟩ | ⟨_, none⟩ := taking_cases plan event
    · cases charge.symm.trans held
      rfl
    · cases none.symm.trans held
  | @hand event handlers holding =>
    have before : router.inPassing = [event] := inPassing_of_charge (by rw [holding]; rfl)
    have moved : (event :: router.handed).reverse ++ [] = router.handed.reverse ++ router.inPassing := by
      rw [before, List.reverse_cons, List.append_nil]
    have whole := kept.whole (.inr (by simp [holding]))
    rw [← moved] at whole
    have shut : router.poolOpen = false → router.stopped = true := fun shut =>
      (kept.shut shut).resolve_right (by simp [holding])
    exact ⟨nofun, fun closed => .inl (shut closed), fun _ => whole, whole ▸ List.prefix_rfl,
      kept.ledger.accept _⟩

theorem Handing.assign (kept : Handing plan router) {number : Nat} {assignment other : Assignment η}
    (found : router.work.task? number = some assignment) (same : other.event = assignment.event)
    (calls : List (LifecycleEvent × η)) :
    Handing plan { router.assign number other with calls } :=
  ⟨kept.charge, kept.shut, kept.whole, kept.front, kept.ledger.update found same⟩

theorem Handing.work (kept : Handing plan router) (turn : Work router move next) :
    Handing plan next := by
  cases turn with
  | start found | count found => exact kept.assign found (by rfl) router.calls
  | @call _ _ _ _ outcome found => exact kept.assign found (by cases outcome <;> rfl) _
  | @record _ _ _ _ written found => exact kept.assign found (by cases written <;> rfl) router.calls
  | release found => exact ⟨kept.charge, kept.shut, kept.whole, kept.front, kept.ledger.finish _⟩

theorem Handing.turn (kept : Handing plan router) (conserved : Conserved plan router)
    (turn : Turn plan router move next) : Handing plan next := by
  cases turn with
  | intake turn => exact kept.intake turn
  | dispatch turn => exact kept.dispatch conserved turn
  | work turn => exact kept.work turn

theorem handing_of_run {feed : List (Outcome Json)} {finite : Bool} {moves : List RouterMove}
    (run : follow (Router.step plan) (fresh plan feed finite) moves = some router) :
    Handing plan router :=
  follow_induction (motive := fun _ router => Handing plan router) (handing_fresh feed finite)
    (fun _ _ _ _ reached kept moved => kept.turn (conserved_of_run reached) (turn_of_step moved)) run

end Router

end ContainerWarden
