import ContainerWarden.Proofs.Router.Turn

namespace ContainerWarden.Router

variable {η : Type} {plan : RouterPlan η} {router next : Router η} {move : RouterMove}

def inDispatcher (router : Router η) : Nat :=
  match router.dispatcher with
  | .holding _ _ => 1
  | _ => 0

structure Conserved (plan : RouterPlan η) (router : Router η) : Prop where
  held : router.slots.Held (router.inDispatcher + router.work.size)
  total : router.slots.total = plan.workers
  room : router.queue.length ≤ plan.capacity
  unopened : router.subscribed = false → router.dispatcher = .absent

theorem conserved_fresh (feed : List (Outcome Json)) (finite : Bool) :
    Conserved plan (fresh plan feed finite) :=
  ⟨Slots.held_allFree _, rfl, Nat.zero_le _, fun _ => rfl⟩

theorem Intake.room (turn : Intake plan router move next) (room : router.queue.length ≤ plan.capacity) :
    next.queue.length ≤ plan.capacity := by
  cases turn with
  | @place who event _ below =>
    have length : (({ router with queue := router.queue ++ [event] } : Router η).letGo who).queue.length =
        router.queue.length + 1 := by
      cases who <;> exact List.length_append
    omega
  | @press who | @tire who | @giveUp who => cases who <;> exact room
  | _ => exact room

theorem Conserved.intake (kept : Conserved plan router) (turn : Intake plan router move next) :
    Conserved plan next := by
  have same := turn.same
  refine ⟨?_, ?_, turn.room kept.room, ?_⟩
  · unfold inDispatcher
    rw [same.slots, same.dispatcher, same.work]
    exact kept.held
  · rw [same.slots]
    exact kept.total
  · rw [same.subscribed, same.dispatcher]
    exact kept.unopened

theorem Conserved.present (kept : Conserved plan router) (present : router.dispatcher ≠ .absent)
    (held : next.slots.Held (next.inDispatcher + next.work.size))
    (total : next.slots.total = router.slots.total) (queue : next.queue.length ≤ router.queue.length)
    (subscribed : next.subscribed = router.subscribed) : Conserved plan next := by
  refine ⟨held, total.trans kept.total, Nat.le_trans queue kept.room, ?_⟩
  intro closed
  rw [subscribed] at closed
  exact absurd (kept.unopened closed) present

theorem Conserved.held_of_idle (kept : Conserved plan router) (before : router.inDispatcher = 0)
    (after : next.inDispatcher = 0) (slots : next.slots = router.slots) (work : next.work = router.work) :
    next.slots.Held (next.inDispatcher + next.work.size) := by
  rw [after, slots, work, ← before]
  exact kept.held

theorem inDispatcher_of_taking {event : LifecycleEvent} (took : router.dispatcher = taking plan event) :
    router.inDispatcher = 0 := by
  unfold inDispatcher
  rw [took]
  unfold taking
  split
  · rename_i holding
    split at holding <;> cases holding
  · rfl

theorem Conserved.dispatch (kept : Conserved plan router) (turn : Dispatch plan router move next) :
    Conserved plan next := by
  cases turn with
  | begin unopened =>
    have before : router.inDispatcher = 0 := by simp [inDispatcher, kept.unopened unopened]
    exact ⟨kept.held_of_idle before rfl rfl rfl, kept.total, kept.room, nofun⟩
  | finish idle | watch idle | lapse idle | miss idle | drop idle | retry idle =>
    have before : router.inDispatcher = 0 := by simp [inDispatcher, idle]
    exact kept.present (by simp [idle]) (kept.held_of_idle before rfl rfl rfl) rfl (Nat.le_refl _) rfl
  | take watching first =>
    have before : router.inDispatcher = 0 := by simp [inDispatcher, watching]
    refine kept.present (by simp [watching]) (kept.held_of_idle before ?_ rfl rfl) rfl
      (by simp [first]) rfl
    exact inDispatcher_of_taking rfl
  | acquire waiting took =>
    have before : router.inDispatcher = 0 := by simp [inDispatcher, waiting]
    have held := kept.held
    rw [before, Nat.zero_add] at held
    obtain ⟨taken, same⟩ := held.take took
    rw [Nat.add_comm] at taken
    exact kept.present (by simp [waiting]) taken same (Nat.le_refl _) rfl
  | hand holding =>
    have before : router.inDispatcher = 1 := by simp [inDispatcher, holding]
    have held := kept.held
    rw [before, Nat.add_comm, ← Pool.size_accept, ← Nat.zero_add (Pool.size _)] at held
    exact kept.present (by simp [holding]) held rfl (Nat.le_refl _) rfl
  | refuse holding =>
    have before : router.inDispatcher = 1 := by simp [inDispatcher, holding]
    have held := kept.held
    rw [before, Nat.add_comm] at held
    have back := held.giveBack
    rw [← Nat.zero_add router.work.size] at back
    exact kept.present (by simp [holding]) back (Slots.total_giveBack _) (Nat.le_refl _) rfl

theorem Conserved.assign (kept : Conserved plan router) (number : Nat) (assignment : Assignment η)
    (calls : List (LifecycleEvent × η)) :
    Conserved plan { router.assign number assignment with calls } := by
  refine ⟨?_, kept.total, kept.room, kept.unopened⟩
  show router.slots.Held (router.inDispatcher + (router.work.update number assignment).size)
  rw [Pool.size_update]
  exact kept.held

theorem Conserved.work (kept : Conserved plan router) (turn : Work router move next) :
    Conserved plan next := by
  cases turn with
  | start | call | record | count => exact kept.assign ..
  | release found =>
    have size := Pool.size_finish found
    have held := kept.held
    rw [← size, ← Nat.add_assoc] at held
    exact ⟨held.giveBack, (Slots.total_giveBack _).trans kept.total, kept.room, kept.unopened⟩

theorem Conserved.turn (kept : Conserved plan router) (turn : Turn plan router move next) :
    Conserved plan next := by
  cases turn with
  | intake turn => exact kept.intake turn
  | dispatch turn => exact kept.dispatch turn
  | work turn => exact kept.work turn

theorem conserved_of_run {feed : List (Outcome Json)} {finite : Bool} {moves : List RouterMove}
    (run : follow (Router.step plan) (fresh plan feed finite) moves = some router) :
    Conserved plan router :=
  follow_induction (motive := fun _ router => Conserved plan router) (conserved_fresh feed finite)
    (fun _ _ _ _ _ kept moved => kept.turn (turn_of_step moved)) run

structure SlotLaw (plan : RouterPlan η) (workers capacity : Nat) (router : Router η) : Prop where
  queue : router.queue.length ≤ capacity
  sum : router.slots.free + router.inDispatcher + router.work.size = workers
  atWork : router.work.size ≤ workers
  neverBeyond : router.slots.total = workers ∧ router.slots.refused = false
  waitsWhenAllBusy : ∀ event handlers, router.dispatcher = .waiting event handlers →
    router.step plan .acquire = none → router.work.size = workers
  missesWhenAllBusy : router.step plan .miss ≠ none → router.work.size = workers
  refusalGivesBack : ∀ event handlers, router.dispatcher = .holding event handlers →
    router.poolOpen = false →
      router.step plan .hand = some { router with
        slots := { router.slots with free := router.slots.free + 1 }
        dispatcher := .ended }
  releaseGivesBack : ∀ number event handlers outcome,
    router.work.task? number = some ⟨event, handlers, .settled outcome⟩ →
      router.step plan (.release number) = some { router with
        slots := { router.slots with free := router.slots.free + 1 }
        work := router.work.finish number }
  allFree : router.dispatcher = .ended → router.work.size = 0 → router.slots.free = workers

theorem slots_and_queue_conserved {routes : Routes η} {workers queue : Int} {feed : List (Outcome Json)}
    {finite : Bool} {moves : List RouterMove} {router : Router η}
    (run : follow (Router.step (.make routes workers queue)) (fresh (.make routes workers queue) feed finite)
      moves = some router) :
    SlotLaw (.make routes workers queue) (max 1 workers).toNat (max 1 queue).toNat router := by
  have kept := conserved_of_run run
  have sum := kept.held.sum
  have total : router.slots.total = (max 1 workers).toNat := kept.total
  have full : ∀ event handlers, router.dispatcher = .waiting event handlers → router.slots.free = 0 →
      router.work.size = (max 1 workers).toNat := by
    intro event handlers waiting busy
    have idle : router.inDispatcher = 0 := by simp [inDispatcher, waiting]
    omega
  constructor
  case queue => exact kept.room
  case sum => omega
  case atWork => omega
  case neverBeyond => exact ⟨total, kept.held.never⟩
  case waitsWhenAllBusy =>
    intro event handlers waiting stuck
    simp only [step, waiting, Option.map_eq_none_iff, Slots.take?_eq_none] at stuck
    exact full event handlers waiting stuck
  case missesWhenAllBusy =>
    intro possible
    obtain ⟨next, moved⟩ := Option.ne_none_iff_exists'.mp possible
    cases turn_of_step moved with
    | intake turn | work turn => cases turn
    | dispatch turn =>
      cases turn with
      | miss waiting busy => exact full _ _ waiting busy
  case refusalGivesBack =>
    intro event handlers holding shut
    have before : router.inDispatcher = 1 := by simp [inDispatcher, holding]
    have held := kept.held
    rw [before, Nat.add_comm] at held
    simp [step, holding, shut, held.giveBack_eq]
  case releaseGivesBack =>
    intro number event handlers outcome found
    have size := Pool.size_finish found
    have held := kept.held
    rw [← size, ← Nat.add_assoc] at held
    simp [step, found, held.giveBack_eq]
  case allFree =>
    intro ended none
    have idle : router.inDispatcher = 0 := by simp [inDispatcher, ended]
    omega

def stoppedRun : List RouterMove :=
  [.begin, .bring [.simulatedStart (.str "c1"), .simulatedStart (.str "c2")], .next 0, .check (.caller 0),
    .place (.caller 0), .look, .take, .acquire, .hand, .start 0, .next 0, .check (.caller 0),
    .place (.caller 0), .look, .take, .miss, .heed, .call 0 (.error .routerNotStarted),
    .record 0 (.error .routerNotStarted), .release 0, .acquire, .stop, .shutDown, .hand]

theorem slots_and_queue_conserved_in_stoppedRun :
    ∃ router, follow (Router.step (.make [("start", ["handler"])] 0 0))
        (fresh (.make [("start", ["handler"])] 0 0) [] false) stoppedRun = some router ∧
      router.handed.length = 1 ∧ router.slots.free = 1 ∧
      SlotLaw (.make [("start", ["handler"])] 0 0) 1 1 router := by
  have run : follow (Router.step (.make [("start", ["handler"])] 0 0))
    (fresh (.make [("start", ["handler"])] 0 0) [] false) stoppedRun = some _ := rfl
  exact ⟨_, run, rfl, rfl, slots_and_queue_conserved run⟩

end ContainerWarden.Router
