import ContainerWarden.Proofs.Router.Handing
import ContainerWarden.Proofs.Router.Intake

namespace ContainerWarden

def LifecycleEvent.isRoutable (event : LifecycleEvent) : Bool := Labels.isKey event.status

def LifecycleEvent.IsReport (report : Json) : Prop :=
  ∃ members, report = .obj members ∧
    ∀ actor, members.lookup "Actor" = some actor → actor = .null ∨ actor.isObject = true

theorem LifecycleEvent.ofJson_of_isReport {report : Json} (own : IsReport report) :
    ∃ event?, ofJson report = .ok event? := by
  obtain ⟨members, rfl, actors⟩ := own
  have actor : (((members.lookup "Actor").getD .null).orElse (.obj [])).isObject = true := by
    cases found : members.lookup "Actor" with
    | none => rfl
    | some actor =>
      rcases actors actor found with rfl | object
      · rfl
      · unfold Json.orElse
        rw [Option.getD_some]
        split
        · exact object
        · rfl
  cases named : ((members.lookup "Actor").getD .null).orElse (.obj []) with
  | obj entries =>
    simp only [ofJson, Record.member, bind, Except.bind, named]
    split <;> exact ⟨_, rfl⟩
  | _ =>
    rw [named] at actor
    cases actor

namespace EventStream

def IsSound (feed : List (Outcome Json)) : Prop :=
  ∀ item ∈ feed, ∃ report, item = .ok report ∧ LifecycleEvent.IsReport report

variable {feed : List (Outcome Json)}

theorem pull_suffix (feed : List (Outcome Json)) : (pull feed).2 <:+ feed := by
  fun_induction pull feed with
  | case1 => exact List.suffix_rfl
  | case2 | case3 | case4 => exact List.suffix_cons _ _
  | case5 report rest read ih => exact ih.trans (List.suffix_cons _ _)

theorem pull_none (dry : (pull feed).1 = none) : (pull feed).2 = [] := by
  fun_induction pull feed with
  | case1 => rfl
  | case2 | case3 | case4 => cases dry
  | case5 report rest read ih => exact ih dry

/-- A sound feed does not fail. -/
theorem pull_of_isSound (sound : IsSound feed) (fault : Fault) : (pull feed).1 ≠ some (.error fault) := by
  fun_induction pull feed with
  | case1 => exact nofun
  | case2 failure rest =>
    obtain ⟨report, impossible, -⟩ := sound _ List.mem_cons_self
    cases impossible
  | case3 report rest failure read =>
    obtain ⟨other, same, own⟩ := sound _ List.mem_cons_self
    cases same
    obtain ⟨event?, readable⟩ := LifecycleEvent.ofJson_of_isReport own
    cases read.symm.trans readable
  | case4 => exact nofun
  | case5 report rest read ih => exact ih (List.forall_mem_cons.mp sound).2

end EventStream

namespace Router

variable {η : Type} {plan : RouterPlan η} {router next : Router η} {move : RouterMove}

theorem taking_eq_ended {event : LifecycleEvent} :
    taking plan event = .ended ↔ event.isRoutable = false := by
  unfold taking LifecycleEvent.isRoutable
  cases event.status with
  | arr | obj => exact ⟨fun _ => rfl, fun _ => rfl⟩
  | str status =>
    simp only [Routes.find, Labels.isKey]
    split
    · rename_i failed
      cases failed
    · simp
    · simp
  | _ => exact ⟨nofun, nofun⟩

theorem taking_present (plan : RouterPlan η) (event : LifecycleEvent) : taking plan event ≠ .absent := by
  unfold taking
  split <;> exact nofun

structure Attending (router : Router η) : Prop where
  present : router.subscribed = true → router.dispatcher ≠ .absent
  alive : router.dispatcher ≠ .ended → ∀ event ∈ router.taken, event.isRoutable = true
  ended : router.dispatcher = .ended →
    router.stopped = true ∨ ∃ event ∈ router.taken, event.isRoutable = false

theorem attending_fresh (feed : List (Outcome Json)) (finite : Bool) :
    Attending (fresh plan feed finite) :=
  ⟨nofun, nofun, nofun⟩

theorem Attending.intake (kept : Attending router) (turn : Intake plan router move next) :
    Attending next := by
  have same := turn.same
  refine ⟨?_, ?_, ?_⟩
  · rw [same.subscribed, same.dispatcher]
    exact kept.present
  · rw [same.dispatcher, same.taken]
    exact kept.alive
  · rw [same.dispatcher, same.taken]
    intro ended
    rcases turn.gate with ⟨stopped, -⟩ | stopped
    · rw [stopped]
      exact kept.ended ended
    · exact .inl stopped

theorem Attending.stay (kept : Attending router) (going : router.dispatcher ≠ .ended)
    {dispatcher : Dispatcher η} (present : dispatcher ≠ .absent) (alive : dispatcher ≠ .ended)
    (slots : Slots) : Attending { router with dispatcher, slots } :=
  ⟨fun _ => present, fun _ => kept.alive going, fun ended => absurd ended alive⟩

theorem attending_of_stopped (stopped : router.stopped = true) (slots : Slots) :
    Attending { router with dispatcher := .ended, slots } :=
  ⟨fun _ => nofun, fun going => absurd rfl going, fun _ => .inl stopped⟩

theorem Attending.dispatch (kept : Attending router) (conserved : Conserved plan router)
    (handing : Handing plan router) (turn : Dispatch plan router move next) : Attending next := by
  cases turn with
  | begin unopened =>
    have absent := conserved.unopened unopened
    exact ⟨fun _ => nofun, fun _ => kept.alive (by simp [absent]), nofun⟩
  | finish idle stopped => exact attending_of_stopped stopped router.slots
  | drop balked stopped => exact attending_of_stopped stopped router.slots
  | refuse holding shut =>
    have stopped := (handing.shut shut).resolve_right (by simp [holding])
    exact attending_of_stopped stopped router.slots.giveBack
  | watch before | lapse before | miss before | retry before =>
    exact kept.stay (by simp [before]) (by nofun) (by nofun) router.slots
  | acquire waiting => exact kept.stay (by simp [waiting]) (by nofun) (by nofun) _
  | hand holding => exact ⟨fun _ => nofun, fun _ => kept.alive (by simp [holding]), nofun⟩
  | @take event rest watching =>
    have earlier := kept.alive (by simp [watching])
    refine ⟨fun _ => taking_present plan event, ?_, ?_⟩
    · intro alive other member
      rcases List.mem_cons.mp member with rfl | member
      · exact Bool.of_not_eq_false fun unroutable => alive (taking_eq_ended.mpr unroutable)
      · exact earlier other member
    · intro ended
      exact .inr ⟨event, List.mem_cons_self, taking_eq_ended.mp ended⟩

theorem attending_of_run {feed : List (Outcome Json)} {finite : Bool} {moves : List RouterMove}
    (run : follow (Router.step plan) (fresh plan feed finite) moves = some router) :
    Attending router := by
  refine follow_induction (motive := fun _ router => Attending router) (attending_fresh feed finite) ?_ run
  intro before state move next reached kept moved
  cases turn_of_step moved with
  | intake turn => exact kept.intake turn
  | dispatch turn => exact kept.dispatch (conserved_of_run reached) (handing_of_run reached) turn
  | work turn =>
    obtain ⟨slots, work, calls, rfl⟩ := turn.frame
    exact ⟨kept.present, kept.alive, kept.ended⟩

def dispatching : List RouterMove := [.look, .take, .lapse, .acquire, .miss, .heed, .hand]

/-- A dispatcher that is there and has not ended is never stuck. -/
theorem dispatcher_moves (present : router.dispatcher ≠ .absent) (going : router.dispatcher ≠ .ended) :
    ∃ move ∈ dispatching, ∃ next, router.step plan move = some next := by
  cases state : router.dispatcher with
  | absent => exact absurd state present
  | ended => exact absurd state going
  | idle =>
    refine ⟨.look, by simp [dispatching], ?_⟩
    simp only [step, state]
    split <;> exact ⟨_, rfl⟩
  | watching =>
    cases queue : router.queue with
    | nil => exact ⟨.lapse, by simp [dispatching], by simp [step, state, queue]⟩
    | cons event rest => exact ⟨.take, by simp [dispatching], by simp [step, state, queue]⟩
  | waiting event handlers =>
    cases took : router.slots.take? with
    | none =>
      have busy := Slots.take?_eq_none.mp took
      exact ⟨.miss, by simp [dispatching], by simp [step, state, busy]⟩
    | some slots => exact ⟨.acquire, by simp [dispatching], by simp [step, state, took]⟩
  | balked event handlers =>
    refine ⟨.heed, by simp [dispatching], ?_⟩
    simp only [step, state]
    split <;> exact ⟨_, rfl⟩
  | holding event handlers =>
    refine ⟨.hand, by simp [dispatching], ?_⟩
    simp only [step, state]
    split <;> exact ⟨_, rfl⟩

structure Closed (taken handed : List LifecycleEvent) (router : Router η) : Prop where
  ended : router.dispatcher = .ended
  taken : router.taken = taken
  handed : router.handed = handed

variable {taken handed : List LifecycleEvent}

theorem Closed.turn (closed : Closed taken handed router) (conserved : Conserved plan router)
    (turn : Turn plan router move next) : Closed taken handed next := by
  have ended := closed.ended
  cases turn with
  | intake turn =>
    have same := turn.same
    exact ⟨same.dispatcher.trans ended, same.taken.trans closed.taken, same.handed.trans closed.handed⟩
  | work turn =>
    obtain ⟨slots, work, calls, rfl⟩ := turn.frame
    exact ⟨ended, closed.taken, closed.handed⟩
  | dispatch turn =>
    cases turn with
    | begin unopened => cases (conserved.unopened unopened).symm.trans ended
    | finish before | watch before | take before | lapse before | acquire before | miss before
    | drop before | retry before | hand before | refuse before => cases before.symm.trans ended

theorem Closed.follow {moves : List RouterMove} (closed : Closed taken handed router)
    (conserved : Conserved plan router) (run : follow (Router.step plan) router moves = some next) :
    Closed taken handed next := by
  refine (follow_induction (motive := fun _ router => Conserved plan router ∧ Closed taken handed router)
    ⟨conserved, closed⟩ ?_ run).2
  rintro - state move next - ⟨conserved, closed⟩ moved
  exact ⟨conserved.turn (turn_of_step moved), closed.turn conserved (turn_of_step moved)⟩

structure Streaming (feed : List (Outcome Json)) (router : Router η) : Prop where
  sound : EventStream.IsSound router.feed
  drawn : ∃ drawn, (EventStream.readAll feed).1 = drawn ++ (EventStream.readAll router.feed).1 ∧
    (router.stopped = false → drawn.Sublist (router.line ++ router.pump.events))

variable {feed : List (Outcome Json)}

theorem streaming_fresh (sound : EventStream.IsSound feed) (finite : Bool) :
    Streaming feed (fresh plan feed finite) :=
  ⟨sound, [], rfl, fun _ => List.nil_sublist _⟩

theorem Streaming.keep (kept : Streaming feed router) (same : next.feed = router.feed)
    (longer : next.stopped = false → router.stopped = false ∧
      (router.line ++ router.pump.events).Sublist (next.line ++ next.pump.events)) :
    Streaming feed next := by
  obtain ⟨drawn, whole, front⟩ := kept.drawn
  refine ⟨same ▸ kept.sound, drawn, same ▸ whole, fun going => ?_⟩
  obtain ⟨before, more⟩ := longer going
  exact (front before).trans more

theorem Streaming.setHand (kept : Streaming feed router) {who : Submitter} {hand other : Submission}
    (found : router.handOf who = hand) (busy : hand ≠ .none) (same : other.events = hand.events) :
    Streaming feed (router.setHand other who) := by
  cases who with
  | caller index => exact kept.keep rfl fun going => ⟨going, List.Sublist.refl _⟩
  | pump =>
    refine kept.keep rfl fun going => ⟨going, ?_⟩
    show (router.line ++ router.pump.events).Sublist (router.line ++ other.events)
    rw [pump_of_handOf found busy, same]
    exact List.Sublist.refl _

theorem Streaming.place (kept : Streaming feed router) {who : Submitter} {event : LifecycleEvent}
    (pressing : router.handOf who = .pressing event) :
    Streaming feed ({ router with queue := router.queue ++ [event] }.letGo who) := by
  have longer : router.taken.reverse ++ (router.queue ++ [event]) = router.line ++ [event] := by
    simp [line]
  cases who with
  | caller index =>
    refine kept.keep rfl fun going => ⟨going, ?_⟩
    show (router.line ++ router.pump.events).Sublist
      (router.taken.reverse ++ (router.queue ++ [event]) ++ router.pump.events)
    rw [longer]
    exact (List.sublist_append_left _ _).append_right _
  | pump =>
    refine kept.keep rfl fun going => ⟨going, ?_⟩
    show (router.line ++ router.pump.events).Sublist
      (router.taken.reverse ++ (router.queue ++ [event]) ++ [])
    have busy : Submission.pressing event ≠ .none := by simp
    rw [longer, pump_of_handOf pressing busy, List.append_nil]
    exact List.Sublist.refl _

theorem Streaming.intake (kept : Streaming feed router) (turn : Intake plan router move next) :
    Streaming feed next := by
  have unchanged : ∀ {pump : Pump}, router.pump.events = pump.events →
      (router.line ++ router.pump.events).Sublist (router.line ++ pump.events) :=
    fun same => by simp only [same, List.Sublist.refl]
  cases turn with
  | listen opened quiet =>
    refine kept.keep rfl fun going => ⟨going, unchanged ?_⟩
    rcases quiet with quiet | quiet <;> rw [quiet] <;> rfl
  | listening | shutDown | bring | next =>
    exact kept.keep rfl fun going => ⟨going, List.Sublist.refl _⟩
  | stop => exact kept.keep rfl nofun
  | @draw event rest pulling news =>
    obtain ⟨drawn, whole, front⟩ := kept.drawn
    have suffix : rest <:+ router.feed := by simpa [news] using EventStream.pull_suffix router.feed
    refine ⟨fun item member => kept.sound item (suffix.subset member), drawn ++ [event], ?_, ?_⟩
    · rw [whole, EventStream.readAll_of_pull_event news, List.append_assoc]
      rfl
    · intro going
      have before := front going
      rw [pulling, show Pump.pulling.events = [] from rfl, List.append_nil] at before
      exact before.append_right [event]
  | @«break» fault rest pulling failed =>
    exact absurd (congrArg Prod.fst failed) (EventStream.pull_of_isSound kept.sound fault)
  | @dry rest pulling empty =>
    have none : rest = [] := by simpa [empty] using EventStream.pull_none (congrArg Prod.fst empty)
    obtain ⟨drawn, whole, front⟩ := kept.drawn
    subst none
    refine ⟨nofun, drawn, ?_, fun going => (front going).trans (unchanged ?_)⟩
    · rw [whole, EventStream.readAll_of_pull_none empty]
      rfl
    · rw [pulling]
      rfl
  | quit drawn stopped => exact kept.keep rfl fun going => absurd (going.symm.trans stopped) nofun
  | consider drawn going =>
    refine kept.keep rfl fun going => ⟨going, unchanged ?_⟩
    rw [drawn]
    rfl
  | @giveUp who event seeking stopped =>
    cases who <;> exact kept.keep rfl fun going => absurd (going.symm.trans stopped) nofun
  | press seeking => exact kept.setHand seeking nofun rfl
  | tire pressing => exact kept.setHand pressing nofun rfl
  | place pressing => exact kept.place pressing

theorem Streaming.turn (kept : Streaming feed router) (turn : Turn plan router move next) :
    Streaming feed next := by
  cases turn with
  | intake turn => exact kept.intake turn
  | dispatch turn =>
    have same := turn.same
    refine kept.keep same.feed fun going => ⟨same.stopped ▸ going, ?_⟩
    simp only [turn.line, same.pump, List.Sublist.refl]
  | work turn =>
    obtain ⟨slots, work, calls, rfl⟩ := turn.frame
    exact kept.keep rfl fun going => ⟨going, List.Sublist.refl _⟩

theorem streaming_of_run {finite : Bool} {moves : List RouterMove} (sound : EventStream.IsSound feed)
    (run : follow (Router.step plan) (fresh plan feed finite) moves = some router) :
    Streaming feed router :=
  follow_induction (motive := fun _ router => Streaming feed router) (streaming_fresh sound finite)
    (fun _ _ _ _ _ kept moved => kept.turn (turn_of_step moved)) run

structure DispatchLaw (plan : RouterPlan η) (feed : List (Outcome Json)) (router : Router η) : Prop where
  ends : router.stopped = false →
    (router.dispatcher = .ended ↔ ∃ event ∈ router.taken, event.isRoutable = false)
  goesOn : router.subscribed = true → router.dispatcher ≠ .ended →
    ∃ move ∈ dispatching, ∃ next, router.step plan move = some next
  final : router.dispatcher = .ended → ∀ moves next, follow (Router.step plan) router moves = some next →
    next.dispatcher = .ended ∧ next.taken = router.taken ∧ next.handed = router.handed
  accepts : ∀ move next, router.step plan move = some next → next.handed = router.handed ∨
    ∃ event, next.handed = event :: router.handed ∧
      next.work = router.work.accept { event, handlers := plan.handlersOf event }
  delivered : router.stopped = false → router.dispatcher = .idle ∨ router.dispatcher = .watching →
    router.queue = [] → router.pump.events = [] → (EventStream.pull router.feed).1 = none →
      ((EventStream.readAll feed).1.filter plan.isHandled).Sublist router.handed.reverse

theorem Handing.accepts (kept : Handing plan router) (turn : Turn plan router move next) :
    next.handed = router.handed ∨ ∃ event, next.handed = event :: router.handed ∧
      next.work = router.work.accept { event, handlers := plan.handlersOf event } := by
  cases turn with
  | intake turn => exact .inl turn.same.handed
  | work turn =>
    obtain ⟨slots, work, calls, rfl⟩ := turn.frame
    exact .inl rfl
  | dispatch turn =>
    cases turn with
    | @hand event handlers holding =>
      have own : handlers = plan.handlersOf event := kept.charge event handlers (by rw [holding]; rfl)
      exact .inr ⟨event, rfl, by rw [own]⟩
    | _ => exact .inl rfl

theorem Streaming.delivered (kept : Streaming feed router) (handing : Handing plan router)
    (going : router.stopped = false)
    (idle : router.dispatcher = .idle ∨ router.dispatcher = .watching) (queue : router.queue = [])
    (pump : router.pump.events = []) (dry : (EventStream.pull router.feed).1 = none) :
    ((EventStream.readAll feed).1.filter plan.isHandled).Sublist router.handed.reverse := by
  obtain ⟨drawn, whole, front⟩ := kept.drawn
  have rest : (EventStream.readAll router.feed).1 = [] :=
    EventStream.readAll_of_pull_none (Prod.ext dry rfl)
  have through : drawn.Sublist router.taken.reverse := by
    have among := front going
    rwa [pump, List.append_nil, line, queue, List.append_nil] at among
  have handed : router.handed.reverse = router.taken.reverse.filter plan.isHandled := by
    have all := handing.whole (.inl going)
    have free : router.dispatcher.charge = none := by rcases idle with idle | idle <;> rw [idle] <;> rfl
    rwa [inPassing_of_none free, List.append_nil] at all
  rw [whole, rest, List.append_nil, handed]
  exact through.filter _

theorem dispatcher_ends_by_status {routes : Routes η} {workers queue : Int} {finite : Bool}
    {moves : List RouterMove} (sound : EventStream.IsSound feed)
    (run : follow (Router.step (.make routes workers queue)) (fresh (.make routes workers queue) feed finite)
      moves = some router) :
    DispatchLaw (.make routes workers queue) feed router := by
  have conserved := conserved_of_run run
  have handing := handing_of_run run
  have attending := attending_of_run run
  constructor
  case ends =>
    intro going
    constructor
    · intro ended
      exact (attending.ended ended).resolve_left (by simp [going])
    · rintro ⟨event, member, unroutable⟩
      refine Classical.byContradiction fun alive => ?_
      cases (attending.alive alive event member).symm.trans unroutable
  case goesOn => exact fun opened alive => dispatcher_moves (attending.present opened) alive
  case final =>
    intro ended moves next later
    have closed := Closed.follow ⟨ended, rfl, rfl⟩ conserved later
    exact ⟨closed.ended, closed.taken, closed.handed⟩
  case accepts => exact fun move next moved => handing.accepts (turn_of_step moved)
  case delivered => exact (streaming_of_run sound run).delivered handing

def bringing : List RouterMove := [.pull, .consider, .check .pump, .place .pump]

theorem dispatcher_ends_by_status_beside_number :
    let plan : RouterPlan String := .make [("start", ["handler"])] 1 2
    let feed : List (Outcome Json) :=
      [.ok (.obj [("id", .str "c1"), ("status", .bool true)]),
        .ok (.obj [("id", .str "c2"), ("status", .str "start")])]
    EventStream.IsSound feed ∧
      ∃ router, follow (Router.step plan) (fresh plan feed false)
          ([.begin, .listen] ++ bringing ++ bringing ++ [.look, .take, .look, .take, .acquire, .hand]) =
            some router ∧
        router.handed.length = 1 ∧ DispatchLaw plan feed router := by
  intro plan feed
  have sound : EventStream.IsSound feed := by
    intro item member
    simp only [feed, List.mem_cons, List.not_mem_nil, or_false] at member
    rcases member with rfl | rfl <;> exact ⟨_, rfl, _, rfl, nofun⟩
  have run : follow (Router.step plan) (fresh plan feed false)
    ([.begin, .listen] ++ bringing ++ bringing ++ [.look, .take, .look, .take, .acquire, .hand]) =
      some _ := rfl
  exact ⟨sound, _, run, rfl, dispatcher_ends_by_status sound run⟩

/-- A status that is a list ends the dispatcher: the start that follows never gets to the pool. -/
theorem listed_status_ends_dispatcher :
    let plan : RouterPlan String := .make [("start", ["handler"])] 1 2
    let feed : List (Outcome Json) :=
      [.ok (.obj [("id", .str "c1"), ("status", .arr [.str "start"])]),
        .ok (.obj [("id", .str "c2"), ("status", .str "start")])]
    let start : LifecycleEvent := ⟨.str "c2", .str "start", .str ""⟩
    ∃ router, follow (Router.step plan) (fresh plan feed false)
        ([.begin, .listen] ++ bringing ++ bringing ++ [.look, .take]) = some router ∧
      router.stopped = false ∧ router.dispatcher = .ended ∧
      start ∈ (EventStream.readAll feed).1 ∧ plan.handlersOf start = ["handler"] ∧
      ∀ moves next, follow (Router.step plan) router moves = some next → next.handed = [] := by
  intro plan feed start
  have run : follow (Router.step plan) (fresh plan feed false)
    ([.begin, .listen] ++ bringing ++ bringing ++ [.look, .take]) = some _ := rfl
  refine ⟨_, run, rfl, rfl, List.mem_cons_of_mem _ List.mem_cons_self, rfl, ?_⟩
  intro moves next later
  exact (Closed.follow ⟨rfl, rfl, rfl⟩ (conserved_of_run run) later).handed

end Router

end ContainerWarden
