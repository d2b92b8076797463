import ContainerWarden.Proofs.Bootstrap.Ingestion

namespace ContainerWarden

variable {η : Type}

def Dispatcher.IsEmptyHanded : Dispatcher η → Prop
  | .absent | .idle | .watching | .ended => True
  | .waiting _ _ | .balked _ _ | .holding _ _ => False

namespace Router

variable {plan : RouterPlan η} {router next : Router η} {move : RouterMove}

structure Barren (router : Router η) : Prop where
  callers : router.callers = []
  pump : router.pump = .absent
  queue : router.queue = []
  taken : router.taken = []
  handed : router.handed = []
  calls : router.calls = []
  tasks : router.work.tasks = []
  dispatcher : router.dispatcher.IsEmptyHanded

theorem barren_fresh (plan : RouterPlan η) (feed : List (Outcome Json)) (finite : Bool) :
    (fresh plan feed finite).Barren := ⟨rfl, rfl, rfl, rfl, rfl, rfl, rfl, trivial⟩

theorem Barren.blank (barren : router.Barren) : router.Blank router.feed where
  callers := barren.callers
  pump := barren.pump
  line := by
    rw [line, barren.taken, barren.queue]
    rfl
  feed := rfl

theorem Barren.task?_eq_none (barren : router.Barren) (number : Nat) : router.work.task? number = none := by
  rw [Pool.task?, barren.tasks]
  rfl

inductive Idles (router : Router η) : RouterMove → Router η → Prop where
  | begin (unopened : router.subscribed = false) :
      Idles router .begin { router with subscribed := true, poolOpen := true, dispatcher := .idle }
  | stop :
      Idles router .stop { router with
        stopped := true
        closes := if router.subscribed then router.closes + 1 else router.closes }
  | shutDown (stopped : router.stopped = true) : Idles router .shutDown { router with poolOpen := false }
  | look {dispatcher : Dispatcher η} (empty : dispatcher.IsEmptyHanded) :
      Idles router .look { router with dispatcher }
  | lapse : Idles router .lapse { router with dispatcher := .idle }

theorem Idles.barren (idles : Idles router move next) (barren : router.Barren) : next.Barren := by
  cases idles with
  | begin | lapse => exact { barren with dispatcher := trivial }
  | stop | shutDown => exact { barren with }
  | look empty => exact { barren with dispatcher := empty }

theorem Barren.idles (barren : router.Barren) (turn : Turn plan router move next)
    (unread : move ≠ .listen) (unbrought : ∀ events, move ≠ .bring events) : Idles router move next := by
  have empty := barren.dispatcher
  cases turn with
  | intake turn =>
    cases turn with
    | listen | listening => exact absurd rfl unread
    | bring => exact absurd rfl (unbrought _)
    | stop => exact .stop
    | shutDown stopped => exact .shutDown stopped
    | next found => simp [barren.callers] at found
    | draw pulling | «break» pulling | dry pulling => cases barren.pump.symm.trans pulling
    | quit drawn | consider drawn => cases barren.pump.symm.trans drawn
    | giveUp hand | press hand | place hand | tire hand =>
      cases (barren.blank.handOf _).symm.trans hand
  | dispatch turn =>
    cases turn with
    | begin unopened => exact .begin unopened
    | finish | watch => exact .look trivial
    | lapse => exact .lapse
    | take _ first => cases barren.queue.symm.trans first
    | acquire holds | miss holds | drop holds | retry holds | hand holds | refuse holds =>
      rw [holds] at empty
      exact empty.elim
  | work turn =>
    cases turn with
    | start found | call found | record found | count found | release found =>
      cases (barren.task?_eq_none _).symm.trans found

end Router

namespace Bootstrap

variable {plan : RouterPlan η} {containers : List ContainerSummary} {feed : List (Outcome Json)}
  {finite : Bool} {launch next : Launch η} {move : Move} {moves : List Move}

inductive Unreplayed (moves : List Move) (launch : Launch η) : Prop where
  | opening (phase : launch.phase = .opening) (barren : launch.router.Barren)
      (going : launch.router.stopped = false) (closes : launch.router.closes = 0)
      (unshut : .turn .shutDown ∉ moves)
  | listing (phase : launch.phase = .listing) (barren : launch.router.Barren)
      (going : launch.router.stopped = false) (closes : launch.router.closes = 0)
      (unshut : .turn .shutDown ∉ moves) (opened : launch.router.subscribed = true)
  | abandoned (phase : launch.phase = .abandoned) (barren : launch.router.Barren)
      (stopped : launch.router.stopped = true) (closes : launch.router.closes = 1)
      (shut : .turn .shutDown ∈ moves → launch.router.poolOpen = false)

theorem Unreplayed.turn (kept : Unreplayed moves launch) {move : RouterMove} {router : Router η}
    (turn : Router.Turn plan launch.router move router) (own : move.ofStart = false) (alone : move ≠ .stop) :
    Unreplayed (moves ++ [.turn move]) { launch with router } := by
  have unread : move ≠ .listen := by
    rintro rfl
    cases own
  have unbrought : ∀ events, move ≠ .bring events := by
    rintro events rfl
    cases own
  -- Until the start gives up nothing stops the router, so that its pool is not shut down either.
  cases kept with
  | opening phase barren going closes unshut | listing phase barren going closes unshut =>
    have idles := barren.idles turn unread unbrought
    have after := idles.barren barren
    cases idles with
    | begin => cases own
    | stop => exact absurd rfl alone
    | shutDown stopped => cases going.symm.trans stopped
    | look | lapse =>
      first
      | exact .opening phase after going closes (by simpa using unshut)
      | exact .listing phase after going closes (by simpa using unshut) ‹_›
  | abandoned phase barren stopped closes shut =>
    have idles := barren.idles turn unread unbrought
    have after := idles.barren barren
    cases idles with
    | begin => cases own
    | stop => exact absurd rfl alone
    | shutDown => exact .abandoned phase after stopped closes fun _ => rfl
    | look | lapse => exact .abandoned phase after stopped closes (by simpa using shut)

theorem Unreplayed.step (kept : Unreplayed moves launch)
    (moved : step plan containers launch move = some next)
    (unreplayed : move ≠ .replay) (alone : move ≠ .turn .stop) : Unreplayed (moves ++ [move]) next := by
  cases move with
  | replay => exact absurd rfl unreplayed
  | begin =>
    simp only [Bootstrap.step] at moved
    split at moved
    · rename_i opening
      obtain ⟨router, turned, rfl⟩ := Option.map_eq_some_iff.mp moved
      cases kept with
      | opening phase barren going closes unshut =>
        have idles := barren.idles (Router.turn_of_step turned) (by simp) (by simp)
        have after := idles.barren barren
        cases idles with
        | begin => exact .listing rfl after going closes (by simpa using unshut) rfl
      | listing phase | abandoned phase => cases opening.symm.trans phase
    · cases moved
  | listen =>
    simp only [Bootstrap.step] at moved
    split at moved
    · rename_i replaying
      cases kept with
      | opening phase | listing phase | abandoned phase => cases replaying.symm.trans phase
    · cases moved
  | abandon =>
    simp only [Bootstrap.step] at moved
    split at moved
    · rename_i listing
      obtain ⟨router, turned, rfl⟩ := Option.map_eq_some_iff.mp moved
      cases kept with
      | listing phase barren going closes unshut opened =>
        have idles := barren.idles (Router.turn_of_step turned) (by simp) (by simp)
        have after := idles.barren barren
        cases idles with
        | stop =>
          refine .abandoned rfl after rfl ?_ fun shut => absurd shut (by simpa using unshut)
          simp only [opened, closes, if_true]
      | opening phase | abandoned phase => cases listing.symm.trans phase
    · rename_i replaying
      cases kept with
      | opening phase | listing phase | abandoned phase => cases replaying.symm.trans phase
    · cases moved
  | turn move =>
    simp only [Bootstrap.step] at moved
    split at moved
    · cases moved
    · rename_i own
      obtain ⟨router, turned, rfl⟩ := Option.map_eq_some_iff.mp moved
      have other : move ≠ .stop := fun same => alone (congrArg Move.turn same)
      exact kept.turn (Router.turn_of_step turned) (Bool.eq_false_iff.mpr own) other

theorem unreplayed_of_run
    (run : follow (step plan containers) (.fresh plan feed finite) moves = some launch)
    (unreplayed : .replay ∉ moves) (alone : .turn .stop ∉ moves) : Unreplayed moves launch := by
  have always : (.replay ∉ moves ∧ .turn .stop ∉ moves) → Unreplayed moves launch := by
    refine follow_induction
      (motive := fun moves launch => (.replay ∉ moves ∧ .turn .stop ∉ moves) → Unreplayed moves launch)
      ?_ ?_ run
    · intro _
      exact .opening rfl (Router.barren_fresh plan feed finite) rfl rfl List.not_mem_nil
    · intro before state move next _ kept moved absent
      simp only [List.mem_append, List.mem_singleton, not_or] at absent
      obtain ⟨⟨first, own⟩, second, other⟩ := absent
      exact (kept ⟨first, second⟩).step moved (Ne.symm own) (Ne.symm other)
  exact always ⟨unreplayed, alone⟩

structure Forsaken (router : Router η) : Prop extends router.Barren where
  stopped : router.stopped = true
  closes : router.closes = 1

end Bootstrap

namespace EventService

variable {service next : EventService}

theorem dispatcherMove?_of_barren {router : Router Handler} (barren : router.Barren) {move : RouterMove}
    (found : dispatcherMove? router = some move) : move = .look ∨ move = .lapse := by
  have empty := barren.dispatcher
  unfold dispatcherMove? at found
  split at found
  · exact .inl (Option.some.inj found).symm
  · rw [barren.queue] at found
    split at found
    · rename_i impossible
      cases impossible
    · split at found
      · exact .inr (Option.some.inj found).symm
      · cases found
  · rename_i waiting
    rw [waiting] at empty
    exact empty.elim
  · rename_i balked
    rw [balked] at empty
    exact empty.elim
  · rename_i holding
    rw [holding] at empty
    exact empty.elim
  · cases found
  · cases found

theorem nextMove?_of_barren (barren : service.router.Barren) :
    service.nextMove? = dispatcherMove? service.router := by
  have callers : service.callerMove? = none := by
    rw [callerMove?, barren.callers]
    rfl
  have pump : service.pumpMove? = none := by rw [pumpMove?, barren.pump]
  rw [nextMove?, callers, pump]
  cases dispatcherMove? service.router <;> rfl

theorem move_of_barren (barren : service.router.Barren) {move : RouterMove}
    (own : move = .look ∨ move = .lapse) :
    ∃ dispatcher : Dispatcher Handler, dispatcher.IsEmptyHanded ∧
      service.move move = { service with router := { service.router with dispatcher } } := by
  unfold EventService.move
  split
  · rename_i router moved
    have unread : move ≠ .listen := by rcases own with rfl | rfl <;> exact nofun
    have unbrought : ∀ events, move ≠ .bring events := by rcases own with rfl | rfl <;> exact nofun
    cases barren.idles (Router.turn_of_step moved) unread unbrought with
    | begin | stop | shutDown => rcases own with impossible | impossible <;> cases impossible
    | look empty => exact ⟨_, empty, rfl⟩
    | lapse => exact ⟨.idle, trivial, rfl⟩
  · exact ⟨service.router.dispatcher, barren.dispatcher, rfl⟩

theorem turn?_of_barren (barren : service.router.Barren) (turned : service.turn? = some next) :
    ∃ dispatcher : Dispatcher Handler, dispatcher.IsEmptyHanded ∧
      next = { service with router := { service.router with dispatcher } } := by
  unfold turn? at turned
  rw [nextMove?_of_barren barren] at turned
  split at turned
  · rename_i found
    rcases dispatcherMove?_of_barren barren found with impossible | impossible <;> cases impossible
  · rename_i move _ found
    have moved := Option.some.inj turned
    rw [← moved]
    exact move_of_barren barren (dispatcherMove?_of_barren barren found)
  · rw [workTurn?, barren.tasks] at turned
    split at turned <;> cases turned

theorem turnWhile_of_barren (waiting : Router Handler → Bool) (fuel : Nat) (barren : service.router.Barren) :
    ∃ dispatcher : Dispatcher Handler, dispatcher.IsEmptyHanded ∧
      service.turnWhile waiting fuel = { service with router := { service.router with dispatcher } } := by
  have still : ∃ dispatcher : Dispatcher Handler, dispatcher.IsEmptyHanded ∧
      service = { service with router := { service.router with dispatcher } } :=
    ⟨service.router.dispatcher, barren.dispatcher, rfl⟩
  induction fuel generalizing service with
  | zero => exact still
  | succ fuel ih =>
    unfold turnWhile
    split
    · split
      · rename_i next turned
        obtain ⟨dispatcher, empty, rfl⟩ := turn?_of_barren barren turned
        have after : Router.Barren { service.router with dispatcher } := { barren with dispatcher := empty }
        exact ih after ⟨dispatcher, empty, rfl⟩
      · exact still
    · exact still

theorem settle_of_barren (barren : service.router.Barren) :
    ∃ dispatcher : Dispatcher Handler, dispatcher.IsEmptyHanded ∧
      service.settle = { service with router := { service.router with dispatcher } } :=
  turnWhile_of_barren _ _ barren

end EventService

end ContainerWarden
