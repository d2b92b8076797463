import ContainerWarden.Router

namespace ContainerWarden.Router

variable {η : Type}

inductive Intake (plan : RouterPlan η) (router : Router η) : RouterMove → Router η → Prop where
  | listen (opened : router.subscribed = true) (quiet : router.pump = .absent ∨ router.pump = .ended) :
      Intake plan router .listen { router with pump := .pulling, streamFault := none }
  | listening (opened : router.subscribed = true) (absent : router.pump ≠ .absent)
      (ended : router.pump ≠ .ended) : Intake plan router .listen router
  | stop :
      Intake plan router .stop { router with
        stopped := true
        closes := if router.subscribed then router.closes + 1 else router.closes }
  | shutDown (stopped : router.stopped = true) :
      Intake plan router .shutDown { router with poolOpen := false }
  | bring {events} :
      Intake plan router (.bring events) { router with callers := router.callers ++ [{ inlet := events }] }
  | next {index event rest} (found : router.callers[index]? = some ⟨event :: rest, .none⟩) :
      Intake plan router (.next index)
        { router with callers := router.callers.set index ⟨rest, .seeking event⟩ }
  | draw {event feed} (pulling : router.pump = .pulling)
      (news : EventStream.pull router.feed = (some (.ok event), feed)) :
      Intake plan router .pull { router with feed, pump := .drawn event }
  | break {fault feed} (pulling : router.pump = .pulling)
      (failed : EventStream.pull router.feed = (some (.error fault), feed)) :
      Intake plan router .pull { router with
        feed
        pump := .ended
        streamFault := if router.stopped then router.streamFault else some fault }
  | dry {feed} (pulling : router.pump = .pulling) (empty : EventStream.pull router.feed = (none, feed)) :
      Intake plan router .pull { router with feed, pump := .ended }
  | quit {event} (drawn : router.pump = .drawn event) (stopped : router.stopped = true) :
      Intake plan router .consider { router with pump := .ended }
  | consider {event} (drawn : router.pump = .drawn event) (going : router.stopped = false) :
      Intake plan router .consider (router.setHand (.seeking event) .pump)
  | giveUp {who event} (seeking : router.handOf who = .seeking event) (stopped : router.stopped = true) :
      Intake plan router (.check who) (router.letGo who)
  | press {who event} (seeking : router.handOf who = .seeking event) (going : router.stopped = false) :
      Intake plan router (.check who) (router.setHand (.pressing event) who)
  | place {who event} (pressing : router.handOf who = .pressing event)
      (room : router.queue.length < plan.capacity) :
      Intake plan router (.place who) ({ router with queue := router.queue ++ [event] }.letGo who)
  | tire {who event} (pressing : router.handOf who = .pressing event)
      (full : ¬ router.queue.length < plan.capacity) :
      Intake plan router (.tire who) (router.setHand (.seeking event) who)

inductive Dispatch (plan : RouterPlan η) (router : Router η) : RouterMove → Router η → Prop where
  | begin (unopened : router.subscribed = false) :
      Dispatch plan router .begin { router with
        subscribed := true
        poolOpen := true
        dispatcher := .idle }
  | finish (idle : router.dispatcher = .idle) (stopped : router.stopped = true) :
      Dispatch plan router .look { router with dispatcher := .ended }
  | watch (idle : router.dispatcher = .idle) (going : router.stopped = false) :
      Dispatch plan router .look { router with dispatcher := .watching }
  | take {event rest} (watching : router.dispatcher = .watching) (first : router.queue = event :: rest) :
      Dispatch plan router .take { router with
        queue := rest
        taken := event :: router.taken
        dispatcher := taking plan event }
  | lapse (watching : router.dispatcher = .watching) (empty : router.queue = []) :
      Dispatch plan router .lapse { router with dispatcher := .idle }
  | acquire {event handlers slots} (waiting : router.dispatcher = .waiting event handlers)
      (took : router.slots.take? = some slots) :
      Dispatch plan router .acquire { router with slots, dispatcher := .holding event handlers }
  | miss {event handlers} (waiting : router.dispatcher = .waiting event handlers)
      (busy : router.slots.free = 0) :
      Dispatch plan router .miss { router with dispatcher := .balked event handlers }
  | drop {event handlers} (balked : router.dispatcher = .balked event handlers)
      (stopped : router.stopped = true) :
      Dispatch plan router .heed { router with dispatcher := .ended }
  | retry {event handlers} (balked : router.dispatcher = .balked event handlers)
      (going : router.stopped = false) :
      Dispatch plan router .heed { router with dispatcher := .waiting event handlers }
  | hand {event handlers} (holding : router.dispatcher = .holding event handlers)
      (opened : router.poolOpen = true) :
      Dispatch plan router .hand { router with
        dispatcher := .idle
        work := router.work.accept { event, handlers }
        handed := event :: router.handed }
  | refuse {event handlers} (holding : router.dispatcher = .holding event handlers)
      (shut : router.poolOpen = false) :
      Dispatch plan router .hand { router with slots := router.slots.giveBack, dispatcher := .ended }

inductive Work (router : Router η) : RouterMove → Router η → Prop where
  | start {number event handlers}
      (found : router.work.task? number = some ⟨event, handlers, .waiting⟩) :
      Work router (.start number) (router.assign number ⟨event, handlers, .running⟩)
  | call {number event handler rest outcome}
      (found : router.work.task? number = some ⟨event, handler :: rest, .running⟩) :
      Work router (.call number outcome)
        { router.assign number (called ⟨event, handler :: rest, .running⟩ outcome) with
          calls := (event, handler) :: router.calls }
  | record {number event handlers fault written}
      (found : router.work.task? number = some ⟨event, handlers, .failed fault⟩) :
      Work router (.record number written)
        (router.assign number (recorded ⟨event, handlers, .failed fault⟩ written))
  | count {number event} (found : router.work.task? number = some ⟨event, [], .running⟩) :
      Work router (.count number) (router.assign number ⟨event, [], .settled (.ok ())⟩)
  | release {number event handlers outcome}
      (found : router.work.task? number = some ⟨event, handlers, .settled outcome⟩) :
      Work router (.release number) { router with
        slots := router.slots.giveBack
        work := router.work.finish number }

inductive Turn (plan : RouterPlan η) (router : Router η) (move : RouterMove) (next : Router η) : Prop where
  | intake (turn : Intake plan router move next)
  | dispatch (turn : Dispatch plan router move next)
  | work (turn : Work router move next)

variable {plan : RouterPlan η} {router next : Router η} {move : RouterMove}

theorem intake_of_pulled (pulling : router.pump = .pulling) (moved : router.pulled = some next) :
    Intake plan router .pull next := by
  unfold pulled at moved
  split at moved
  · rename_i news
    cases moved
    exact .draw pulling news
  · rename_i failed
    cases moved
    exact .break pulling failed
  · rename_i empty
    split at moved
    · cases moved
      exact .dry pulling empty
    · cases moved

theorem turn_of_step (moved : router.step plan move = some next) : Turn plan router move next := by
  cases move with
  | begin =>
    simp only [step] at moved
    split at moved
    · cases moved
    · rename_i unopened
      cases moved
      exact .dispatch (.begin (Bool.eq_false_iff.mpr unopened))
  | listen =>
    simp only [step] at moved
    split at moved
    · cases moved
    · rename_i opened
      have opened : router.subscribed = true := by simpa using opened
      split at moved
      · rename_i absent
        cases moved
        exact .intake (.listen opened (.inl absent))
      · rename_i ended
        cases moved
        exact .intake (.listen opened (.inr ended))
      · rename_i absent ended
        cases moved
        exact .intake (.listening opened absent ended)
  | stop =>
    cases moved
    exact .intake .stop
  | shutDown =>
    simp only [step] at moved
    split at moved
    · rename_i stopped
      cases moved
      exact .intake (.shutDown stopped)
    · cases moved
  | bring events =>
    cases moved
    exact .intake .bring
  | next index =>
    simp only [step] at moved
    split at moved
    · rename_i found
      cases moved
      exact .intake (.next found)
    · cases moved
  | pull =>
    simp only [step] at moved
    split at moved
    · rename_i pulling
      exact .intake (intake_of_pulled pulling moved)
    · cases moved
  | consider =>
    simp only [step] at moved
    split at moved
    · rename_i drawn
      split at moved
      · rename_i stopped
        cases moved
        exact .intake (.quit drawn stopped)
      · rename_i going
        cases moved
        exact .intake (.consider drawn (Bool.eq_false_iff.mpr going))
    · cases moved
  | check who =>
    simp only [step] at moved
    split at moved
    · rename_i seeking
      split at moved
      · rename_i stopped
        cases moved
        exact .intake (.giveUp seeking stopped)
      · rename_i going
        cases moved
        exact .intake (.press seeking (Bool.eq_false_iff.mpr going))
    · cases moved
  | place who =>
    simp only [step] at moved
    split at moved
    · rename_i pressing
      split at moved
      · rename_i room
        cases moved
        exact .intake (.place pressing room)
      · cases moved
    · cases moved
  | tire who =>
    simp only [step] at moved
    split at moved
    · rename_i pressing
      split at moved
      · cases moved
      · rename_i full
        cases moved
        exact .intake (.tire pressing full)
    · cases moved
  | look =>
    simp only [step] at moved
    split at moved
    · rename_i idle
      split at moved
      · rename_i stopped
        cases moved
        exact .dispatch (.finish idle stopped)
      · rename_i going
        cases moved
        exact .dispatch (.watch idle (Bool.eq_false_iff.mpr going))
    · cases moved
  | take =>
    simp only [step] at moved
    split at moved
    · rename_i watching first
      cases moved
      exact .dispatch (.take watching first)
    · cases moved
  | lapse =>
    simp only [step] at moved
    split at moved
    · rename_i watching empty
      cases moved
      exact .dispatch (.lapse watching empty)
    · cases moved
  | acquire =>
    simp only [step] at moved
    split at moved
    · rename_i waiting
      obtain ⟨slots, took, rfl⟩ := Option.map_eq_some_iff.mp moved
      exact .dispatch (.acquire waiting took)
    · cases moved
  | miss =>
    simp only [step] at moved
    split at moved
    · rename_i waiting
      split at moved
      · rename_i busy
        cases moved
        exact .dispatch (.miss waiting busy)
      · cases moved
    · cases moved
  | heed =>
    simp only [step] at moved
    split at moved
    · rename_i balked
      split at moved
      · rename_i stopped
        cases moved
        exact .dispatch (.drop balked stopped)
      · rename_i going
        cases moved
        exact .dispatch (.retry balked (Bool.eq_false_iff.mpr going))
    · cases moved
  | hand =>
    simp only [step] at moved
    split at moved
    · rename_i holding
      split at moved
      · rename_i opened
        cases moved
        exact .dispatch (.hand holding opened)
      · rename_i shut
        cases moved
        exact .dispatch (.refuse holding (Bool.eq_false_iff.mpr shut))
    · cases moved
  | start number =>
    simp only [step] at moved
    split at moved
    · rename_i found
      cases moved
      exact .work (.start found)
    · cases moved
  | call number outcome =>
    simp only [step] at moved
    split at moved
    · rename_i found
      cases moved
      exact .work (.call found)
    · cases moved
  | record number written =>
    simp only [step] at moved
    split at moved
    · rename_i found
      cases moved
      exact .work (.record found)
    · cases moved
  | count number =>
    simp only [step] at moved
    split at moved
    · rename_i found
      cases moved
      exact .work (.count found)
    · cases moved
  | release number =>
    simp only [step] at moved
    split at moved
    · rename_i found
      cases moved
      exact .work (.release found)
    · cases moved

structure SameOutlet (router next : Router η) : Prop where
  slots : next.slots = router.slots
  dispatcher : next.dispatcher = router.dispatcher
  work : next.work = router.work
  subscribed : next.subscribed = router.subscribed
  taken : next.taken = router.taken
  handed : next.handed = router.handed
  calls : next.calls = router.calls

theorem setHand_same (hand : Submission) (who : Submitter) :
    SameOutlet router (router.setHand hand who) := by
  cases who <;> exact ⟨rfl, rfl, rfl, rfl, rfl, rfl, rfl⟩

theorem letGo_same (who : Submitter) : SameOutlet router (router.letGo who) := by
  cases who <;> exact ⟨rfl, rfl, rfl, rfl, rfl, rfl, rfl⟩

theorem Intake.same (turn : Intake plan router move next) : SameOutlet router next := by
  cases turn with
  | consider | press | tire => exact setHand_same ..
  | giveUp => exact letGo_same ..
  | @place _ event =>
    obtain ⟨slots, dispatcher, work, subscribed, taken, handed, calls⟩ :=
      @letGo_same _ { router with queue := router.queue ++ [event] } _
    exact ⟨slots, dispatcher, work, subscribed, taken, handed, calls⟩
  | _ => exact ⟨rfl, rfl, rfl, rfl, rfl, rfl, rfl⟩

structure SameInlet (router next : Router η) : Prop where
  callers : next.callers = router.callers
  pump : next.pump = router.pump
  feed : next.feed = router.feed
  stopped : next.stopped = router.stopped
  calls : next.calls = router.calls

theorem Dispatch.same (turn : Dispatch plan router move next) : SameInlet router next := by
  cases turn <;> exact ⟨rfl, rfl, rfl, rfl, rfl⟩

theorem Work.frame (turn : Work router move next) :
    ∃ slots work calls, next = { router with slots, work, calls } := by
  cases turn <;> exact ⟨_, _, _, rfl⟩

end ContainerWarden.Router
