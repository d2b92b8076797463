import ContainerWarden.Proofs.Bootstrap.Abandonment
import ContainerWarden.Proofs.EventLog.Columns
import ContainerWarden.Proofs.Guard.Rounds
import ContainerWarden.Proofs.Sidecar.Start
import ContainerWarden.Proofs.Watcher.Reporting

namespace ContainerWarden

theorem Outcome.mapM_eq_error {read : α → Outcome β} {earlier later : List α} {item : α} {fault : Fault}
    (readable : ∀ other ∈ earlier, ∃ result, read other = .ok result) (unread : read item = .error fault) :
    (earlier ++ item :: later).mapM read = .error fault := by
  induction earlier with
  | nil =>
    rw [List.nil_append, List.mapM_cons, unread]
    rfl
  | cons other earlier ih =>
    obtain ⟨⟨result, first⟩, others⟩ := List.forall_mem_cons.mp readable
    rw [List.cons_append, List.mapM_cons, first, ih others]
    rfl

def isStarted (row : LogRow) : Bool := row.message == "Sidecar started"

def Effect.SparesEvents : Effect → Prop
  | .note _ _ => False
  | .count field _ | .assign field _ => field ≠ .eventsReplayed
  | .log entry => (EventLog.textForm entry.message).getD "" ≠ "Sidecar started"
  | _ => True

theorem Effect.sparesEvents_of_lead {entry : LogEntry} {lead rest : String}
    (shown : entry.message = .str (lead ++ rest))
    (apart : ("Sidecar started".toList.isPrefixOf lead.toList ||
      lead.toList.isPrefixOf "Sidecar started".toList) = false) : SparesEvents (.log entry) := by
  have other := LogEntry.not_begins_of_append shown apart
  intro same
  rw [shown] at same
  have whole : entry.message = .str ("Sidecar started" ++ "") := by
    rw [shown, String.append_empty]
    exact congrArg Json.str same
  rw [LogEntry.begins_of_append whole] at other
  cases other

namespace World

/-- What is untouched by all that goes on beside the events. Where no listings are laid down, the
    containers stay as well. -/
structure Untouched (before after : World) : Prop where
  replayed : after.status.value .eventsReplayed = before.status.value .eventsReplayed
  notes : after.notes = before.notes
  started : after.log.rows.filter isStarted = before.log.rows.filter isStarted
  fleet : before.listings = [] → after.listings = [] ∧ after.containers = before.containers

theorem Untouched.refl (world : World) : Untouched world world :=
  ⟨rfl, rfl, rfl, fun empty => ⟨empty, rfl⟩⟩

theorem Untouched.trans {first middle last : World} (begun : Untouched first middle)
    (ended : Untouched middle last) : Untouched first last where
  replayed := ended.replayed.trans begun.replayed
  notes := ended.notes.trans begun.notes
  started := ended.started.trans begun.started
  fleet empty := by
    obtain ⟨none, same⟩ := begun.fleet empty
    obtain ⟨still, also⟩ := ended.fleet none
    exact ⟨still, also.trans same⟩

theorem untouched_nextListing (world : World) : Untouched world world.nextListing.2 := by
  unfold nextListing
  split
  · exact .refl world
  all_goals
    rename_i shown
    exact ⟨rfl, rfl, rfl, fun empty => by cases empty.symm.trans shown⟩

theorem untouched_list (world : World) (all : Bool) : Untouched world (world.list all).2 := by
  have kept := untouched_nextListing (world.called (.containers all))
  have called : Untouched world (world.called (.containers all)) :=
    ⟨rfl, rfl, rfl, fun empty => ⟨empty, rfl⟩⟩
  have whole := called.trans kept
  unfold list
  split
  · rename_i next
    rwa [next] at whole
  · rename_i next
    rw [next] at whole
    split <;> exact whole

theorem list_called (world : World) (call : RuntimeCall) (all : Bool) :
    ((world.called call).list all).1 = (world.list all).1 := by
  unfold list nextListing called
  cases world.listings with
  | nil =>
    dsimp only
    cases world.failures.list <;> rfl
  | cons outcome rest =>
    cases outcome with
    | error fault => rfl
    | ok containers =>
      dsimp only
      cases world.failures.list <;> rfl

theorem list_of_unlaid {world : World} (unlaid : world.listings = []) (fine : world.failures.list = none) :
    (world.list true).1 = .ok world.containers := by
  simp only [list, nextListing, called, unlaid, fine, if_true]

theorem untouched_fetch (world : World) (request : HttpRequest) :
    Untouched world (world.fetch request).2 := by
  unfold fetch
  repeat' split
  all_goals exact ⟨rfl, rfl, rfl, fun empty => ⟨empty, rfl⟩⟩

theorem untouched_append {world : World} {entry : LogEntry} (spares : Effect.SparesEvents (.log entry)) :
    Untouched world (world.append entry).2 := by
  unfold append
  split
  · rename_i log written
    refine ⟨rfl, rfl, ?_, fun empty => ⟨empty, rfl⟩⟩
    cases accepted : entry.isAccepted with
    | true =>
      obtain rfl := Except.ok.inj ((EventLog.append_of_isAccepted world.log accepted).symm.trans written)
      have other : isStarted (entry.row (world.log.size + 1)) = false := beq_false_of_ne spares
      rw [List.filter_cons_of_neg (Bool.eq_false_iff.mp other)]
    | false =>
      obtain ⟨fault, refused⟩ := EventLog.append_of_not_isAccepted world.log accepted
      cases refused.symm.trans written
  · exact .refl world

theorem untouched_answer {effect : Effect} (spares : effect.SparesEvents) (world : World) :
    Untouched world (World.answer effect world).2 := by
  cases effect with
  | list all => exact untouched_list world all
  | fetch request => exact untouched_fetch world request
  | log entry => exact untouched_append spares
  | note handler event => exact spares.elim
  | count field amount =>
    exact ⟨Status.value_count_of_ne (Ne.symm spares) amount, rfl, rfl, fun empty => ⟨empty, rfl⟩⟩
  | assign field value =>
    exact ⟨Status.value_put_of_ne (Ne.symm spares) value, rfl, rfl, fun empty => ⟨empty, rfl⟩⟩
  | stopping => exact .refl world
  | inspect | remove | stop | subscribe | rest => exact ⟨rfl, rfl, rfl, fun empty => ⟨empty, rfl⟩⟩

theorem untouched_run (plan : Plan α) (world : World)
    (spares : ∀ exchange ∈ plan.history World.answer world, exchange.1.SparesEvents) :
    Untouched world (plan.run World.answer world).2 := by
  induction plan generalizing world with
  | done a => exact .refl world
  | ask effect next ih =>
    obtain ⟨own, others⟩ := List.forall_mem_cons.mp spares
    exact (untouched_answer own world).trans (ih _ _ others)

theorem untouched_perform {job : Job α} (only : job.Only Effect.SparesEvents) (world : World) :
    Untouched world (world.perform job).2 :=
  untouched_run _ world (only _ _ (job.runs_history World.answer world))

end World

namespace Duplicate

theorem pass_spares (settings : Settings) : (pass settings).Only Effect.SparesEvents := by
  intro trace outcome run exchange member
  obtain ⟨reply, rest, rfl, later⟩ := listing_first run
  rcases List.mem_cons.mp member with rfl | member
  · trivial
  · have after := later exchange member
    obtain ⟨effect, reply⟩ := exchange
    cases effect with
    | stop => trivial
    | count field =>
      rintro rfl
      exact after
    | log row =>
      obtain ⟨id, rfl | ⟨fault, rfl⟩⟩ := after
      · exact Effect.sparesEvents_of_lead rfl (by decide)
      · exact Effect.sparesEvents_of_lead (stopFailure_message id fault) (by decide)
    | _ => exact after.elim

end Duplicate

namespace Guard

theorem logStart_spares : logStart.Only Effect.SparesEvents :=
  .call Job.runs_log.mp fun _ => nofun

theorem check_spares (settings : Settings) : (check settings).Only Effect.SparesEvents := by
  refine .recover (.bind (Duplicate.pass_spares settings) fun _ => .pure ()) fun fault => ?_
  refine .call Job.runs_log.mp fun _ => ?_
  rcases checkFailure_message fault with ⟨rest, shown⟩ | ⟨rest, shown⟩
  · exact Effect.sparesEvents_of_lead shown (by decide)
  · exact Effect.sparesEvents_of_lead shown (by decide)

theorem shows_interval_spares (value : Json) :
    (Job.assign .dedupInterval value).Only Effect.SparesEvents := by
  intro trace outcome run exchange member
  obtain ⟨_, asked, _⟩ := Job.runs_plan.mp run
  obtain rfl := List.mem_singleton.mp (Plan.runs_perform.mp asked ▸ member)
  exact nofun

theorem tick_spares (settings : Settings) (cadence : Cadence Float) :
    (tick settings cadence).Only Effect.SparesEvents := by
  refine .bind (check_spares settings) fun _ => ?_
  unfold nextWait
  split
  · exact .bind (shows_interval_spares _) fun _ => .pure _
  · have reported := Effect.sparesEvents_of_lead (intervalFailure_message cadence ‹_›) (by decide)
    refine .bind (.call Job.runs_log.mp fun _ => reported) fun _ => ?_
    exact .bind (shows_interval_spares _) fun _ => .pure _

end Guard

namespace EventService

variable {service : EventService}

theorem perform_subscribe (service : EventService) :
    service.perform Job.subscribe = (World.orFault service.world.failures.subscribe,
      { service with world := service.world.called .events }) := rfl

theorem start_unopened {fault : Fault} (fresh : service.router.subscribed = false)
    (refused : service.world.failures.subscribe = some fault) :
    service.start = (.error fault, { service with world := service.world.called .events }) := by
  unfold start
  rw [fresh, if_neg Bool.false_ne_true, perform_subscribe, refused]
  rfl

structure Open (service : EventService) : Prop where
  router : service.router.Barren
  opened : service.router.subscribed = true
  closes : service.router.closes = 0
  handled : service.handled = []

structure Shut (service : EventService) : Prop where
  router : Bootstrap.Forsaken service.router
  pool : service.router.poolOpen = false
  handled : service.handled = []

theorem start_opened {plan : RouterPlan Handler} {world : World} (opens : world.failures.subscribe = none) :
    ∃ next, (fresh plan world).start = (.ok (), next) ∧ next.world = world.called .events ∧ next.Open := by
  have begun : Router.Barren ({ fresh plan world with world := world.called .events }.move .begin).router :=
    { Router.barren_fresh plan world.feed world.finite with dispatcher := trivial }
  obtain ⟨dispatcher, empty, settled⟩ := settle_of_barren begun
  have started : (fresh plan world).start =
      (.ok (), ({ fresh plan world with world := world.called .events }.move .begin).settle) := by
    have answered := perform_subscribe (fresh plan world)
    unfold start
    rw [answered]
    have opens : (fresh plan world).world.failures.subscribe = none := opens
    rw [opens]
    rfl
  rw [settled] at started
  exact ⟨_, started, rfl, { begun with dispatcher := empty }, rfl, rfl, rfl⟩

theorem shut_of_stop (opened : service.Open) : service.stop.Shut ∧ service.stop.world = service.world := by
  have stopped : (service.move .stop).move .shutDown = { service with
      router := { service.router with
        stopped := true
        closes := if service.router.subscribed then service.router.closes + 1 else service.router.closes
        poolOpen := false } } := rfl
  have barren : Router.Barren ((service.move .stop).move .shutDown).router := { opened.router with }
  obtain ⟨dispatcher, empty, settled⟩ := settle_of_barren barren
  have closed : (if service.router.subscribed then service.router.closes + 1 else service.router.closes) = 1 := by
    rw [opened.opened, opened.closes]
    rfl
  rw [stop, settled, stopped]
  exact ⟨⟨⟨{ opened.router with dispatcher := empty }, rfl, closed⟩, rfl, opened.handled⟩, rfl⟩

end EventService

namespace Bootstrap

/-- A start that fails before anything is replayed: there is no stream, no listing, or an entry in it that
    cannot be read. -/
inductive Obstacle (world : World) (fault : Fault) : Prop where
  | unopened (refused : world.failures.subscribe = some fault)
  | unlisted (opens : world.failures.subscribe = none) (failed : (world.list true).1 = .error fault)
  | unreadable (opens : world.failures.subscribe = none) {earlier later : List Json} {record : Json}
      (listed : (world.list true).1 = .ok (earlier ++ record :: later))
      (readable : ∀ other ∈ earlier, ∃ summary, ContainerSummary.ofJson other = .ok summary)
      (unread : ContainerSummary.ofJson record = .error fault)

theorem perform_containers (world : World) :
    world.perform (Runtime.containers true) =
      ((world.list true).1.bind fun records => records.mapM ContainerSummary.ofJson,
        (world.list true).2) := by
  have listed : (Job.list true).run World.answer world = world.list true := rfl
  cases first : world.list true with
  | mk reply after =>
    rw [first] at listed
    cases reply with
    | error fault => exact Job.run_bind_of_error listed _
    | ok records =>
      have read := Job.run_bind_of_ok listed fun records =>
        Job.ofExcept (records.mapM ContainerSummary.ofJson)
      refine read.trans ?_
      show Job.run World.answer (Job.ofExcept (records.mapM ContainerSummary.ofJson)) after =
        (records.mapM ContainerSummary.ofJson, after)
      cases records.mapM ContainerSummary.ofJson <;> rfl

variable {size : Int} {registry : HandlerRegistry} {world : World} {fault : Fault}

theorem start_of_refused (refused : world.failures.subscribe = some fault) :
    start size registry world = (.error fault, world.called .events, none) := by
  have unopened : (EventService.fresh (plan size registry) world).start = _ :=
    EventService.start_unopened rfl refused
  rw [start, unopened]
  rfl

theorem start_of_unfilled (opens : world.failures.subscribe = none)
    (failed : ((world.list true).1.bind fun records => records.mapM ContainerSummary.ofJson) =
      .error fault) :
    ∃ service, start size registry world =
      (.error fault, ((world.called .events).list true).2, some service) ∧ service.Shut := by
  obtain ⟨next, opened, here, quiet⟩ := EventService.start_opened opens
  have listed := perform_containers (world.called .events)
  rw [World.list_called, failed] at listed
  have unfilled : fill next = (.error fault, { next with world := ((world.called .events).list true).2 }) := by
    have asked : next.perform (Runtime.containers true) =
        (.error fault, { next with world := ((world.called .events).list true).2 }) := by
      rw [EventService.perform, here, listed]
    rw [fill, asked]
  have after : EventService.Open { next with world := ((world.called .events).list true).2 } := { quiet with }
  obtain ⟨shut, same⟩ := EventService.shut_of_stop after
  refine ⟨_, ?_, shut⟩
  rw [start, opened]
  dsimp only
  rw [unfilled]
  dsimp only
  rw [same]

end Bootstrap

namespace Sidecar

open World (Untouched)

/-- The guard changes nothing beside the world, its own cadence and whether it lives. -/
theorem startGuard_untouched (sidecar : Sidecar) :
    ∃ world cadence alive, sidecar.startGuard = { sidecar with world, cadence, guardAlive := alive } ∧
      Untouched sidecar.world world := by
  have logged := World.untouched_perform Guard.logStart_spares sidecar.world
  unfold startGuard
  split
  · exact ⟨_, _, _, rfl, .refl _⟩
  · dsimp only
    split
    · exact ⟨_, _, _, rfl, logged⟩
    · have ticked := World.untouched_perform (Guard.tick_spares sidecar.settings sidecar.cadence)
        (sidecar.perform Guard.logStart).2.world
      split
      all_goals
        rename_i next performed
        obtain rfl := congrArg Prod.snd performed
        exact ⟨_, _, _, rfl, logged.trans ticked⟩

theorem startRouter_of_failed {sidecar : Sidecar} {fault : Fault} {world : World}
    {service? : Option EventService}
    (failed : Bootstrap.start sidecar.settings.eventPoolSize sidecar.registry sidecar.world =
      (.error fault, world, service?)) :
    sidecar.startRouter =
      (.error fault, { sidecar with world, routers := sidecar.routers ++ service?.toList }) := by
  rw [startRouter, failed]

theorem announce_untouched (sidecar : Sidecar) :
    ∃ world, sidecar.announce "Sidecar stopped" = { sidecar with world } ∧
      Untouched sidecar.world world ∧ world.closed = sidecar.world.closed := by
  have spares : Effect.SparesEvents (.log (.info component "Sidecar stopped" .null)) := nofun
  refine ⟨(sidecar.world.append (.info component "Sidecar stopped" .null)).2, rfl,
    World.untouched_append spares, ?_⟩
  unfold World.append
  split <;> rfl

theorem stop_of_idle {sidecar : Sidecar} (idle : sidecar.active = none) :
    ∃ world, sidecar.stop =
        { sidecar with world, stopped := true, guardAlive := false, closes := sidecar.closes + 1 } ∧
      Untouched sidecar.world world ∧ world.closed = true := by
  have unmoved : Sidecar.moveRouter { sidecar with stopped := true, guardAlive := false } .stop =
      { sidecar with stopped := true, guardAlive := false } := by rw [moveRouter, idle]
  obtain ⟨world, announced, untouched, same⟩ := announce_untouched
    (closeClient { sidecar with stopped := true, guardAlive := false })
  have closed : Untouched sidecar.world { sidecar.world with closed := true } :=
    ⟨rfl, rfl, rfl, fun empty => ⟨empty, rfl⟩⟩
  refine ⟨world, ?_, closed.trans untouched, same⟩
  rw [stop, unmoved, announced]
  rfl

structure Released (sidecar after : Sidecar) : Prop where
  stopped : after.stopped = true
  closed : after.world.closed = true ∧ after.closes = sidecar.closes + 1
  unopened : sidecar.world.failures.subscribe ≠ none → after.routers = sidecar.routers
  opened : sidecar.world.failures.subscribe = none →
    ∃ service, after.routers = sidecar.routers ++ [service] ∧ service.Shut
  streams : after.streamsClosed =
    sidecar.streamsClosed + if sidecar.world.failures.subscribe.isNone then 1 else 0
  handled : after.handled = sidecar.handled
  untouched : Untouched sidecar.world after.world

theorem start_of_failed {sidecar : Sidecar} {fault : Fault} {world : World}
    {service? : Option EventService} (enabled : sidecar.settings.enableEvents = true)
    (idle : sidecar.active = none)
    (failed : Bootstrap.start sidecar.settings.eventPoolSize sidecar.registry
      sidecar.watch.startGuard.world = (.error fault, world, service?))
    (untouched : Untouched sidecar.watch.startGuard.world world) :
    ∃ after, sidecar.start = (.error fault, after) ∧ after.stopped = true ∧ after.world.closed = true ∧
      after.closes = sidecar.closes + 1 ∧ after.routers = sidecar.routers ++ service?.toList ∧
      Untouched sidecar.world after.world := by
  obtain ⟨guarded, cadence, alive, same, beside⟩ := sidecar.watch.startGuard_untouched
  unfold start
  rw [same] at failed untouched ⊢
  dsimp only at untouched ⊢
  have watched : sidecar.watch.settings.enableEvents = true := enabled
  rw [if_pos watched, startRouter_of_failed failed]
  dsimp only
  have unused : Sidecar.active { sidecar.watch with
    world, cadence, guardAlive := alive, routers := sidecar.routers ++ service?.toList } = none := idle
  obtain ⟨last, stopped, ended, closed⟩ := stop_of_idle unused
  exact ⟨_, congrArg (Prod.mk _) stopped, rfl, closed, rfl, rfl, beside.trans (untouched.trans ended)⟩

theorem released_of_start {sidecar : Sidecar} {fault : Fault}
    (enabled : sidecar.settings.enableEvents = true) (idle : sidecar.active = none)
    (obstacle : Bootstrap.Obstacle sidecar.watch.startGuard.world fault) :
    ∃ after, sidecar.start = (.error fault, after) ∧ Released sidecar after := by
  -- The guard has had its turn before the events are looked for, but it does not change what fails.
  obtain ⟨-, failures⟩ := sidecar.watch.startGuard_frame
  have same : sidecar.watch.startGuard.world.failures = sidecar.world.failures := failures
  have called : Untouched sidecar.watch.startGuard.world (sidecar.watch.startGuard.world.called .events) :=
    ⟨rfl, rfl, rfl, fun empty => ⟨empty, rfl⟩⟩
  have unfilled (opens : sidecar.watch.startGuard.world.failures.subscribe = none)
      (failed : ((sidecar.watch.startGuard.world.list true).1.bind fun records =>
        records.mapM ContainerSummary.ofJson) = .error fault) :
      ∃ after, sidecar.start = (.error fault, after) ∧ Released sidecar after := by
    obtain ⟨service, begun, shut⟩ := Bootstrap.start_of_unfilled opens failed
    have listed := called.trans (World.untouched_list _ true)
    obtain ⟨after, started, stopped, closed, closes, routers, untouched⟩ :=
      start_of_failed enabled idle begun listed
    refine ⟨after, started, stopped, ⟨closed, closes⟩, ?_, fun _ => ⟨service, routers, shut⟩, ?_, ?_, untouched⟩
    · rw [← same]
      exact fun refused => absurd opens refused
    · rw [← same, opens, streamsClosed, routers, List.foldl_append]
      exact congrArg (sidecar.streamsClosed + ·) shut.router.closes
    · rw [handled, routers, List.flatMap_append]
      simp [shut.handled, handled]
  cases obstacle with
  | unopened refused =>
    obtain ⟨after, started, stopped, closed, closes, routers, untouched⟩ :=
      start_of_failed enabled idle (Bootstrap.start_of_refused refused) called
    rw [Option.toList_none, List.append_nil] at routers
    refine ⟨after, started, stopped, ⟨closed, closes⟩, fun _ => routers, ?_, ?_, ?_, untouched⟩
    · rw [← same, refused]
      exact nofun
    · rw [← same, refused, streamsClosed, routers]
      rfl
    · rw [handled, handled, routers]
  | unlisted opens failed =>
    apply unfilled opens
    rw [failed]
    rfl
  | unreadable opens listed readable unread =>
    apply unfilled opens
    rw [listed]
    exact Outcome.mapM_eq_error readable unread

/-- A start that fails before the replay releases what it took, and no event gets anywhere: neither where
    the work takes its turns one after another, nor in any other order of the router's steps. -/
theorem failed_start_releases {sidecar : Sidecar} {fault : Fault}
    (enabled : sidecar.settings.enableEvents = true) (idle : sidecar.active = none)
    (obstacle : Bootstrap.Obstacle sidecar.watch.startGuard.world fault) :
    (∃ after, sidecar.start = (.error fault, after) ∧ Released sidecar after) ∧
      ∀ (containers : List ContainerSummary) (feed : List (Outcome Json)) (finite : Bool)
        (moves : List Bootstrap.Move) (launch : Bootstrap.Launch Handler),
        follow
          (Bootstrap.step (Bootstrap.plan sidecar.settings.eventPoolSize sidecar.registry) containers)
          (.fresh (Bootstrap.plan sidecar.settings.eventPoolSize sidecar.registry) feed finite) moves =
            some launch →
        launch.phase = .abandoned → .replay ∉ moves → .turn .stop ∉ moves →
        Bootstrap.Forsaken launch.router ∧
          (.turn .shutDown ∈ moves → launch.router.poolOpen = false) := by
  refine ⟨released_of_start enabled idle obstacle, ?_⟩
  intro containers feed finite moves launch run abandoned unreplayed alone
  cases Bootstrap.unreplayed_of_run run unreplayed alone with
  | opening phase | listing phase => cases abandoned.symm.trans phase
  | abandoned _ barren stopped closes shut => exact ⟨⟨barren, stopped, closes⟩, shut⟩

def strangeFleet : Sidecar where
  settings := {}
  registry := .logging
  world := { containers := [.obj [("Id", .str "c1")], .obj []] }
  cadence := ⟨1.0, 300.0, 1.5, 0⟩

theorem failed_start_releases_strangeFleet :
    ∃ after, strangeFleet.start = (.error (.missingKey (.str "Id")), after) ∧
      Released strangeFleet after := by
  obtain ⟨-, failures⟩ := strangeFleet.watch.startGuard_frame
  obtain ⟨world, cadence, alive, same, untouched⟩ := strangeFleet.watch.startGuard_untouched
  obtain ⟨unlaid, shown⟩ := untouched.fleet rfl
  rw [same] at failures
  have opens : world.failures = {} := failures
  have listed : (world.list true).1 = .ok ([.obj [("Id", .str "c1")]] ++ .obj [] :: []) := by
    rw [World.list_of_unlaid unlaid (by rw [opens]), shown]
    rfl
  have readable : ∀ other ∈ [Json.obj [("Id", .str "c1")]],
      ∃ summary, ContainerSummary.ofJson other = .ok summary :=
    List.forall_mem_singleton.mpr ⟨_, rfl⟩
  have obstacle : Bootstrap.Obstacle strangeFleet.watch.startGuard.world (.missingKey (.str "Id")) := by
    rw [same]
    exact .unreadable (by rw [opens]) listed readable rfl
  exact (failed_start_releases rfl rfl obstacle).1

end Sidecar

end ContainerWarden
