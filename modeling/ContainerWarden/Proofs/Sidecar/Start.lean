import ContainerWarden.Sidecar

namespace ContainerWarden

theorem World.failures_nextListing (world : World) :
    world.nextListing.2.failures = world.failures := by
  unfold nextListing
  split <;> rfl

theorem World.failures_answer (effect : Effect) (world : World) :
    (World.answer effect world).2.failures = world.failures := by
  cases effect with
  | list all =>
    have kept := failures_nextListing (world.called (.containers all))
    simp only [World.answer, World.list]
    split
    · rename_i shown
      rwa [shown] at kept
    · rename_i shown
      rw [shown] at kept
      split <;> exact kept
  | fetch request =>
    simp only [World.answer, World.fetch]
    repeat' split
    all_goals rfl
  | log entry =>
    simp only [World.answer, World.append]
    split <;> rfl
  | _ => rfl

theorem World.failures_run (plan : Plan α) (world : World) :
    (plan.run World.answer world).2.failures = world.failures := by
  induction plan generalizing world with
  | done a => rfl
  | ask effect next ih =>
    have rest := ih (World.answer effect world).1 (World.answer effect world).2
    rwa [failures_answer] at rest

theorem World.failures_perform (world : World) (job : Job α) :
    (world.perform job).2.failures = world.failures :=
  failures_run (ExceptT.run job) world

theorem EventService.start_of_refused (service : EventService) {fault : Fault}
    (unopened : service.router.subscribed = false)
    (refused : service.world.failures.subscribe = some fault) : service.start.1 = .error fault := by
  have asked : (service.perform Job.subscribe).1 = .error fault := by
    show World.orFault service.world.failures.subscribe = _
    rw [refused]
    rfl
  unfold start
  rw [unopened, if_neg Bool.false_ne_true]
  split
  · rename_i next opened
    rw [opened] at asked
    cases asked
  · rename_i other next failed
    rw [failed] at asked
    exact asked

namespace Sidecar

theorem moveRouter_stopped (sidecar : Sidecar) (move : EventService → EventService) :
    (sidecar.moveRouter move).stopped = sidecar.stopped := by
  unfold moveRouter
  split
  · rfl
  · split <;> rfl

theorem stop_stopped (sidecar : Sidecar) : sidecar.stop.stopped = true :=
  moveRouter_stopped _ _

theorem stopped_of_start {sidecar started : Sidecar} {fault : Fault}
    (failed : sidecar.start = (.error fault, started)) : started.stopped = true := by
  unfold start at failed
  dsimp only at failed
  split at failed
  · split at failed
    · cases failed
    · obtain ⟨-, rfl⟩ := Prod.mk.inj failed
      exact stop_stopped _
  · cases failed

theorem perform_failures (sidecar : Sidecar) (job : Job α) :
    (sidecar.perform job).2.world.failures = sidecar.world.failures :=
  sidecar.world.failures_perform job

theorem startGuard_frame (sidecar : Sidecar) :
    sidecar.startGuard.settings = sidecar.settings ∧
      sidecar.startGuard.world.failures = sidecar.world.failures := by
  have logged := sidecar.perform_failures Guard.logStart
  unfold startGuard
  split
  · exact ⟨rfl, rfl⟩
  · dsimp only
    split
    · exact ⟨rfl, logged⟩
    · have ticked := (sidecar.perform Guard.logStart).2.perform_failures
        (Guard.tick sidecar.settings sidecar.cadence)
      split
      all_goals
        rename_i next performed
        obtain rfl := congrArg Prod.snd performed
        exact ⟨rfl, ticked.trans logged⟩

theorem startRouter_of_refused {sidecar : Sidecar} {fault : Fault}
    (refused : sidecar.world.failures.subscribe = some fault) :
    sidecar.startRouter.1 = .error fault := by
  have unstarted := EventService.start_of_refused
    (.fresh (Bootstrap.plan sidecar.settings.eventPoolSize sidecar.registry) sidecar.world) rfl refused
  have begun : sidecar.startRouter.1 = (Bootstrap.start sidecar.settings.eventPoolSize
      sidecar.registry sidecar.world).1 := rfl
  rw [begun, Bootstrap.start]
  split
  · rename_i other next failed
    rw [failed] at unstarted
    exact unstarted
  · rename_i next started
    rw [started] at unstarted
    cases unstarted

theorem connectAndMake_frame {settings : Settings} {registry : HandlerRegistry} {world : World}
    {sidecar : Sidecar} (made : connectAndMake settings registry world = .ok sidecar) :
    sidecar.settings = settings ∧ sidecar.world.failures = world.failures := by
  unfold connectAndMake make at made
  cases reached : Bootstrap.connect world with
  | error fault => simp [reached, bind, Except.bind] at made
  | ok _ =>
    cases served : Metadata.service settings with
    | error fault => simp [reached, served, bind, Except.bind] at made
    | ok service =>
      cases paced : Guard.cadence settings with
      | error fault => simp [reached, served, paced, bind, Except.bind] at made
      | ok cadence =>
        simp only [reached, served, paced, bind, Except.bind, pure, Except.pure,
          Except.ok.injEq] at made
        subst made
        exact ⟨rfl, rfl⟩

theorem start_of_refused {sidecar : Sidecar} {fault : Fault}
    (enabled : sidecar.settings.enableEvents = true)
    (refused : sidecar.world.failures.subscribe = some fault) : sidecar.start.1 = .error fault := by
  obtain ⟨settings, failures⟩ := sidecar.watch.startGuard_frame
  have unstarted : sidecar.watch.startGuard.startRouter.1 = .error fault :=
    startRouter_of_refused (by rw [failures]; exact refused)
  unfold start
  dsimp only
  rw [if_pos (by rw [settings]; exact enabled)]
  split
  · rename_i next started
    rw [started] at unstarted
    cases unstarted
  · rename_i other next failed
    rw [failed] at unstarted
    exact unstarted

end Sidecar

end ContainerWarden
