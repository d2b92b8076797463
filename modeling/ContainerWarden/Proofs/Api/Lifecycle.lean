import ContainerWarden.Api.Service
import ContainerWarden.Proofs.Sidecar.Start

namespace ContainerWarden

namespace Api

/-- What happens to the service. Between its own steps, the background work of a sidecar and the
    surroundings change what they like. -/
inductive Turn where
  | startup
  | shutdown
  | request (request : ApiRequest)
  | elapse (world : World) (work : Sidecar → Sidecar)

def turn (api : Api) : Turn → Api
  | .startup => api.startup.2
  | .shutdown => api.shutdown
  | .request request => (api.handle request).2
  | .elapse world work => { api with world, sidecar := api.sidecar.map work }

def after (api : Api) (turns : List Turn) : Api := turns.foldl turn api

def Makes (api : Api) : Prop :=
  ∃ sidecar, Sidecar.connectAndMake api.settings .logging api.world = .ok sidecar

variable {api : Api}

theorem makes_of_isSome
    (made : (Sidecar.connectAndMake api.settings .logging api.world).toOption.isSome) : api.Makes := by
  unfold Makes
  cases shown : Sidecar.connectAndMake api.settings .logging api.world with
  | ok sidecar => exact ⟨sidecar, rfl⟩
  | error fault =>
    rw [shown] at made
    cases made

theorem startup_cases (api : Api) :
    (¬ api.Makes ∧ ∃ fault, api.startup = (.error fault, api)) ∨
    api.Makes ∧ ∃ sidecar : Sidecar, api.startup = (sidecar.start.1, api.keep sidecar.start.2) ∧
      Sidecar.connectAndMake api.settings .logging api.world = .ok sidecar := by
  unfold startup Makes
  cases made : Sidecar.connectAndMake api.settings .logging api.world with
  | error fault =>
    refine .inl ⟨?_, fault, rfl⟩
    intro ⟨_, impossible⟩
    cases impossible
  | ok sidecar => exact .inr ⟨⟨sidecar, rfl⟩, sidecar, rfl, rfl⟩

theorem makes_of_startup (started : api.startup.1 = .ok ()) : api.Makes := by
  rcases startup_cases api with ⟨-, fault, failed⟩ | ⟨makes, -⟩
  · rw [failed] at started
    cases started
  · exact makes

theorem startup_of_refused {fault : Fault} (enabled : api.settings.enableEvents = true)
    (refused : api.world.failures.subscribe = some fault) (makes : api.Makes) :
    api.startup.1 = .error fault := by
  rcases startup_cases api with ⟨nothing, -⟩ | ⟨-, sidecar, begun, made⟩
  · exact absurd makes nothing
  · obtain ⟨settings, failures⟩ := Sidecar.connectAndMake_frame made
    rw [begun]
    exact Sidecar.start_of_refused (by rwa [settings]) (by rwa [failures])

theorem runPass_cases (announcement trouble : String) (caught : Fault → Bool) (pass : Job (List Json)) :
    ∃ world response, api.runPass announcement trouble caught pass = (response, { api with world }) ∧
      (response.status = 200 ∨ response.status = 500 ∨ response.status = 502) := by
  unfold runPass
  dsimp only
  split
  · rename_i ids next performed
    have kept := congrArg Prod.snd performed
    refine ⟨_, _, Prod.ext rfl kept.symm, ?_⟩
    split <;> simp [containerIds, ApiResponse.ok, ApiResponse.internalError]
  · rename_i fault next performed
    have kept := congrArg Prod.snd performed
    refine ⟨_, _, Prod.ext rfl kept.symm, ?_⟩
    split <;> simp [ApiResponse.detail, ApiResponse.internalError]

theorem serve_of_running (running : api.isRunning = true) (request : ApiRequest) (user : String)
    {endpoint : Endpoint} (pass : endpoint = .reconcile ∨ endpoint = .dedup) :
    ∃ world response, api.serve request user endpoint = (response, { api with world }) ∧
      (response.status = 200 ∨ response.status = 500 ∨ response.status = 502) := by
  rcases pass with rfl | rfl
  all_goals
    simp only [serve, running, if_true]
    exact runPass_cases ..

theorem serve_frame (request : ApiRequest) (user : String) (endpoint : Endpoint) :
    ∃ world, (api.serve request user endpoint).2 = { api with world } := by
  have kept (pass : endpoint = .reconcile ∨ endpoint = .dedup) (running : api.isRunning = true) :
      ∃ world, (api.serve request user endpoint).2 = { api with world } := by
    obtain ⟨world, _, served, -⟩ := serve_of_running running request user pass
    exact ⟨world, congrArg Prod.snd served⟩
  cases endpoint with
  | health | status | events => exact ⟨api.world, rfl⟩
  | reconcile | dedup =>
    cases running : api.isRunning with
    | false => exact ⟨api.world, by simp [serve, running]⟩
    | true => exact kept (by simp) running

theorem handlePath_frame (request : ApiRequest) (path : String) :
    ∃ world, (api.handlePath request path).2 = { api with world } := by
  unfold handlePath
  split
  · exact ⟨api.world, rfl⟩
  · split
    · exact ⟨api.world, rfl⟩
    · split
      · exact ⟨api.world, rfl⟩
      · split
        · exact ⟨api.world, rfl⟩
        · exact serve_frame ..

theorem handle_frame (request : ApiRequest) :
    ∃ world, (api.handle request).2 = { api with world } :=
  handlePath_frame request _

theorem turn_settings (api : Api) (turn : Turn) : (api.turn turn).settings = api.settings := by
  cases turn with
  | startup =>
    rcases startup_cases api with ⟨-, _, failed⟩ | ⟨-, _, begun, -⟩
    · simp only [Api.turn, failed]
    · simp only [Api.turn, begun, keep]
  | shutdown =>
    unfold Api.turn shutdown
    dsimp only
    split <;> rfl
  | request request =>
    obtain ⟨world, same⟩ := api.handle_frame request
    simp only [Api.turn, same]
  | elapse => rfl

theorem after_settings (api : Api) (turns : List Turn) : (api.after turns).settings = api.settings := by
  induction turns generalizing api with
  | nil => rfl
  | cons turn rest ih => exact (ih (api.turn turn)).trans (api.turn_settings turn)

theorem isRunning_turn (api : Api) (turn : Turn) : (api.turn turn).isRunning = true ↔
    (turn = .startup ∧ api.Makes) ∨ api.isRunning = true ∧ turn ≠ .shutdown := by
  cases turn with
  | startup =>
    rcases startup_cases api with ⟨nothing, _, failed⟩ | ⟨makes, _, begun, -⟩
    · simp [Api.turn, failed, nothing]
    · simp [Api.turn, begun, makes, isRunning, keep]
  | shutdown =>
    unfold Api.turn shutdown
    cases held : api.sidecar <;> simp [isRunning, held]
  | request request =>
    obtain ⟨world, same⟩ := api.handle_frame request
    simp [Api.turn, same, isRunning]
  | elapse world work => simp [Api.turn, isRunning]

def HasStarted (api : Api) (turns : List Turn) : Prop :=
  ∃ before later, turns = before ++ .startup :: later ∧ (api.after before).Makes ∧ .shutdown ∉ later

theorem isRunning_after (api : Api) (turns : List Turn) : (api.after turns).isRunning = true ↔
    api.HasStarted turns ∨ api.isRunning = true ∧ .shutdown ∉ turns := by
  induction turns generalizing api with
  | nil => simp [after, HasStarted]
  | cons turn rest ih =>
    show ((api.turn turn).after rest).isRunning = true ↔ _
    rw [ih, isRunning_turn]
    constructor
    · rintro (⟨before, later, rfl, makes, quiet⟩ | ⟨⟨rfl, makes⟩ | ⟨running, other⟩, quiet⟩)
      · exact .inl ⟨turn :: before, later, rfl, makes, quiet⟩
      · exact .inl ⟨[], rest, rfl, makes, quiet⟩
      · exact .inr ⟨running, by simpa [eq_comm] using ⟨other, quiet⟩⟩
    · rintro (⟨before, later, split, makes, quiet⟩ | ⟨running, quiet⟩)
      · cases before with
        | nil =>
          obtain ⟨rfl, rfl⟩ := List.cons.inj split
          exact .inr ⟨.inl ⟨rfl, makes⟩, quiet⟩
        | cons head before =>
          obtain ⟨rfl, rfl⟩ := List.cons.inj split
          exact .inl ⟨before, later, rfl, makes, quiet⟩
      · have other := List.ne_of_not_mem_cons quiet
        exact .inr ⟨.inr ⟨running, other.symm⟩, List.not_mem_of_not_mem_cons quiet⟩

end Api

structure ApiRequest.IsFor (request : ApiRequest) (endpoint : Endpoint) : Prop where
  method : request.method = endpoint.method
  path : Api.withoutSlashes request.path = endpoint.path

namespace Api

variable {api : Api} {request : ApiRequest} {endpoint : Endpoint}

theorem ofPath?_path (endpoint : Endpoint) : Endpoint.ofPath? endpoint.path = some endpoint := by
  cases endpoint <;> decide

theorem handle_of_isFor (own : request.IsFor endpoint) (guarded : endpoint ≠ .health) {user : String}
    (known : request.authenticate api.settings = .ok user) :
    (api.handle request).1 =
      (if (api.serve request user endpoint).1.isEncodable then (api.serve request user endpoint).1
        else .internalError).sentTo request.method := by
  simp [handle, handlePath, own.path, ofPath?_path, own.method, guarded, known]

theorem sentTo_status (method : String) (response : ApiResponse) :
    (response.sentTo method).status = response.status := by
  unfold ApiResponse.sentTo
  split <;> rfl

theorem sent_status (method : String) (response : ApiResponse) :
    ((if response.isEncodable then response else .internalError).sentTo method).status =
        response.status ∨
      ((if response.isEncodable then response else .internalError).sentTo method).status = 500 := by
  rw [sentTo_status]
  split
  · exact .inl rfl
  · exact .inr rfl

theorem handle_health (own : request.IsFor .health) : (api.handle request).1 = api.health := by
  have plain : api.health.isEncodable = true := by
    unfold health
    cases api.isRunning <;> decide
  have whole : Endpoint.health.method ≠ "HEAD" := by decide
  simp [handle, handlePath, own.path, ofPath?_path, own.method, plain, ApiResponse.sentTo, whole]

theorem handle_unavailable_iff (own : request.IsFor endpoint)
    (asks : endpoint = .status ∨ endpoint = .reconcile ∨ endpoint = .dedup) {user : String}
    (known : request.authenticate api.settings = .ok user) :
    (api.handle request).1.status = 503 ↔ api.isRunning = false := by
  have guarded : endpoint ≠ .health := by rcases asks with rfl | rfl | rfl <;> decide
  rw [handle_of_isFor own guarded known]
  cases running : api.isRunning with
  | false =>
    have served : (api.serve request user endpoint).1 = .notRunning := by
      rcases asks with rfl | rfl | rfl <;> simp [serve, running]
    have plain : ApiResponse.notRunning.isEncodable = true := by decide
    rw [served, if_pos plain, sentTo_status]
    simp [ApiResponse.notRunning, ApiResponse.detail]
  | true =>
    have served : (api.serve request user endpoint).1.status = 200 ∨
        (api.serve request user endpoint).1.status = 500 ∨
        (api.serve request user endpoint).1.status = 502 := by
      rcases asks with rfl | pass
      · exact .inl (by simp [serve, running, status, ApiResponse.ok])
      · obtain ⟨world, response, done, status⟩ := serve_of_running running request user pass
        rwa [done]
    rcases sent_status request.method (api.serve request user endpoint).1 with same | same
    · rcases served with reason | reason | reason <;> simp [same, reason]
    · simp [same]

structure RunningReported (api : Api) (turns : List Turn) : Prop where
  running : (api.after turns).isRunning = true ↔ api.HasStarted turns
  health : ∀ request : ApiRequest, request.IsFor .health →
    ((api.after turns).handle request).1 =
      .ok (.obj [("status", .str "healthy"), ("running", .bool (api.after turns).isRunning)])
  served : ∀ (request : ApiRequest) (endpoint : Endpoint) (user : String), request.IsFor endpoint →
    endpoint = .status ∨ endpoint = .reconcile ∨ endpoint = .dedup →
    request.authenticate api.settings = .ok user →
      (((api.after turns).handle request).1.status = 503 ↔ (api.after turns).isRunning = false)
  /-- A startup that fails changes nothing, or it leaves a sidecar behind whose work is stopped. -/
  failed : ∀ fault next, (api.after turns).startup = (.error fault, next) →
    (¬ (api.after turns).Makes ∧ next = api.after turns) ∨
      (api.after turns).Makes ∧ ∃ sidecar, next.sidecar = some sidecar ∧ sidecar.stopped = true
  /-- Where no startup fails with a sidecar that was made, and none is tried beside a sidecar, the
      last startup or shutdown tells. -/
  latest : (∀ before later, turns = before ++ .startup :: later →
      (api.after before).isRunning = false ∧
        ((api.after before).Makes → (api.after before).startup.1 = .ok ())) →
    ((api.after turns).isRunning = true ↔ ∃ before later, turns = before ++ .startup :: later ∧
      (api.after before).startup.1 = .ok () ∧ .startup ∉ later ∧ .shutdown ∉ later)

theorem HasStarted.latest {turns : List Turn} (started : api.HasStarted turns)
    (single : ∀ before later, turns = before ++ .startup :: later →
      (api.after before).isRunning = false ∧
        ((api.after before).Makes → (api.after before).startup.1 = .ok ())) :
    ∃ before later, turns = before ++ .startup :: later ∧
      (api.after before).startup.1 = .ok () ∧ .startup ∉ later ∧ .shutdown ∉ later := by
  obtain ⟨before, later, split, makes, quiet⟩ := started
  refine ⟨before, later, split, (single before later split).2 makes, ?_, quiet⟩
  intro member
  obtain ⟨between, last, rfl⟩ := List.append_of_mem member
  -- The sidecar that was made is still there when the next startup comes.
  have again := (single (before ++ .startup :: between) last (by simp [split])).1
  have kept : (api.after (before ++ .startup :: between)).isRunning = true := by
    refine (isRunning_after _ _).mpr (.inl ⟨before, between, rfl, makes, ?_⟩)
    exact fun earlier => quiet (List.mem_append_left _ earlier)
  cases again.symm.trans kept

/-- A sidecar is reported from the startup that made it to the next shutdown, however its start went. -/
theorem running_reported (idle : api.isRunning = false) (turns : List Turn) :
    RunningReported api turns := by
  have running : (api.after turns).isRunning = true ↔ api.HasStarted turns := by
    rw [isRunning_after, idle]
    simp
  refine ⟨running, fun request own => handle_health own, ?_, ?_, ?_⟩
  · intro request endpoint user own asks known
    exact handle_unavailable_iff own asks (by rwa [after_settings])
  · intro fault next startup
    rcases startup_cases (api.after turns) with ⟨nothing, _, failed⟩ | ⟨makes, sidecar, begun, -⟩
    · rw [failed] at startup
      exact .inl ⟨nothing, (Prod.mk.inj startup).2.symm⟩
    · rw [begun] at startup
      obtain ⟨failed, rfl⟩ := Prod.mk.inj startup
      exact .inr ⟨makes, _, rfl, Sidecar.stopped_of_start (Prod.ext failed rfl)⟩
  · intro single
    rw [running]
    constructor
    · intro started
      exact started.latest single
    · intro ⟨before, later, split, started, _, quiet⟩
      exact ⟨before, later, split, makes_of_startup started, quiet⟩

def speechless : Api where
  settings := {}
  world := { failures.subscribe := some (.reported .dockerException "no events") }

theorem speechless_makes : speechless.Makes := makes_of_isSome (by decide +kernel)

theorem running_reported_of_speechless :
    speechless.isRunning = false ∧ RunningReported speechless [.startup] ∧
      speechless.HasStarted [.startup] :=
  ⟨rfl, running_reported rfl [.startup], [], [], rfl, speechless_makes, List.not_mem_nil⟩

/-- A startup whose start fails is followed by answers as if it had gone well. -/
theorem failed_startup_reported :
    speechless.isRunning = false ∧
      speechless.startup.1 = .error (.reported .dockerException "no events") ∧
      ∀ request : ApiRequest, request.IsFor .health →
        ((speechless.after [.startup]).handle request).1 =
          .ok (.obj [("status", .str "healthy"), ("running", .bool true)]) := by
  refine ⟨rfl, startup_of_refused rfl rfl speechless_makes, fun request own => ?_⟩
  have running : (speechless.after [.startup]).isRunning = true :=
    (isRunning_after _ _).mpr (.inl ⟨[], [], rfl, speechless_makes, List.not_mem_nil⟩)
  rw [handle_health own, health, running]

end Api

end ContainerWarden
