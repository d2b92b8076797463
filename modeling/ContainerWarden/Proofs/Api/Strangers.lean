import ContainerWarden.Proofs.Api.Lifecycle

namespace ContainerWarden

namespace Credentials

/-- Not the credentials of the settings. A password that was drawn is in no credentials. -/
def Differ (credentials : Credentials) (settings : Settings) : Prop :=
  credentials.user ≠ settings.apiUser ∨ .configured credentials.password ≠ settings.apiPassword

instance (credentials : Credentials) (settings : Settings) : Decidable (credentials.Differ settings) :=
  inferInstanceAs (Decidable (_ ∨ _))

variable {credentials : Credentials} {settings : Settings}

theorem eq_of_compare? {given configured : String} (same : compare? given configured = some true) :
    given = configured := by
  unfold compare? at same
  split at same
  · simpa using same
  · cases same

theorem not_match_of_differ (differ : credentials.Differ settings) :
    credentials.match? settings ≠ some true := by
  intro matched
  unfold match? at matched
  cases compared : compare? credentials.user settings.apiUser with
  | none => simp [compared] at matched
  | some sameUser =>
    cases sameUser with
    | false => simp [compared] at matched
    | true =>
      cases password : settings.apiPassword with
      | drawn length => simp [compared, password] at matched
      | configured text =>
        have samePassword : compare? credentials.password text = some true := by
          simpa [compared, password] using matched
        rcases differ with otherUser | otherPassword
        · exact otherUser (eq_of_compare? compared)
        · exact otherPassword (by rw [password, eq_of_compare? samePassword])

end Credentials

namespace ApiRequest

variable {request : ApiRequest}

structure IsStranger (request : ApiRequest) (settings : Settings) : Prop where
  guarded : ∃ endpoint : Endpoint, endpoint ≠ .health ∧
    Api.withoutSlashes request.path = endpoint.path
  unknown : ∀ credentials, Credentials.ofRequest? request = some credentials →
    credentials.Differ settings

theorem authenticate_of_isStranger {settings : Settings} (stranger : request.IsStranger settings) :
    ∃ refusal, request.authenticate settings = .error refusal ∧
      (refusal.status = 401 ∨ refusal.status = 500) := by
  unfold authenticate
  cases given : Credentials.ofRequest? request with
  | none => exact ⟨_, rfl, .inl rfl⟩
  | some credentials =>
    have unmatched := Credentials.not_match_of_differ (stranger.unknown credentials given)
    cases matched : credentials.match? settings with
    | none => exact ⟨.internalError, by simp only [matched], .inr rfl⟩
    | some known =>
      cases known with
      | false => exact ⟨.unauthorized "Invalid credentials", by simp only [matched], .inl rfl⟩
      | true => exact absurd matched unmatched

theorem authenticate_congr {settings others : Settings} (user : settings.apiUser = others.apiUser)
    (password : settings.apiPassword = others.apiPassword) :
    request.authenticate settings = request.authenticate others := by
  simp only [authenticate, Credentials.match?, user, password]

end ApiRequest

namespace Api

variable {api one other : Api} {request : ApiRequest}

theorem after_append (api : Api) (turns later : List Turn) :
    api.after (turns ++ later) = (api.after turns).after later :=
  List.foldl_append

/-- What a request is told that ends before an endpoint is reached. -/
def refuse (request : ApiRequest) (endpoint : Endpoint) (refusal : ApiResponse) : ApiResponse :=
  let response := if request.method != endpoint.method then .wrongMethod else refusal
  (if response.isEncodable then response else .internalError).sentTo request.method

theorem handle_of_refused {endpoint : Endpoint} {refusal : ApiResponse} (guarded : endpoint ≠ .health)
    (path : withoutSlashes request.path = endpoint.path)
    (refused : request.authenticate api.settings = .error refusal) :
    api.handle request = (refuse request endpoint refusal, api) := by
  unfold handle handlePath refuse
  rw [path, ofPath?_path]
  dsimp only
  rw [if_neg guarded]
  split
  · rfl
  · rw [refused]

theorem refuse_status (request : ApiRequest) (endpoint : Endpoint) {refusal : ApiResponse}
    (status : refusal.status = 401 ∨ refusal.status = 500) :
    (refuse request endpoint refusal).status ∈ [401, 405, 500] := by
  have wrong : ApiResponse.wrongMethod.status = 405 := rfl
  unfold refuse
  by_cases other : (request.method != endpoint.method) = true
  · rcases sent_status request.method .wrongMethod with same | same <;> simp [other, same, wrong]
  · rcases sent_status request.method refusal with same | same
    · rcases status with reason | reason <;> simp [other, same, reason]
    · simp [other, same]

structure Closed (one other : Api) (request : ApiRequest) (turns others : List Turn) : Prop where
  answer : ((one.after turns).handle request).1 = ((other.after others).handle request).1
  status : ((one.after turns).handle request).1.status ∈ [401, 405, 500]
  state : ((one.after turns).handle request).2 = one.after turns
  later : ∀ rest, one.after (turns ++ .request request :: rest) = one.after (turns ++ rest)

/-- Strangers learn nothing of the service, and change nothing in it. -/
theorem closed_to_strangers (stranger : request.IsStranger one.settings)
    (user : one.settings.apiUser = other.settings.apiUser)
    (password : one.settings.apiPassword = other.settings.apiPassword) (turns others : List Turn) :
    Closed one other request turns others := by
  obtain ⟨endpoint, guarded, path⟩ := stranger.guarded
  obtain ⟨refusal, refused, status⟩ := ApiRequest.authenticate_of_isStranger stranger
  have alike := (ApiRequest.authenticate_congr user password).symm.trans refused
  have here : (one.after turns).handle request = (refuse request endpoint refusal, one.after turns) :=
    handle_of_refused guarded path (by rw [after_settings, refused])
  have there : (other.after others).handle request =
      (refuse request endpoint refusal, other.after others) :=
    handle_of_refused guarded path (by rw [after_settings, alike])
  refine ⟨by rw [here, there], ?_, by rw [here], fun rest => ?_⟩
  · rw [here]
    exact refuse_status request endpoint status
  · have unmoved : (one.after turns).turn (.request request) = one.after turns := by
      simp only [turn, here]
    rw [after_append, after_append]
    show ((one.after turns).turn (.request request)).after rest = _
    rw [unmoved]

def guess : ApiRequest where
  method := "POST"
  path := "/reconcile"
  authorization := some "Basic YWRtaW46eA=="

def secured : Api where
  settings := { apiPassword := .configured "s3cret" }
  world := {}

theorem closed_to_guess :
    Credentials.ofRequest? guess = some ⟨"admin", "x"⟩ ∧
    (secured.after []).isRunning = false ∧ (secured.after [.startup]).isRunning = true ∧
    Closed secured secured guess [] [.startup] := by
  have given : Credentials.ofRequest? guess = some ⟨"admin", "x"⟩ := by decide +kernel
  have started : (secured.after [.startup]).isRunning = true := by
    refine (isRunning_after _ _).mpr (.inl ⟨[], [], rfl, ?_, List.not_mem_nil⟩)
    exact makes_of_isSome (by decide +kernel)
  refine ⟨given, rfl, started, closed_to_strangers ⟨⟨.reconcile, ?_, ?_⟩, ?_⟩ rfl rfl [] [.startup]⟩
  · decide
  · decide +kernel
  · intro credentials found
    obtain rfl := Option.some.inj (given.symm.trans found)
    exact .inr (by decide +kernel)

end Api

end ContainerWarden
