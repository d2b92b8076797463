import ContainerWarden.Proofs.Api.Lifecycle
import ContainerWarden.Proofs.Metadata.Failures
import ContainerWarden.Proofs.Orphan.Change

namespace ContainerWarden

namespace Metadata

def IsUsable (settings : Settings) : Prop :=
  ∀ path ∈ ["/self/host", "/containers"], ∃ asked, plainRequest settings path = .ok asked

end Metadata

namespace Orphan

open Metadata (FailsKnown Misread IsUsable isTransported)

def isOrdinary (exchange : Exchange) : Bool :=
  isTransported exchange && isDocumented exchange && !isRefusal exchange

theorem isOrdinary_iff {exchange : Exchange} : isOrdinary exchange = true ↔
    isTransported exchange = true ∧ isDocumented exchange = true ∧ isRefusal exchange = false := by
  simp [isOrdinary, and_assoc]

section Passes

variable {settings : Settings} {trace : List Exchange}

theorem fetch_failsKnown {outcome : Outcome (HostIdentity × List DesiredContainer)}
    (run : (fetch settings).Runs trace outcome)
    (transported : ∀ exchange ∈ trace, isTransported exchange = true) (usable : IsUsable settings)
    (legible : ∀ exchange ∈ trace, ¬ Misread exchange) : FailsKnown outcome := by
  rcases Job.runs_bind.mp run with ⟨before, host, after, split, first, rest⟩ | ⟨fault, first, failed⟩
  · subst split
    have transported exchange (member : exchange ∈ after) :=
      transported exchange (List.mem_append_right _ member)
    have legible exchange (member : exchange ∈ after) :=
      legible exchange (List.mem_append_right _ member)
    rcases Job.runs_bind.mp rest with ⟨_, records, _, _, _, last⟩ | ⟨fault, second, failed⟩
    · rw [(Job.runs_pure.mp last).2]
      exact .ok _
    · rw [failed]
      have known := (Metadata.containers_failsKnown_iff second transported).mpr
        ⟨usable _ (by simp), legible⟩
      exact Outcome.Fails.error_iff.mpr (known fault rfl)
  · rw [failed]
    have known := (Metadata.selfHost_failsKnown_iff first transported).mpr (usable _ (by simp))
    exact Outcome.Fails.error_iff.mpr (known fault rfl)

theorem pass_failsKnown {outcome : Outcome (List String)} (run : (pass settings).Runs trace outcome)
    (ordinary : ∀ exchange ∈ trace, isOrdinary exchange = true) (usable : IsUsable settings)
    (legible : ∀ exchange ∈ trace, ¬ Misread exchange) : FailsKnown outcome := by
  rcases pass_exchanges run with ⟨before, after, host, records, split, _, rest⟩ | ⟨fault, first, failed⟩
  · subst split
    have ordinary exchange (member : exchange ∈ after) :=
      isOrdinary_iff.mp (ordinary exchange (List.mem_append_right _ member))
    obtain ⟨removed, returned, _⟩ :=
      (accounts_of_treatAll rest fun exchange member => (ordinary exchange member).2.1).complete
        fun entry fault member => by cases (ordinary _ member).2.2
    rw [returned]
    exact .ok removed
  · rw [failed]
    have known := fetch_failsKnown first
      (fun exchange member => (isOrdinary_iff.mp (ordinary exchange member)).1) usable legible
    exact Outcome.Fails.error_iff.mpr (known fault rfl)

/-- Only what cannot be asked for or read makes a pass fail otherwise than the service does. -/
theorem misread_of_pass {fault : Fault} (run : (pass settings).Runs trace (.error fault))
    (ordinary : ∀ exchange ∈ trace, isOrdinary exchange = true) (unknown : fault.isMetadata = false) :
    ¬ IsUsable settings ∨ ∃ exchange ∈ trace, Misread exchange := by
  refine Classical.byContradiction fun blameless => ?_
  obtain ⟨usable, legible⟩ := not_or.mp blameless
  have known := pass_failsKnown run ordinary (Classical.not_not.mp usable)
    (fun exchange member misread => legible ⟨exchange, member, misread⟩) fault rfl
  cases known.symm.trans unknown

def passesCounted (trace : List Exchange) : Nat :=
  counted .reconcilePasses trace + counted .reconcileFailures trace

theorem passesCounted_append (before after : List Exchange) :
    passesCounted (before ++ after) = passesCounted before + passesCounted after := by
  simp only [passesCounted, counted_append]
  omega

theorem passesCounted_of_pass {outcome : Outcome (List String)}
    (run : (pass settings).Runs trace outcome) : passesCounted trace = 0 := by
  rw [passesCounted, counted_of_pass run _ (by decide), counted_of_pass run _ (by decide)]

theorem change_counted {version : Json} {outcome : Outcome (List String)}
    (changes : Changes settings version trace outcome)
    (ordinary : ∀ exchange ∈ trace, isOrdinary exchange = true) :
    (∃ removed, outcome = .ok removed) ∧ passesCounted trace = 1 ∨
    (¬ IsUsable settings ∨ ∃ exchange ∈ trace, Misread exchange) ∧
      (∃ fault, outcome = .error fault) ∧ passesCounted trace = 0 := by
  cases changes with
  | @returned trace removed pass =>
    have one : passesCounted (trace ++ [⟨.count .reconcilePasses 1, ()⟩]) = 1 := by
      rw [passesCounted_append, passesCounted_of_pass pass]
      rfl
    exact .inl ⟨⟨removed, rfl⟩, one⟩
  | @failed trace fault pass known logged =>
    have one : passesCounted (trace ++ [⟨.count .reconcileFailures 1, ()⟩,
        ⟨.log (changeFailure fault), logged⟩]) = 1 := by
      rw [passesCounted_append, passesCounted_of_pass pass]
      rfl
    have written := (isOrdinary_iff.mp (ordinary ⟨.log (changeFailure fault), logged⟩ (by simp))).2.2
    cases logged with
    | ok _ => exact .inl ⟨⟨[], rfl⟩, one⟩
    | error refusal => cases written
  | @broken trace fault pass unknown =>
    have none : passesCounted trace = 0 := passesCounted_of_pass pass
    refine .inr ⟨?_, ⟨fault, rfl⟩, none⟩
    refine (misread_of_pass pass (fun exchange member => ordinary exchange ?_) unknown).imp_right ?_
    · exact List.mem_cons_of_mem _ member
    · intro ⟨exchange, member, misread⟩
      exact ⟨exchange, List.mem_cons_of_mem _ member, misread⟩

end Passes

end Orphan

namespace Api

structure IsReconcile (api : Api) (request : ApiRequest) (user : String) : Prop where
  method : request.method = "POST"
  path : withoutSlashes request.path = "/reconcile"
  user : request.authenticate api.settings = .ok user
  running : api.isRunning = true

theorem handle_of_isReconcile {api : Api} {request : ApiRequest} {user : String}
    (own : IsReconcile api request user) : (api.handle request).1 =
      if (api.reconcile user).1.isEncodable then (api.reconcile user).1 else .internalError := by
  have asked : request.IsFor .reconcile := ⟨own.method, own.path⟩
  have served : api.serve request user .reconcile = api.reconcile user := if_pos own.running
  rw [handle_of_isFor asked (by decide) own.user, served, own.method]
  exact if_neg (by decide)

def requestRow (user : String) : LogEntry :=
  .info component ("Manual orphan pass requested by " ++ user) .null

theorem reconcile_status {api : Api} {user : String} {world : World}
    (announced : api.world.append (requestRow user) = (.ok (), world)) :
    (api.reconcile user).1.status =
      match ((Orphan.pass api.settings).run World.answer world).1 with
      | .ok _ => 200
      | .error fault => if fault.isMetadata then 502 else 500 := by
  have logged : (Job.log (requestRow user)).run World.answer api.world = (.ok (), world) := announced
  have whole := Job.run_bind_of_ok logged fun _ =>
    (do return (← Orphan.pass api.settings).map .str : Job (List Json))
  rcases passed : (Orphan.pass api.settings).run World.answer world with ⟨outcome, after⟩
  unfold requestRow at whole
  unfold reconcile runPass perform World.perform
  dsimp only
  cases outcome with
  | ok removed =>
    rw [Job.run_bind_of_ok passed] at whole
    rw [whole]
    have texts : (removed.map Json.str).all isText = true := by simp [isText]
    show (if (removed.map Json.str).all isText = true then _ else _ : ApiResponse).status = 200
    rw [if_pos texts]
    rfl
  | error fault =>
    rw [Job.run_bind_of_error passed] at whole
    rw [whole]
    dsimp only
    split <;> rfl

end Api

namespace Orphan

open Metadata (FailsKnown Misread IsUsable isTransported)

/-- How answers of the metadata service show in what goes by them. A pass that is not counted and a
    request that is not answered as documented come from a listing that cannot be read. -/
structure AnswersShown (settings : Settings) : Prop where
  host : ∀ trace outcome, (Metadata.selfHost settings).Runs trace outcome →
    (∀ exchange ∈ trace, isTransported exchange = true) →
    (FailsKnown outcome ↔ ∃ asked, Metadata.plainRequest settings "/self/host" = .ok asked)
  containers : ∀ trace outcome, (Metadata.containers settings).Runs trace outcome →
    (∀ exchange ∈ trace, isTransported exchange = true) →
    (FailsKnown outcome ↔ (∃ asked, Metadata.plainRequest settings "/containers" = .ok asked) ∧
      ∀ exchange ∈ trace, ¬ Misread exchange)
  version : ∀ current maxWait trace outcome,
    (Metadata.version settings current maxWait).Runs trace outcome →
    (∀ exchange ∈ trace, isTransported exchange = true) →
    (FailsKnown outcome ↔ ∃ asked, Metadata.versionRequest settings current maxWait = .ok asked)
  change : ∀ version trace outcome, (onChange settings version).Runs trace outcome →
    (∀ exchange ∈ trace, isOrdinary exchange = true) →
    (∃ removed, outcome = .ok removed) ∧ passesCounted trace = 1 ∨
    (¬ IsUsable settings ∨ ∃ exchange ∈ trace, Misread exchange) ∧
      (∃ fault, outcome = .error fault) ∧ passesCounted trace = 0
  reconcile : ∀ (api : Api) (request : ApiRequest) (user : String) (world : World),
    api.settings = settings → api.IsReconcile request user →
    api.world.append (Api.requestRow user) = (.ok (), world) →
    (∀ exchange ∈ (pass settings).history World.answer world, isOrdinary exchange = true) →
    (api.reconcile user).1.isEncodable = true →
    (api.handle request).1.status = 200 ∨ (api.handle request).1.status = 502 ∨
    (¬ IsUsable settings ∨ ∃ exchange ∈ (pass settings).history World.answer world, Misread exchange) ∧
      (api.handle request).1.status = 500

theorem bad_answers_shown (settings : Settings) : AnswersShown settings where
  host _ _ := Metadata.selfHost_failsKnown_iff
  containers _ _ := Metadata.containers_failsKnown_iff
  version _ _ _ _ := Metadata.version_failsKnown_iff
  change _ _ _ run := change_counted (onChange_exchanges run)
  reconcile api request user world own asked announced ordinary encodable := by
    subst own
    rw [Api.handle_of_isReconcile asked, if_pos encodable, Api.reconcile_status announced]
    have run := (pass api.settings).runs_history World.answer world
    cases outcome : ((pass api.settings).run World.answer world).1 with
    | ok removed => exact .inl rfl
    | error fault =>
      rw [outcome] at run
      cases known : fault.isMetadata with
      | true => exact .inr (.inl (by simp [known]))
      | false =>
        exact .inr (.inr ⟨misread_of_pass run ordinary known, by simp [known]⟩)

theorem bad_answers_shown_without_pages :
    let trace := (onChange {} (.str "v")).history World.answer {}
    (∀ exchange ∈ trace, isOrdinary exchange = true) ∧
    ((onChange {} (.str "v")).run World.answer {}).1 = .ok [] ∧ passesCounted trace = 1 := by
  intro trace
  have facts : trace.all isOrdinary = true ∧
      ((onChange {} (.str "v")).run World.answer {}).1.toOption = some [] := by decide +kernel
  have ordinary := List.all_eq_true.mp facts.1
  have returned := Outcome.toOption_eq_some.mp facts.2
  have run := (onChange {} (.str "v")).runs_history World.answer {}
  obtain ⟨_, one⟩ | ⟨_, ⟨fault, failed⟩, _⟩ := (bad_answers_shown {}).change _ _ _ run ordinary
  · exact ⟨ordinary, returned, one⟩
  · cases returned.symm.trans failed

def numberedLabels : World where
  pages :=
    [("/self/host", [page "\x7b\"uuid\":\"H\"\x7d"]), ("/containers", [page "[\x7b\"labels\":5\x7d]"])]

/-- Labels that are a number end a pass with a failure that nobody expects and nothing counts. -/
theorem numbered_labels_escape :
    let trace := (onChange {} (.str "v")).history World.answer numberedLabels
    (∀ exchange ∈ trace, isOrdinary exchange = true) ∧
    ¬ FailsKnown ((Metadata.containers {}).run World.answer numberedLabels).1 ∧
    (∃ fault, ((onChange {} (.str "v")).run World.answer numberedLabels).1 = .error fault) ∧
    passesCounted trace = 0 := by
  have facts :
      ((onChange {} (.str "v")).history World.answer numberedLabels).all isOrdinary = true ∧
      (match ((Metadata.containers {}).run World.answer numberedLabels).1 with
        | .ok _ => true
        | .error fault => fault.isMetadata) = false ∧
      ((onChange {} (.str "v")).run World.answer numberedLabels).1.toOption = none ∧
      passesCounted ((onChange {} (.str "v")).history World.answer numberedLabels) = 0 := by
    decide +kernel
  obtain ⟨ordinary, unknown, failed, uncounted⟩ := facts
  refine ⟨List.all_eq_true.mp ordinary, ?_, Outcome.toOption_eq_none.mp failed, uncounted⟩
  intro known
  cases outcome : ((Metadata.containers {}).run World.answer numberedLabels).1 with
  | ok records =>
    rw [outcome] at unknown
    cases unknown
  | error fault =>
    rw [outcome] at unknown known
    exact absurd (known fault rfl) (Bool.eq_false_iff.mp unknown)

end Orphan

end ContainerWarden
