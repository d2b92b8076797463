import ContainerWarden.Plan

namespace ContainerWarden

abbrev Exchange := (effect : Effect) × effect.Reply

theorem Effect.reply_exists (effect : Effect) : Nonempty effect.Reply := by
  cases effect
  all_goals first | exact ⟨()⟩ | exact ⟨false⟩ | exact ⟨.error .clientClosed⟩

namespace Plan

inductive Steps : Plan α → List Exchange → Plan α → Prop where
  | refl (plan : Plan α) : Steps plan [] plan
  | ask {effect : Effect} {next : effect.Reply → Plan α} {trace : List Exchange} {rest : Plan α}
      (reply : effect.Reply) (later : Steps (next reply) trace rest) :
      Steps (.ask effect next) (⟨effect, reply⟩ :: trace) rest

theorem Steps.trans {first middle last : Plan α} {before after : List Exchange}
    (begun : Steps first before middle) (ended : Steps middle after last) :
    Steps first (before ++ after) last := by
  induction begun with
  | refl => exact ended
  | ask reply _ ih => exact .ask reply (ih ended)

theorem Steps.snoc {plan : Plan α} {trace : List Exchange} {effect : Effect}
    {next : effect.Reply → Plan α} (begun : Steps plan trace (.ask effect next))
    (reply : effect.Reply) : Steps plan (trace ++ [⟨effect, reply⟩]) (next reply) :=
  begun.trans (.ask reply (.refl _))

def Runs (plan : Plan α) (trace : List Exchange) (result : α) : Prop :=
  Steps plan trace (.done result)

theorem runs_done {a b : α} {trace : List Exchange} :
    Runs (.done a) trace b ↔ trace = [] ∧ b = a := by
  constructor
  · intro run
    cases run
    exact ⟨rfl, rfl⟩
  · intro ended
    obtain ⟨empty, same⟩ := ended
    subst empty same
    exact .refl _

theorem runs_ask {effect : Effect} {next : effect.Reply → Plan α} {trace : List Exchange}
    {result : α} : Runs (.ask effect next) trace result ↔
      ∃ reply later, trace = ⟨effect, reply⟩ :: later ∧ Runs (next reply) later result := by
  constructor
  · intro run
    cases run with
    | ask reply later => exact ⟨reply, _, rfl, later⟩
  · intro parts
    obtain ⟨reply, later, split, run⟩ := parts
    subst split
    exact .ask reply run

theorem runs_perform {effect : Effect} {trace : List Exchange} {reply : effect.Reply} :
    Runs (perform effect) trace reply ↔ trace = [⟨effect, reply⟩] := by
  rw [perform, runs_ask]
  constructor
  · intro parts
    obtain ⟨answered, later, split, run⟩ := parts
    obtain ⟨empty, same⟩ := runs_done.mp run
    rw [split, empty, same]
  · intro asked
    exact ⟨reply, [], asked, .refl _⟩

theorem runs_bind {plan : Plan α} {f : α → Plan β} {trace : List Exchange} {result : β} :
    Runs (plan.bind f) trace result ↔
      ∃ before a after, trace = before ++ after ∧ Runs plan before a ∧ Runs (f a) after result := by
  induction plan generalizing trace with
  | done a =>
    constructor
    · intro run
      exact ⟨[], a, trace, rfl, .refl _, run⟩
    · intro parts
      obtain ⟨before, a', after, split, first, last⟩ := parts
      obtain ⟨empty, same⟩ := runs_done.mp first
      subst split empty same
      exact last
  | ask effect next ih =>
    constructor
    · intro run
      obtain ⟨reply, later, whole, rest⟩ := runs_ask.mp run
      obtain ⟨before, a, after, split, first, last⟩ := (ih reply).mp rest
      subst whole split
      exact ⟨⟨effect, reply⟩ :: before, a, after, rfl, .ask reply first, last⟩
    · intro parts
      obtain ⟨before, a, after, split, first, last⟩ := parts
      obtain ⟨reply, later, begun, rest⟩ := runs_ask.mp first
      subst split begun
      exact .ask reply ((ih reply).mpr ⟨later, a, after, rfl, rest, last⟩)

/-- The first part of a plan goes the way its answers lead it, so that what follows belongs to the rest. -/
theorem Steps.of_bind {plan : Plan α} {f : α → Plan β} {before after : List Exchange} {a : α}
    {rest : Plan β} (first : Runs plan before a) (begun : Steps (plan.bind f) (before ++ after) rest) :
    Steps (f a) after rest := by
  induction plan generalizing before with
  | done b =>
    obtain ⟨empty, same⟩ := runs_done.mp first
    subst empty same
    exact begun
  | ask effect next ih =>
    obtain ⟨reply, later, whole, others⟩ := runs_ask.mp first
    subst whole
    cases begun with
    | ask _ begun => exact ih reply others begun

theorem runs_exists (plan : Plan α) : ∃ trace result, Runs plan trace result := by
  induction plan with
  | done a => exact ⟨[], a, .refl _⟩
  | ask effect next ih =>
    obtain ⟨reply⟩ := effect.reply_exists
    obtain ⟨trace, result, run⟩ := ih reply
    exact ⟨⟨effect, reply⟩ :: trace, result, .ask reply run⟩

/-- Whatever a plan did so far is the beginning of what it does to its end. -/
theorem Steps.completes {plan rest : Plan α} {trace : List Exchange} (begun : Steps plan trace rest) :
    ∃ later result, Runs plan (trace ++ later) result := by
  obtain ⟨later, result, run⟩ := rest.runs_exists
  exact ⟨later, result, begun.trans run⟩

/-- A step came next, or nothing came yet and the step is what is asked for. -/
def Next (after : List Exchange) (rest : Plan α) (effect : Effect) : Prop :=
  (∃ reply later, after = ⟨effect, reply⟩ :: later) ∨ after = [] ∧ ∃ next, rest = .ask effect next

def Over (after : List Exchange) (rest : Plan α) (result : α) : Prop := after = [] ∧ rest = .done result

section Moments

variable {plan rest : Plan α} {before after : List Exchange} {exchange : Exchange}

/-- What always comes next after an exchange comes next at every moment after it. -/
theorem Steps.next {effect : Effect} (begun : Steps plan (before ++ exchange :: after) rest)
    (law : ∀ later result, Runs plan (before ++ exchange :: later) result →
      ∃ reply further, later = ⟨effect, reply⟩ :: further) : Next after rest effect := by
  obtain ⟨later, result, run⟩ := rest.runs_exists
  have whole := begun.trans run
  rw [List.append_assoc, List.cons_append] at whole
  obtain ⟨reply, further, head⟩ := law _ _ whole
  cases after with
  | cons exchange others =>
    obtain ⟨rfl, -⟩ := List.cons.inj head
    exact .inl ⟨reply, others, rfl⟩
  | nil =>
    rw [List.nil_append] at head
    subst head
    cases rest with
    | done => cases run
    | ask asked next =>
      obtain ⟨_, _, same, -⟩ := runs_ask.mp run
      cases same
      exact .inr ⟨rfl, next, rfl⟩

theorem Steps.over {result : α} (begun : Steps plan (before ++ exchange :: after) rest)
    (law : ∀ later reached, Runs plan (before ++ exchange :: later) reached →
      later = [] ∧ reached = result) : Over after rest result := by
  obtain ⟨later, reached, run⟩ := rest.runs_exists
  have whole := begun.trans run
  rw [List.append_assoc, List.cons_append] at whole
  obtain ⟨empty, same⟩ := law _ _ whole
  obtain ⟨none, nothing⟩ := List.append_eq_nil_iff.mp empty
  subst none nothing same
  cases run
  exact ⟨rfl, rfl⟩

end Moments

def history (answer : (effect : Effect) → σ → effect.Reply × σ) : Plan α → σ → List Exchange
  | done _, _ => []
  | ask effect next, s =>
    ⟨effect, (answer effect s).1⟩ :: (next (answer effect s).1).history answer (answer effect s).2

theorem runs_history (answer : (effect : Effect) → σ → effect.Reply × σ) (plan : Plan α) (s : σ) :
    Runs plan (plan.history answer s) (plan.run answer s).1 := by
  induction plan generalizing s with
  | done a => exact .refl _
  | ask effect next ih => exact .ask _ (ih (answer effect s).1 (answer effect s).2)

theorem history_bind (answer : (effect : Effect) → σ → effect.Reply × σ) (plan : Plan α)
    (f : α → Plan β) (s : σ) :
    (plan.bind f).history answer s =
      plan.history answer s ++ (f (plan.run answer s).1).history answer (plan.run answer s).2 := by
  induction plan generalizing s with
  | done a => rfl
  | ask effect next ih => exact congrArg _ (ih (answer effect s).1 (answer effect s).2)

end Plan

namespace Job

def Runs (job : Job α) (trace : List Exchange) (outcome : Outcome α) : Prop :=
  Plan.Runs (ExceptT.run job) trace outcome

def history (answer : (effect : Effect) → σ → effect.Reply × σ) (job : Job α) (s : σ) :
    List Exchange := Plan.history answer (ExceptT.run job) s

theorem runs_history (answer : (effect : Effect) → σ → effect.Reply × σ) (job : Job α) (s : σ) :
    Runs job (job.history answer s) (job.run answer s).1 :=
  Plan.runs_history answer (ExceptT.run job) s

section Sequence

variable {answer : (effect : Effect) → σ → effect.Reply × σ} {job : Job α} {s after : σ}

theorem run_bind_of_ok {a : α} (reached : job.run answer s = (.ok a, after)) (f : α → Job β) :
    (job >>= f).run answer s = (f a).run answer after := by
  have whole : (job >>= f).run answer s =
      (ExceptT.bindCont f (job.run answer s).1).run answer (job.run answer s).2 := Plan.run_bind ..
  rw [whole, reached]
  rfl

theorem run_bind_of_error {fault : Fault} (reached : job.run answer s = (.error fault, after))
    (f : α → Job β) : (job >>= f).run answer s = (.error fault, after) := by
  have whole : (job >>= f).run answer s =
      (ExceptT.bindCont f (job.run answer s).1).run answer (job.run answer s).2 := Plan.run_bind ..
  rw [whole, reached]
  rfl

theorem history_bind_of_ok {a : α} (reached : job.run answer s = (.ok a, after)) (f : α → Job β) :
    (job >>= f).history answer s = job.history answer s ++ (f a).history answer after := by
  have whole : (job >>= f).history answer s = job.history answer s ++
      (ExceptT.bindCont f (job.run answer s).1).history answer (job.run answer s).2 :=
    Plan.history_bind ..
  rw [whole, reached]
  rfl

theorem history_bind_of_error {fault : Fault} (reached : job.run answer s = (.error fault, after))
    (f : α → Job β) : (job >>= f).history answer s = job.history answer s := by
  have whole : (job >>= f).history answer s = job.history answer s ++
      (ExceptT.bindCont f (job.run answer s).1).history answer (job.run answer s).2 :=
    Plan.history_bind ..
  rw [whole, reached]
  exact List.append_nil _

end Sequence

theorem runs_pure {a : α} {trace : List Exchange} {outcome : Outcome α} :
    Runs (pure a) trace outcome ↔ trace = [] ∧ outcome = .ok a := Plan.runs_done

theorem runs_throw {fault : Fault} {trace : List Exchange} {outcome : Outcome α} :
    Runs (throw fault) trace outcome ↔ trace = [] ∧ outcome = .error fault := Plan.runs_done

theorem runs_ofExcept {reached : Outcome α} {trace : List Exchange} {outcome : Outcome α} :
    Runs (ofExcept reached) trace outcome ↔ trace = [] ∧ outcome = reached := by
  cases reached <;> exact Plan.runs_done

theorem runs_bind {job : Job α} {f : α → Job β} {trace : List Exchange} {outcome : Outcome β} :
    Runs (job >>= f) trace outcome ↔
      (∃ before a after, trace = before ++ after ∧ Runs job before (.ok a) ∧ Runs (f a) after outcome) ∨
      ∃ fault, Runs job trace (.error fault) ∧ outcome = .error fault := by
  have opened : Runs (job >>= f) trace outcome ↔ ∃ before, ∃ reached : Outcome α, ∃ after,
      trace = before ++ after ∧ Plan.Runs (ExceptT.run job) before reached ∧
      Plan.Runs (ExceptT.bindCont f reached) after outcome := Plan.runs_bind
  rw [opened]
  constructor
  · intro parts
    obtain ⟨before, reached, after, split, first, last⟩ := parts
    cases reached with
    | ok a => exact .inl ⟨before, a, after, split, first, last⟩
    | error fault =>
      obtain ⟨empty, same⟩ := Plan.runs_done.mp last
      rw [empty, List.append_nil] at split
      exact .inr ⟨fault, by rwa [split], same⟩
  · intro ways
    rcases ways with ⟨before, a, after, split, first, last⟩ | ⟨fault, first, same⟩
    · exact ⟨before, .ok a, after, split, first, last⟩
    · subst same
      exact ⟨trace, .error fault, [], by simp, first, .refl _⟩

theorem runs_then {job : Job α} {f : α → Job β} {before after : List Exchange} {a : α}
    {outcome : Outcome β} (first : Runs job before (.ok a)) (rest : Runs (f a) after outcome) :
    Runs (job >>= f) (before ++ after) outcome :=
  runs_bind.mpr (.inl ⟨before, a, after, rfl, first, rest⟩)

theorem steps_of_bind {job : Job α} {f : α → Job β} {before after : List Exchange} {a : α}
    {rest : Plan (Outcome β)} (first : Runs job before (.ok a))
    (begun : (ExceptT.run (job >>= f)).Steps (before ++ after) rest) :
    (ExceptT.run (f a)).Steps after rest :=
  Plan.Steps.of_bind (f := ExceptT.bindCont f) first begun

theorem call_then {call : Job α} {exchange : Outcome α → Exchange} {f : α → Job β}
    {trace : List Exchange} {outcome : Outcome β}
    (single : ∀ {trace reply}, Runs call trace reply → trace = [exchange reply])
    (run : Runs (call >>= f) trace outcome) :
    (∃ a later, trace = exchange (.ok a) :: later ∧ Runs (f a) later outcome) ∨
      ∃ fault, trace = [exchange (.error fault)] ∧ outcome = .error fault := by
  rcases runs_bind.mp run with ⟨before, a, after, split, first, rest⟩ | ⟨fault, first, failed⟩
  · have asked := single first
    subst asked
    exact .inl ⟨a, after, split, rest⟩
  · exact .inr ⟨fault, single first, failed⟩

theorem runs_map {job : Job α} {f : α → β} {trace : List Exchange} {outcome : Outcome β} :
    Runs (f <$> job) trace outcome ↔ ∃ reached, Runs job trace reached ∧ outcome = reached.map f := by
  rw [map_eq_pure_bind, runs_bind]
  simp only [runs_pure]
  constructor
  · intro ways
    rcases ways with ⟨before, a, after, split, first, empty, same⟩ | ⟨fault, first, same⟩
    · rw [empty, List.append_nil] at split
      exact ⟨.ok a, by rwa [split], same⟩
    · exact ⟨.error fault, first, same⟩
  · intro mapped
    obtain ⟨reached, first, same⟩ := mapped
    subst same
    cases reached with
    | ok a => exact .inl ⟨trace, a, [], by simp, first, rfl, rfl⟩
    | error fault => exact .inr ⟨fault, first, rfl⟩

theorem runs_plan {plan : Plan α} {trace : List Exchange} {outcome : Outcome α} :
    Runs (Job.plan plan) trace outcome ↔ ∃ a, Plan.Runs plan trace a ∧ outcome = .ok a := by
  have opened : Runs (Job.plan plan) trace outcome ↔ ∃ before a after,
      trace = before ++ after ∧ Plan.Runs plan before a ∧
      Plan.Runs (.done (.ok a)) after outcome := Plan.runs_bind
  rw [opened]
  constructor
  · intro parts
    obtain ⟨before, a, after, split, first, last⟩ := parts
    obtain ⟨empty, same⟩ := Plan.runs_done.mp last
    rw [empty, List.append_nil] at split
    exact ⟨a, by rwa [split], same⟩
  · intro planned
    obtain ⟨a, first, same⟩ := planned
    subst same
    exact ⟨trace, a, [], by simp, first, .refl _⟩

theorem recover_cases {caught : Fault → Bool} {job : Job α} {handler : Fault → Job α}
    {trace : List Exchange} {outcome : Outcome α} (run : Runs (recover caught job handler) trace outcome) :
    (∃ a, Runs job trace (.ok a) ∧ outcome = .ok a) ∨
      (∃ fault before after, trace = before ++ after ∧ Runs job before (.error fault) ∧
        caught fault = true ∧ Runs (handler fault) after outcome) ∨
      ∃ fault, Runs job trace (.error fault) ∧ caught fault = false ∧ outcome = .error fault := by
  rcases runs_bind.mp run with ⟨before, reached, after, split, tried, rest⟩ | ⟨fault, tried, _⟩
  · obtain ⟨_, first, same⟩ := runs_plan.mp tried
    cases same
    cases reached with
    | ok a =>
      obtain ⟨empty, same⟩ := runs_pure.mp rest
      rw [empty, List.append_nil] at split
      exact .inl ⟨a, by rwa [split], same⟩
    | error fault =>
      dsimp only at rest
      cases catches : caught fault with
      | true =>
        rw [catches, if_pos rfl] at rest
        exact .inr (.inl ⟨fault, before, after, split, first, catches, rest⟩)
      | false =>
        rw [catches, if_neg Bool.false_ne_true] at rest
        obtain ⟨empty, same⟩ := runs_throw.mp rest
        rw [empty, List.append_nil] at split
        exact .inr (.inr ⟨fault, by rwa [split], catches, same⟩)
  · obtain ⟨_, _, impossible⟩ := runs_plan.mp tried
    cases impossible

theorem recover_of_ok {caught : Fault → Bool} {job : Job α} {handler : Fault → Job α}
    {trace : List Exchange} {a : α} (run : Runs job trace (.ok a)) :
    Runs (recover caught job handler) trace (.ok a) := by
  have tried : Runs job.attempt trace (.ok (.ok a)) := runs_plan.mpr ⟨_, run, rfl⟩
  have ended : Runs (pure a) [] (.ok a) := runs_pure.mpr ⟨rfl, rfl⟩
  have whole : Runs (recover caught job handler) (trace ++ []) (.ok a) := runs_then tried ended
  rwa [List.append_nil] at whole

theorem recover_of_caught {caught : Fault → Bool} {job : Job α} {handler : Fault → Job α}
    {before after : List Exchange} {fault : Fault} {outcome : Outcome α}
    (run : Runs job before (.error fault)) (catches : caught fault = true)
    (handled : Runs (handler fault) after outcome) :
    Runs (recover caught job handler) (before ++ after) outcome := by
  have tried : Runs job.attempt before (.ok (.error fault)) := runs_plan.mpr ⟨_, run, rfl⟩
  apply runs_then tried
  dsimp only
  rwa [if_pos catches]

section Calls

variable {trace : List Exchange}

theorem runs_list {all : Bool} {outcome : Outcome (List Json)} :
    Runs (Job.list all) trace outcome ↔ trace = [⟨.list all, outcome⟩] := Plan.runs_perform

theorem runs_inspect {id : String} {outcome : Outcome Json} :
    Runs (Job.inspect id) trace outcome ↔ trace = [⟨.inspect id, outcome⟩] := Plan.runs_perform

theorem runs_remove {id : String} {force : Bool} {outcome : Outcome Unit} :
    Runs (Job.remove id force) trace outcome ↔ trace = [⟨.remove id force, outcome⟩] :=
  Plan.runs_perform

theorem runs_stop {id : Json} {grace : Int} {outcome : Outcome Unit} :
    Runs (Job.stop id grace) trace outcome ↔ trace = [⟨.stop id grace, outcome⟩] :=
  Plan.runs_perform

theorem runs_fetch {request : HttpRequest} {outcome : Outcome HttpResponse} :
    Runs (Job.fetch request) trace outcome ↔ trace = [⟨.fetch request, outcome⟩] :=
  Plan.runs_perform

theorem runs_log {entry : LogEntry} {outcome : Outcome Unit} :
    Runs (Job.log entry) trace outcome ↔ trace = [⟨.log entry, outcome⟩] := Plan.runs_perform

theorem log_return {entry : LogEntry} {a : α} {outcome : Outcome α}
    (run : Runs (do Job.log entry; return a) trace outcome) :
    ∃ logged, trace = [⟨.log entry, logged⟩] ∧ outcome = logged.map fun _ => a := by
  rcases call_then runs_log.mp run with ⟨_, later, split, rest⟩ | ⟨fault, split, failed⟩
  · obtain ⟨empty, same⟩ := runs_pure.mp rest
    exact ⟨.ok (), by rw [split, empty], same⟩
  · exact ⟨.error fault, split, failed⟩

theorem runs_rest {seconds : Float} {outcome : Outcome Unit} :
    Runs (Job.rest seconds) trace outcome ↔ trace = [⟨.rest seconds, outcome⟩] := Plan.runs_perform

theorem given_runs (effect : Effect) (reply : effect.Reply) :
    Runs (Job.plan (Plan.perform effect)) [⟨effect, reply⟩] (.ok reply) :=
  runs_plan.mpr ⟨reply, Plan.runs_perform.mpr rfl, rfl⟩

theorem runs_count {field : StatusField} {amount : Nat} {outcome : Outcome Unit} :
    Runs (Job.count field amount) trace outcome ↔
      trace = [⟨.count field amount, ()⟩] ∧ outcome = .ok () := by
  rw [Job.count, runs_plan]
  constructor
  · intro planned
    obtain ⟨_, run, same⟩ := planned
    exact ⟨Plan.runs_perform.mp run, same⟩
  · intro counted
    obtain ⟨asked, same⟩ := counted
    exact ⟨(), Plan.runs_perform.mpr asked, same⟩

theorem given_then {effect : Effect} {f : effect.Reply → Job α} {outcome : Outcome α}
    (run : Runs (Job.plan (Plan.perform effect) >>= f) trace outcome) :
    ∃ reply later, trace = ⟨effect, reply⟩ :: later ∧ Runs (f reply) later outcome := by
  rcases runs_bind.mp run with ⟨before, reply, after, split, first, last⟩ | ⟨fault, first, _⟩
  · obtain ⟨_, performed, same⟩ := runs_plan.mp first
    cases same
    exact ⟨reply, after, by rw [split, Plan.runs_perform.mp performed]; rfl, last⟩
  · obtain ⟨_, _, impossible⟩ := runs_plan.mp first
    cases impossible

end Calls

def Only (kind : Effect → Prop) (job : Job α) : Prop :=
  ∀ trace outcome, job.Runs trace outcome → ∀ exchange ∈ trace, kind exchange.1

namespace Only

variable {kind : Effect → Prop}

theorem pure (a : α) : Only kind (Pure.pure a : Job α) := by
  intro trace outcome run exchange member
  rw [(runs_pure.mp run).1] at member
  cases member

theorem throw (fault : Fault) : Only kind (MonadExcept.throw fault : Job α) := by
  intro trace outcome run exchange member
  rw [(runs_throw.mp run).1] at member
  cases member

theorem ofExcept (reached : Outcome α) : Only kind (Job.ofExcept reached) := by
  cases reached with
  | ok a => exact pure a
  | error fault => exact throw fault

theorem bind {job : Job α} {f : α → Job β} (first : Only kind job) (rest : ∀ a, Only kind (f a)) :
    Only kind (job >>= f) := by
  intro trace outcome run exchange member
  rcases runs_bind.mp run with ⟨before, a, after, split, begun, ended⟩ | ⟨fault, begun, _⟩
  · subst split
    rcases List.mem_append.mp member with member | member
    · exact first _ _ begun exchange member
    · exact rest a _ _ ended exchange member
  · exact first _ _ begun exchange member

theorem fetch {request : HttpRequest} (allowed : kind (.fetch request)) :
    Only kind (Job.fetch request) := by
  intro trace outcome run exchange member
  rw [runs_fetch.mp run, List.mem_singleton] at member
  subst member
  exact allowed

theorem call {call : Job α} {exchange : Outcome α → Exchange}
    (single : ∀ {trace reply}, Runs call trace reply → trace = [exchange reply])
    (allowed : ∀ reply, kind (exchange reply).1) : Only kind call := by
  intro trace outcome run asked member
  rw [single run, List.mem_singleton] at member
  subst member
  exact allowed outcome

theorem recover {caught : Fault → Bool} {job : Job α} {handler : Fault → Job α} (own : Only kind job)
    (rest : ∀ fault, Only kind (handler fault)) : Only kind (Job.recover caught job handler) := by
  intro trace outcome run exchange member
  rcases recover_cases run with
    ⟨_, tried, _⟩ | ⟨fault, before, after, split, tried, _, handled⟩ | ⟨_, tried, _⟩
  · exact own _ _ tried exchange member
  · subst split
    rcases List.mem_append.mp member with member | member
    · exact own _ _ tried exchange member
    · exact rest fault _ _ handled exchange member
  · exact own _ _ tried exchange member

end Only

/-- Work done on items one after another, which ends with the first failure. What is known of the
    work on one item is given by its exchanges and its outcome. -/
inductive Each (one : ι → List Exchange → Outcome β → Prop) :
    List ι → List Exchange → Outcome (List β) → Prop where
  | nil : Each one [] [] (.ok [])
  | next {item : ι} {rest : List ι} {before after : List Exchange} {result : β}
      {outcome : Outcome (List β)} (first : one item before (.ok result))
      (others : Each one rest after outcome) :
      Each one (item :: rest) (before ++ after) (outcome.map (result :: ·))
  | stop {item : ι} {rest : List ι} {trace : List Exchange} {fault : Fault}
      (failed : one item trace (.error fault)) : Each one (item :: rest) trace (.error fault)

namespace Each

variable {one : ι → List Exchange → Outcome β → Prop} {items : List ι} {trace : List Exchange}

/-- Every exchange belongs to the work on one item, which is all that came directly before it and, if
    that work fails, all that comes after it. -/
theorem around {outcome : Outcome (List β)} {before after : List Exchange} {exchange : Exchange}
    (each : Each one items trace outcome) (split : trace = before ++ exchange :: after) :
    ∃ item ∈ items, ∃ earlier later reached, one item (earlier ++ exchange :: later) reached ∧
      earlier <:+ before ∧ later <+: after ∧
      ∀ fault, reached = .error fault → later = after ∧ outcome = .error fault := by
  induction each generalizing before after with
  | nil => simp at split
  | @next item rest own others result outcome first each ih =>
    rcases List.append_eq_append_iff.mp split with ⟨gap, rfl, rest⟩ | ⟨gap, rfl, rest⟩
    · obtain ⟨item, member, earlier, later, reached, done, begins, ends, last⟩ := ih rest
      refine ⟨item, by simp [member], earlier, later, reached, done,
        begins.trans (List.suffix_append _ _), ends, fun fault failed => ?_⟩
      obtain ⟨same, ended⟩ := last fault failed
      exact ⟨same, by rw [ended]; rfl⟩
    · cases gap with
      | nil =>
        have same : others = [] ++ exchange :: after := rest.symm
        obtain ⟨item, member, earlier, later, reached, done, begins, ends, last⟩ := ih same
        have empty := List.suffix_nil.mp begins
        refine ⟨item, by simp [member], earlier, later, reached, done, by simp [empty], ends,
          fun fault failed => ?_⟩
        obtain ⟨same, ended⟩ := last fault failed
        exact ⟨same, by rw [ended]; rfl⟩
      | cons head gap =>
        obtain ⟨rfl, rfl⟩ := List.cons.inj rest
        exact ⟨item, by simp, before, gap, _, first, List.suffix_rfl, List.prefix_append _ _, nofun⟩
  | @stop item rest trace fault failed =>
    subst split
    refine ⟨item, by simp, before, after, _, failed, List.suffix_rfl, List.prefix_rfl, ?_⟩
    intro other same
    cases same
    exact ⟨rfl, rfl⟩

theorem at_exchange {outcome : Outcome (List β)} {before after : List Exchange} {exchange : Exchange}
    (each : Each one items trace outcome) (split : trace = before ++ exchange :: after) :
    ∃ item ∈ items, ∃ earlier later reached,
      one item (earlier ++ exchange :: later) reached ∧ earlier <:+ before := by
  obtain ⟨item, member, earlier, later, reached, done, begins, -, -⟩ := each.around split
  exact ⟨item, member, earlier, later, reached, done, begins⟩

theorem of_mem {results : List β} (each : Each one items trace (.ok results)) {item : ι}
    (member : item ∈ items) : ∃ own result, one item own (.ok result) ∧ own ⊆ trace := by
  generalize same : Except.ok results = outcome at each
  induction each generalizing results with
  | nil => simp at member
  | @next head rest before after result outcome first others ih =>
    cases outcome with
    | error fault => cases same
    | ok results =>
      rcases List.mem_cons.mp member with rfl | member
      · exact ⟨before, result, first, List.subset_append_left _ _⟩
      · obtain ⟨own, result, done, within⟩ := ih member rfl
        exact ⟨own, result, done, List.subset_append_of_subset_right _ within⟩
  | stop failed => cases same

theorem of_error {fault : Fault} (each : Each one items trace (.error fault)) :
    ∃ item ∈ items, ∃ own, one item own (.error fault) ∧ own <:+ trace := by
  generalize same : Except.error fault = outcome at each
  induction each with
  | nil => cases same
  | @next head rest before after result outcome first others ih =>
    cases outcome with
    | ok results => cases same
    | error other =>
      cases same
      obtain ⟨item, member, own, failed, ends⟩ := ih rfl
      exact ⟨item, by simp [member], own, failed, ends.trans (List.suffix_append _ _)⟩
  | @stop item rest trace fault failed =>
    cases same
    exact ⟨item, by simp, trace, failed, List.suffix_rfl⟩

end Each

end Job

end ContainerWarden
