import ContainerWarden.Proofs.Plan.Trace
import ContainerWarden.Proofs.Watcher.Conservation

namespace ContainerWarden

structure WatchWork (τ α : Type) where
  watcher : Watcher τ
  left : Nat → Option (Plan (Outcome α))
  /-- The exchanges of all callbacks with the numbers of these, newest first. -/
  history : List (Nat × Exchange) := []

/-- Moves that the callback itself decides on: when it begins and how it ends. -/
def WatchMove.isOfCallback : WatchMove τ → Bool
  | .start _ | .conclude _ _ => true
  | _ => false

inductive WorkMove (τ : Type) where
  | watch (move : WatchMove τ)
  | start (number : Nat)
  | advance (number : Nat) (reply : (effect : Effect) → effect.Reply)
  | conclude (number : Nat)

namespace WatchWork

variable {τ α : Type}

def resume (left : Nat → Option (Plan (Outcome α))) (number : Nat) (plan : Plan (Outcome α)) :
    Nat → Option (Plan (Outcome α)) :=
  fun other => if other = number then some plan else left other

theorem resume_self (left : Nat → Option (Plan (Outcome α))) (number : Nat) (plan : Plan (Outcome α)) :
    resume left number plan number = some plan := if_pos rfl

theorem resume_of_ne {number other : Nat} (different : other ≠ number)
    (left : Nat → Option (Plan (Outcome α))) (plan : Plan (Outcome α)) :
    resume left number plan other = left other := if_neg different

def exchangesOf (number : Nat) (history : List (Nat × Exchange)) : List Exchange :=
  ((history.filter (·.1 == number)).map (·.2)).reverse

theorem exchangesOf_cons_self (number : Nat) (exchange : Exchange) (history : List (Nat × Exchange)) :
    exchangesOf number ((number, exchange) :: history) = exchangesOf number history ++ [exchange] := by
  simp [exchangesOf]

theorem exchangesOf_cons_of_ne {number other : Nat} (different : other ≠ number) (exchange : Exchange)
    (history : List (Nat × Exchange)) :
    exchangesOf other ((number, exchange) :: history) = exchangesOf other history := by
  simp [exchangesOf, Ne.symm different]

theorem mem_exchangesOf {number : Nat} {exchange : Exchange} {history : List (Nat × Exchange)} :
    exchange ∈ exchangesOf number history ↔ (number, exchange) ∈ history := by
  simp [exchangesOf]

variable {callback : String → Plan (Outcome α)} {work : WatchWork τ α}

def stageOf (work : WatchWork τ α) (number : Nat) : Option Stage :=
  (work.watcher.callbacks.task? number).map Callback.stage

def Progress (plan : Plan (Outcome α)) (trace : List Exchange) (left : Option (Plan (Outcome α))) :
    Option Stage → Prop
  | some .waiting => trace = []
  | some .running => ∃ rest, left = some rest ∧ plan.Steps trace rest
  | _ => ∃ outcome, plan.Runs trace outcome

/-- Each callback has gone its own way as far as its stage says, whatever the others did in between. -/
structure Traced (callback : String → Plan (Outcome α)) (work : WatchWork τ α) : Prop where
  ledger : work.watcher.callbacks.Ledger Callback.version work.watcher.submitted
  known : ∀ entry ∈ work.history, entry.1 < work.watcher.callbacks.accepted
  progress : ∀ number version, work.watcher.submitted.reverse[number]? = some version →
    Progress (callback version) (exchangesOf number work.history) (work.left number)
      (work.stageOf number)

theorem Traced.own (traced : Traced callback work) {number : Nat} {version : String} {stage : Stage}
    (found : work.watcher.callbacks.task? number = some ⟨version, stage⟩) :
    Progress (callback version) (exchangesOf number work.history) (work.left number) (some stage) := by
  have entry := traced.ledger.entry (number, ⟨version, stage⟩) (Pool.mem_of_task? found)
  have progress := traced.progress number version entry
  rwa [stageOf, found] at progress

theorem Traced.setStage (traced : Traced callback work) {number : Nat} {version : String}
    {before stage : Stage} {left : Nat → Option (Plan (Outcome α))}
    (found : work.watcher.callbacks.task? number = some ⟨version, before⟩)
    (others : ∀ other, other ≠ number → left other = work.left other)
    (own : Progress (callback version) (exchangesOf number work.history) (left number) (some stage)) :
    Traced callback { work with watcher := work.watcher.setStage number version stage, left } := by
  refine ⟨traced.ledger.update found rfl, traced.known, ?_⟩
  intro other submitted entry
  by_cases same : other = number
  · subst same
    have mine := traced.ledger.entry (other, ⟨version, before⟩) (Pool.mem_of_task? found)
    cases entry.symm.trans mine
    have stages : stageOf { work with watcher := work.watcher.setStage other version stage, left } other =
        some stage := congrArg (Option.map Callback.stage) (Pool.task?_update found _)
    rw [stages]
    exact own
  · have stages : stageOf { work with watcher := work.watcher.setStage number version stage, left } other =
        work.stageOf other := congrArg (Option.map Callback.stage) (Pool.task?_update_of_ne same _)
    rw [stages]
    show Progress _ _ (left other) _
    rw [others other same]
    exact traced.progress other submitted entry

theorem Traced.submit (traced : Traced callback work) (version : String) (phase : WatchPhase τ) :
    Traced callback { work with watcher := { work.watcher with
      phase
      callbacks := work.watcher.callbacks.accept { version }
      submitted := version :: work.watcher.submitted } } := by
  have accepted : work.watcher.submitted.reverse.length = work.watcher.callbacks.accepted := by
    rw [List.length_reverse, traced.ledger.length]
  refine ⟨traced.ledger.accept { version }, ?_, ?_⟩
  · intro entry member
    exact Nat.lt_succ_of_lt (traced.known entry member)
  · intro number submitted entry
    unfold stageOf
    dsimp only at entry ⊢
    rw [List.reverse_cons] at entry
    rw [Pool.task?_accept]
    by_cases last : number = work.watcher.callbacks.accepted
    · rw [if_pos last]
      refine List.eq_nil_iff_forall_not_mem.mpr fun exchange member => ?_
      exact Nat.ne_of_lt (traced.known _ (mem_exchangesOf.mp member)) last
    · rw [if_neg last]
      have bound := (List.getElem?_eq_some_iff.mp entry).1
      rw [List.length_append, accepted, List.length_singleton] at bound
      rw [List.getElem?_append_left (by omega)] at entry
      exact traced.progress number submitted entry

theorem Traced.release (traced : Traced callback work) {number : Nat} {version : String}
    {outcome : Outcome Unit}
    (found : work.watcher.callbacks.task? number = some ⟨version, .settled outcome⟩) (slots : Slots) :
    Traced callback { work with watcher := { work.watcher with
      slots
      callbacks := work.watcher.callbacks.finish number } } := by
  refine ⟨traced.ledger.finish number, traced.known, ?_⟩
  intro other submitted entry
  have progress := traced.progress other submitted entry
  unfold stageOf at progress ⊢
  dsimp only
  rw [Pool.task?_finish]
  by_cases same : other = number
  · subst same
    rw [found] at progress
    rwa [if_pos rfl]
  · rwa [if_neg same]

theorem Traced.advance (traced : Traced callback work) {number : Nat} {version : String}
    {effect : Effect} {rest : effect.Reply → Plan (Outcome α)} (reply : effect.Reply)
    (found : work.watcher.callbacks.task? number = some ⟨version, .running⟩)
    (due : work.left number = some (.ask effect rest)) :
    Traced callback { work with
      left := resume work.left number (rest reply)
      history := (number, ⟨effect, reply⟩) :: work.history } := by
  refine ⟨traced.ledger, ?_, ?_⟩
  · intro entry member
    rcases List.mem_cons.mp member with rfl | earlier
    · exact Pool.task?_lt found
    · exact traced.known entry earlier
  · intro other submitted entry
    have progress := traced.progress other submitted entry
    unfold stageOf at progress ⊢
    dsimp only at entry ⊢
    by_cases same : other = number
    · subst same
      rw [found] at progress ⊢
      obtain ⟨plan, same, begun⟩ := progress
      rw [exchangesOf_cons_self, resume_self]
      cases due.symm.trans same
      exact ⟨_, rfl, begun.snoc reply⟩
    · rwa [exchangesOf_cons_of_ne same, resume_of_ne same]

variable [OfNat τ 0] [Sub τ] [LT τ] [LE τ] [DecidableLT τ] [DecidableLE τ]

def fresh (policy : WatchPolicy τ) (now : τ) : WatchWork τ α where
  watcher := Watcher.fresh policy now
  left := fun _ => none

def step (callback : String → Plan (Outcome α)) (policy : WatchPolicy τ) (work : WatchWork τ α) :
    WorkMove τ → Option (WatchWork τ α)
  | .watch move =>
    if move.isOfCallback then none
    else (work.watcher.step policy move).map fun watcher => { work with watcher }
  | .start number =>
    match work.watcher.callbacks.task? number with
    | some ⟨version, .waiting⟩ => some { work with
        watcher := work.watcher.setStage number version .running
        left := resume work.left number (callback version) }
    | _ => none
  | .advance number reply =>
    match work.watcher.callbacks.task? number, work.left number with
    | some ⟨_, .running⟩, some (.ask effect next) => some { work with
        left := resume work.left number (next (reply effect))
        history := (number, ⟨effect, reply effect⟩) :: work.history }
    | _, _ => none
  | .conclude number =>
    match work.watcher.callbacks.task? number, work.left number with
    | some ⟨version, .running⟩, some (.done outcome) => some { work with
        watcher := work.watcher.setStage number version (.concluded (outcome.map fun _ => ())) }
    | _, _ => none

inductive Turn (callback : String → Plan (Outcome α)) (policy : WatchPolicy τ) (work : WatchWork τ α) :
    WorkMove τ → WatchWork τ α → Prop where
  | watch {move watcher} (turn : Watcher.Turn policy work.watcher move watcher)
      (other : move.isOfCallback = false) :
      Turn callback policy work (.watch move) { work with watcher }
  | start {number version} (found : work.watcher.callbacks.task? number = some ⟨version, .waiting⟩) :
      Turn callback policy work (.start number) { work with
        watcher := work.watcher.setStage number version .running
        left := resume work.left number (callback version) }
  | advance {number version effect next} (reply : (effect : Effect) → effect.Reply)
      (found : work.watcher.callbacks.task? number = some ⟨version, .running⟩)
      (due : work.left number = some (.ask effect next)) :
      Turn callback policy work (.advance number reply) { work with
        left := resume work.left number (next (reply effect))
        history := (number, ⟨effect, reply effect⟩) :: work.history }
  | conclude {number version outcome}
      (found : work.watcher.callbacks.task? number = some ⟨version, .running⟩)
      (done : work.left number = some (.done outcome)) :
      Turn callback policy work (.conclude number) { work with
        watcher := work.watcher.setStage number version (.concluded (outcome.map fun _ => ())) }

variable {policy : WatchPolicy τ} {next : WatchWork τ α} {move : WorkMove τ}

theorem turn_of_step (moved : work.step callback policy move = some next) :
    Turn callback policy work move next := by
  cases move with
  | watch move =>
    simp only [step] at moved
    split at moved
    · cases moved
    · rename_i other
      obtain ⟨watcher, stepped, rfl⟩ := Option.map_eq_some_iff.mp moved
      exact .watch (Watcher.turn_of_step stepped) (Bool.eq_false_iff.mpr other)
  | start number =>
    simp only [step] at moved
    split at moved
    · rename_i found
      cases moved
      exact .start found
    · cases moved
  | advance number reply =>
    simp only [step] at moved
    split at moved
    · rename_i found due
      cases moved
      exact .advance reply found due
    · cases moved
  | conclude number =>
    simp only [step] at moved
    split at moved
    · rename_i found done
      cases moved
      exact .conclude found done
    · cases moved

theorem conserved_of_run {start : τ} {moves : List (WorkMove τ)}
    (run : follow (step callback policy) (fresh policy start) moves = some work) :
    Watcher.Conserved policy.slots work.watcher := by
  refine follow_induction (motive := fun _ work => Watcher.Conserved policy.slots work.watcher)
    (Watcher.conserved_fresh start) ?_ run
  intro before state move next _ kept moved
  cases turn_of_step moved with
  | watch turn => exact kept.turn turn
  | start | conclude => exact kept.setStage ..
  | advance => exact kept

theorem Traced.turn (traced : Traced callback work) (turn : Turn callback policy work move next) :
    Traced callback next := by
  cases turn with
  | watch turn other =>
    cases turn with
    | start => cases other
    | conclude => cases other
    | submit => exact traced.submit _ _
    | record found =>
      have finished : ∃ outcome, Plan.Runs _ _ outcome := traced.own found
      exact traced.setStage found (fun _ _ => rfl) finished
    | release found => exact traced.release found _
    | _ => exact ⟨traced.ledger, traced.known, traced.progress⟩
  | start found =>
    have nothing : exchangesOf _ work.history = [] := traced.own found
    refine traced.setStage found (fun _ different => resume_of_ne different _ _) ?_
    rw [nothing]
    exact ⟨_, resume_self _ _ _, .refl _⟩
  | advance reply found due => exact traced.advance (reply _) found due
  | @conclude number version outcome found done =>
    obtain ⟨rest, left, begun⟩ := traced.own found
    cases done.symm.trans left
    refine traced.setStage found (fun _ _ => rfl) ?_
    cases outcome with
    | ok a => exact ⟨_, begun⟩
    | error fault => exact ⟨_, begun⟩

theorem traced_of_run {start : τ} {moves : List (WorkMove τ)}
    (run : follow (step callback policy) (fresh policy start) moves = some work) :
    Traced callback work := by
  refine follow_induction (motive := fun _ work => Traced callback work)
    ⟨Pool.ledger_empty, fun _ member => absurd member List.not_mem_nil, ?_⟩
    (fun _ _ _ _ _ traced moved => traced.turn (turn_of_step moved)) run
  intro number version entry
  cases entry

end WatchWork

end ContainerWarden
