import ContainerWarden.Guard
import ContainerWarden.Proofs.Cadence.Waits
import ContainerWarden.Proofs.Duplicate.Trace

namespace ContainerWarden

namespace Duplicate

variable {settings : Settings} {trace : List Exchange}

def AfterListing : Effect → Prop
  | .stop _ _ | .count .dedupPasses _ | .count .duplicatesStopped _ => True
  | .log row => ∃ id, row = announcement id ∨ ∃ fault, row = stopFailure id fault
  | _ => False

theorem Stops.afterListing {id : Json} {outcome : Outcome Unit} (stops : Stops id trace outcome) :
    ∀ exchange ∈ trace, AfterListing exchange.1 := by
  have announced : AfterListing (.log (announcement id)) := ⟨id, .inl rfl⟩
  cases stops with
  | unannounced fault => simpa using announced
  | stopped =>
    simp only [List.forall_mem_cons]
    exact ⟨announced, trivial, trivial, List.forall_mem_nil _⟩
  | @failed fault =>
    have reported : AfterListing (.log (stopFailure id fault)) := ⟨id, .inr ⟨fault, rfl⟩⟩
    simp only [List.forall_mem_cons]
    exact ⟨announced, trivial, reported, List.forall_mem_nil _⟩
  | broken =>
    simp only [List.forall_mem_cons]
    exact ⟨announced, trivial, List.forall_mem_nil _⟩

theorem listing_first {outcome : Outcome (List Json)} (run : (pass settings).Runs trace outcome) :
    ∃ reply rest, trace = ⟨.list true, reply⟩ :: rest ∧ ∀ exchange ∈ rest, AfterListing exchange.1 := by
  cases pass_exchanges run with
  | unlisted fault => exact ⟨_, [], rfl, List.forall_mem_nil _⟩
  | unreadable => exact ⟨_, [], rfl, List.forall_mem_nil _⟩
  | @checked records summaries stopping results read each =>
    refine ⟨_, _, rfl, ?_⟩
    intro exchange member
    rcases List.mem_cons.mp member with rfl | member
    · trivial
    · obtain ⟨before, after, split⟩ := List.append_of_mem member
      obtain ⟨_, _, earlier, later, _, stops, _⟩ := each.at_exchange split
      exact stops.afterListing exchange (by simp)

theorem stopFailure_message (id : Json) (fault : Fault) :
    (stopFailure id fault).message =
      .str ("Failed to stop duplicate metadata/dns service: " ++ (id.text ++ ": " ++ fault.message)) := by
  simp only [stopFailure, LogEntry.error, String.append_assoc]

end Duplicate

namespace Guard

theorem checkFailure_message (fault : Fault) :
    (∃ rest, (checkFailure fault).message = .str ("Failed to check for bad metadata: " ++ rest)) ∨
      ∃ rest, (checkFailure fault).message = .str ("Dedup tick failed: " ++ rest) := by
  by_cases runtime : fault.isRuntime = true
  · have shown := congrArg Json.str (if_pos runtime : (if fault.isRuntime then
      "Failed to check for bad metadata: " ++ fault.message
      else "Dedup tick failed: " ++ fault.headline) = _)
    exact .inl ⟨fault.message, shown⟩
  · have shown := congrArg Json.str (if_neg runtime : (if fault.isRuntime then
      "Failed to check for bad metadata: " ++ fault.message
      else "Dedup tick failed: " ++ fault.headline) = _)
    exact .inr ⟨fault.headline, shown⟩

theorem intervalFailure_message {τ : Type} [Seconds τ] (cadence : Cadence τ) (fault : Fault) :
    (intervalFailure cadence fault).message =
      .str ("Poll interval failed, using " ++ (Seconds.written cadence.max ++ "s: " ++ fault.message)) := by
  simp only [intervalFailure, LogEntry.error, String.append_assoc]

def isGranted : Exchange → Bool
  | ⟨.log _, .error _⟩ | ⟨.rest _, .error _⟩ => false
  | _ => true

def checkRows : Outcome α → List Exchange
  | .ok _ => []
  | .error fault => [⟨.log (checkFailure fault), .ok ()⟩]

theorem log_granted {entry : LogEntry} {trace : List Exchange} {outcome : Outcome Unit}
    (run : (Job.log entry).Runs trace outcome) (granted : ∀ exchange ∈ trace, isGranted exchange = true) :
    trace = [⟨.log entry, .ok ()⟩] ∧ outcome = .ok () := by
  obtain rfl := Job.runs_log.mp run
  cases outcome with
  | ok _ => exact ⟨rfl, rfl⟩
  | error fault =>
    have impossible := granted ⟨.log entry, .error fault⟩ (List.mem_singleton_self _)
    cases impossible

theorem check_exchanges {settings : Settings} {trace : List Exchange} {outcome : Outcome Unit}
    (run : (check settings).Runs trace outcome) (granted : ∀ exchange ∈ trace, isGranted exchange = true) :
    ∃ own reached, (Duplicate.pass settings).Runs own reached ∧ trace = own ++ checkRows reached ∧
      outcome = .ok () := by
  rcases Job.recover_cases run with
    ⟨_, tried, same⟩ | ⟨fault, before, after, split, tried, _, handled⟩ | ⟨_, _, uncaught, _⟩
  · obtain ⟨own, ids, after, split, passed, rest⟩ | ⟨_, _, impossible⟩ := Job.runs_bind.mp tried
    · obtain ⟨empty, -⟩ := Job.runs_pure.mp rest
      exact ⟨own, .ok ids, passed, by rw [split, empty, checkRows], same⟩
    · cases impossible
  · obtain ⟨_, _, _, _, _, rest⟩ | ⟨_, passed, failed⟩ := Job.runs_bind.mp tried
    · cases (Job.runs_pure.mp rest).2
    · cases failed
      have own : ∀ exchange ∈ after, isGranted exchange = true := by
        intro exchange member
        exact granted exchange (by simp [split, member])
      obtain ⟨row, done⟩ := log_granted handled own
      exact ⟨before, .error fault, passed, by rw [split, row, checkRows], done⟩
  · cases uncaught

theorem check_runs {settings : Settings} {own : List Exchange} {reached : Outcome (List Json)}
    (passed : (Duplicate.pass settings).Runs own reached) :
    (check settings).Runs (own ++ checkRows reached) (.ok ()) := by
  cases reached with
  | ok ids =>
    have tried : Job.Runs (do let _ ← Duplicate.pass settings) (own ++ []) (.ok ()) :=
      Job.runs_then passed (Job.runs_pure.mpr ⟨rfl, rfl⟩)
    exact Job.recover_of_ok tried
  | error fault =>
    have tried : Job.Runs (do let _ ← Duplicate.pass settings) own (.error fault) :=
      Job.runs_bind.mpr (.inr ⟨fault, passed, rfl⟩)
    exact Job.recover_of_caught tried rfl (Job.runs_log.mpr rfl)

section Rounds

variable {τ : Type} [OfNat τ 1] [Mul τ] [LT τ] [DecidableLT τ] [Seconds τ]
  {settings : Settings} {limit : Nat} {cadence : Cadence τ} {trace : List Exchange}

def intervalRows (cadence : Cadence τ) : List Exchange :=
  match cadence.next with
  | .ok _ => []
  | .error fault => [⟨.log (intervalFailure cadence fault), .ok ()⟩]

/-- The wait is shown in the status before it is taken, whether it could be computed or not. -/
theorem nextWait_exchanges {outcome : Outcome (τ × Cadence τ)}
    (run : (nextWait cadence).Runs trace outcome)
    (granted : ∀ exchange ∈ trace, isGranted exchange = true) :
    trace = intervalRows cadence ++ [⟨.assign .dedupInterval (Seconds.shown cadence.wait.1), ()⟩] ∧
      outcome = .ok cadence.wait := by
  unfold nextWait at run
  unfold intervalRows
  cases computed : cadence.next with
  | ok next =>
    rw [computed] at run
    obtain ⟨_, later, split, rest⟩ := Job.given_then run
    obtain ⟨empty, same⟩ := Job.runs_pure.mp rest
    rw [Cadence.wait_of_next computed, split, empty, same]
    exact ⟨rfl, rfl⟩
  | error fault =>
    rw [computed] at run
    rcases Job.call_then Job.runs_log.mp run with ⟨_, later, split, rest⟩ | ⟨refusal, split, _⟩
    · obtain ⟨_, nothing, assigned, ended⟩ := Job.given_then rest
      obtain ⟨empty, same⟩ := Job.runs_pure.mp ended
      rw [Cadence.wait_of_failed computed, split, assigned, empty, same]
      exact ⟨rfl, rfl⟩
    · have impossible := granted ⟨.log (intervalFailure cadence fault), .error refusal⟩ (by simp [split])
      cases impossible

theorem assign_runs (value : Json) :
    (Job.assign .dedupInterval value).Runs [⟨.assign .dedupInterval value, ()⟩] (.ok ()) :=
  Job.given_runs (.assign .dedupInterval value) ()

theorem nextWait_runs (cadence : Cadence τ) :
    (nextWait cadence).Runs
      (intervalRows cadence ++ [⟨.assign .dedupInterval (Seconds.shown cadence.wait.1), ()⟩])
      (.ok cadence.wait) := by
  unfold nextWait intervalRows
  cases computed : cadence.next with
  | ok next =>
    rw [Cadence.wait_of_next computed]
    dsimp only
    rw [List.nil_append]
    exact Job.runs_then (assign_runs _) (Job.runs_pure.mpr ⟨rfl, rfl⟩)
  | error fault =>
    rw [Cadence.wait_of_failed computed]
    apply Job.runs_then (Job.runs_log.mpr rfl)
    exact Job.runs_then (assign_runs _) (Job.runs_pure.mpr ⟨rfl, rfl⟩)

/-- What comes before the wait of a round: the check, of which a pass is given with its outcome, and the
    computation of the wait. -/
def round (cadence : Cadence τ) (own : List Exchange) (reached : Outcome (List Json)) : List Exchange :=
  own ++ checkRows reached ++ intervalRows cadence ++
    [⟨.assign .dedupInterval (Seconds.shown cadence.wait.1), ()⟩]

theorem tick_exchanges {outcome : Outcome (τ × Cadence τ)} (run : (tick settings cadence).Runs trace outcome)
    (granted : ∀ exchange ∈ trace, isGranted exchange = true) :
    ∃ own reached, (Duplicate.pass settings).Runs own reached ∧ trace = round cadence own reached ∧
      outcome = .ok cadence.wait := by
  rcases Job.runs_bind.mp run with ⟨before, _, after, split, checked, rest⟩ | ⟨fault, checked, _⟩
  · subst split
    obtain ⟨first, second⟩ := List.forall_mem_append.mp granted
    obtain ⟨own, reached, passed, rfl, -⟩ := check_exchanges checked first
    obtain ⟨rfl, same⟩ := nextWait_exchanges rest second
    refine ⟨own, reached, passed, ?_, same⟩
    simp only [round, List.append_assoc]
  · obtain ⟨_, _, _, _, impossible⟩ := check_exchanges checked granted
    cases impossible

theorem tick_runs {own : List Exchange} {reached : Outcome (List Json)}
    (passed : (Duplicate.pass settings).Runs own reached) :
    (tick settings cadence).Runs (round cadence own reached) (.ok cadence.wait) := by
  have whole : (tick settings cadence).Runs (own ++ checkRows reached ++ (intervalRows cadence ++ _))
      (.ok cadence.wait) := Job.runs_then (check_runs passed) (nextWait_runs cadence)
  rwa [← List.append_assoc] at whole

theorem stopping_runs (stops : Bool) : Job.stopping.Runs [⟨.stopping, stops⟩] (.ok stops) :=
  Job.given_runs .stopping stops

/-- A loop that has rounds left ends at once if it is to stop, and otherwise goes through a round and takes
    its wait. -/
theorem loop_exchanges {outcome : Outcome (Cadence τ)}
    (run : (loop settings (limit + 1) cadence).Runs trace outcome)
    (granted : ∀ exchange ∈ trace, isGranted exchange = true) :
    (trace = [⟨.stopping, true⟩] ∧ outcome = .ok cadence) ∨
      ∃ own reached later, (Duplicate.pass settings).Runs own reached ∧
        trace = ⟨.stopping, false⟩ :: (round cadence own reached ++ later) ∧
        (Seconds.rest cadence.wait.1 >>= fun _ => loop settings limit cadence.wait.2).Runs later outcome := by
  obtain ⟨stops, later, split, rest⟩ := Job.given_then run
  subst split
  have others := (List.forall_mem_cons.mp granted).2
  cases stops with
  | true =>
    obtain ⟨empty, same⟩ := Job.runs_pure.mp rest
    rw [empty]
    exact .inl ⟨rfl, same⟩
  | false =>
    rcases Job.runs_bind.mp rest with ⟨before, next, after, split, ticked, looping⟩ | ⟨fault, ticked, _⟩
    · subst split
      obtain ⟨first, -⟩ := List.forall_mem_append.mp others
      obtain ⟨own, reached, passed, rfl, same⟩ := tick_exchanges ticked first
      cases same
      exact .inr ⟨own, reached, after, passed, rfl, looping⟩
    · obtain ⟨_, _, _, _, impossible⟩ := tick_exchanges ticked others
      cases impossible

def rounds (seconds : τ → Float) (cadence : Cadence τ) :
    List (List Exchange × Outcome (List Json)) → List Exchange
  | [] => []
  | (own, reached) :: passes =>
    ⟨.stopping, false⟩ :: (round cadence own reached ++
      ⟨.rest (seconds cadence.wait.1), .ok ()⟩ :: rounds seconds cadence.wait.2 passes)

def ending (stops : Bool) : List Exchange := if stops then [⟨.stopping, true⟩] else []

structure Course (seconds : τ → Float) (settings : Settings) (limit : Nat) (cadence : Cadence τ)
    (passes : List (List Exchange × Outcome (List Json))) (stops : Bool) (trace : List Exchange)
    (outcome : Outcome (Cadence τ)) : Prop where
  passed : ∀ pass ∈ passes, (Duplicate.pass settings).Runs pass.1 pass.2
  steps : trace = rounds seconds cadence passes ++ ending stops
  returned : outcome = .ok (cadence.after passes.length)
  ends : if stops then passes.length < limit else passes.length = limit

variable {seconds : τ → Float} {passes : List (List Exchange × Outcome (List Json))}
  {stops : Bool}

theorem Course.cons {own : List Exchange} {reached : Outcome (List Json)} {outcome : Outcome (Cadence τ)}
    (course : Course seconds settings limit cadence.wait.2 passes stops trace outcome)
    (passed : (Duplicate.pass settings).Runs own reached) :
    Course seconds settings (limit + 1) cadence ((own, reached) :: passes) stops
      (⟨.stopping, false⟩ :: (round cadence own reached ++
        ⟨.rest (seconds cadence.wait.1), .ok ()⟩ :: trace)) outcome where
  passed := List.forall_mem_cons.mpr ⟨passed, course.passed⟩
  steps := by simp only [course.steps, rounds, List.append_assoc, List.cons_append]
  returned := course.returned
  ends := by
    have others := course.ends
    cases stops with
    | true => exact Nat.succ_lt_succ others
    | false => exact congrArg Nat.succ others

theorem loop_course {outcome : Outcome (Cadence τ)}
    (run : (loop settings limit cadence).Runs trace outcome)
    (rests : ∀ n, Seconds.rest (cadence.waitAt n) = Job.rest (seconds (cadence.waitAt n)))
    (granted : ∀ exchange ∈ trace, isGranted exchange = true) :
    ∃ passes stops, Course seconds settings limit cadence passes stops trace outcome := by
  -- The cadence goes on with the rounds: what the waits are from the next one on is `rests` shifted by one.
  induction limit generalizing cadence trace with
  | zero =>
    obtain ⟨empty, same⟩ := Job.runs_pure.mp run
    exact ⟨[], false, List.forall_mem_nil _, empty, same, rfl⟩
  | succ limit ih =>
    rcases loop_exchanges run granted with ⟨split, same⟩ | ⟨own, reached, later, passed, split, looping⟩
    · exact ⟨[], true, List.forall_mem_nil _, split, same, Nat.succ_pos limit⟩
    · have first : Seconds.rest cadence.wait.1 = Job.rest (seconds cadence.wait.1) := rests 0
      rw [first] at looping
      rcases Job.call_then Job.runs_rest.mp looping with
        ⟨_, others, rested, rest⟩ | ⟨refusal, rested, _⟩
      · subst split rested
        have remaining : ∀ exchange ∈ others, isGranted exchange = true := by
          intro exchange member
          apply granted
          simp [member]
        obtain ⟨passes, stops, course⟩ := ih rest (fun n => rests (n + 1)) remaining
        exact ⟨_, stops, course.cons passed⟩
      · have impossible := granted ⟨.rest (seconds cadence.wait.1), .error refusal⟩ (by
          simp [split, rested])
        cases impossible

/-- There is a run for every course: whatever the passes come to, and wherever the loop is stopped. -/
theorem Course.runs {outcome : Outcome (Cadence τ)}
    (course : Course seconds settings limit cadence passes stops trace outcome)
    (rests : ∀ n, Seconds.rest (cadence.waitAt n) = Job.rest (seconds (cadence.waitAt n))) :
    (loop settings limit cadence).Runs trace outcome := by
  obtain ⟨passed, rfl, rfl, ends⟩ := course
  induction passes generalizing cadence limit with
  | nil =>
    cases stops with
    | true =>
      obtain ⟨others, rfl⟩ := Nat.exists_eq_add_one.mpr ends
      have stopped : (loop settings (others + 1) cadence).Runs ([⟨.stopping, true⟩] ++ []) (.ok cadence) :=
        Job.runs_then (stopping_runs true) (Job.runs_pure.mpr ⟨rfl, rfl⟩)
      exact stopped
    | false =>
      obtain rfl : 0 = limit := ends
      exact .refl _
  | cons pass passes ih =>
    obtain ⟨first, others⟩ := List.forall_mem_cons.mp passed
    have more : 0 < limit := by
      cases stops with
      | true => exact Nat.zero_lt_of_lt ends
      | false => exact ends ▸ Nat.succ_pos _
    obtain ⟨limit, rfl⟩ := Nat.exists_eq_add_one.mpr more
    have remaining : if stops then passes.length < limit else passes.length = limit := by
      cases stops with
      | true => exact Nat.lt_of_succ_lt_succ ends
      | false => exact Nat.succ.inj ends
    have looping := ih (fun n => rests (n + 1)) others remaining
    have resting : (Seconds.rest cadence.wait.1 >>= fun _ => loop settings limit cadence.wait.2).Runs
        (⟨.rest (seconds cadence.wait.1), .ok ()⟩ ::
          (rounds seconds cadence.wait.2 passes ++ ending stops))
        (.ok (cadence.wait.2.after passes.length)) := by
      have single : Seconds.rest cadence.wait.1 = Job.rest (seconds cadence.wait.1) := rests 0
      rw [single]
      exact Job.runs_then (Job.runs_rest.mpr rfl) looping
    rw [rounds, List.cons_append, List.append_assoc]
    apply Job.runs_then (stopping_runs false)
    exact Job.runs_then (tick_runs first) resting

theorem run_exchanges {outcome : Outcome (Cadence τ)} (run : (run settings limit cadence).Runs trace outcome)
    (granted : ∀ exchange ∈ trace, isGranted exchange = true) :
    ∃ later, trace = ⟨.log beginning, .ok ()⟩ :: later ∧
      (loop settings limit cadence).Runs later outcome := by
  rcases Job.call_then Job.runs_log.mp run with ⟨_, later, split, rest⟩ | ⟨refusal, split, _⟩
  · exact ⟨later, split, rest⟩
  · have impossible := granted ⟨.log beginning, .error refusal⟩ (by simp [split])
    cases impossible

end Rounds

end Guard

end ContainerWarden
