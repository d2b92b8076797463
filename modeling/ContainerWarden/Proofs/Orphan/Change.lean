import ContainerWarden.Proofs.Orphan.Calls

namespace ContainerWarden

def Effect.isOfPass : Effect → Bool
  | .fetch _ | .inspect _ | .remove _ _ | .log _ | .count .containersRemoved _ => true
  | _ => false

namespace Orphan

variable {settings : Settings} {trace : List Exchange}

theorem Discards.isOfPass {container : DesiredContainer} {outcome : Outcome Bool}
    (discards : Discards container trace outcome) :
    ∀ exchange ∈ trace, exchange.1.isOfPass = true := by
  cases discards <;> simp [Effect.isOfPass]

theorem Treats.isOfPass {container : DesiredContainer} {outcome : Outcome Bool}
    (treats : Treats settings container trace outcome) :
    ∀ exchange ∈ trace, exchange.1.isOfPass = true := by
  cases treats with
  | unseen | broken | agent => simp [Effect.isOfPass]
  | discarded named other discards =>
    exact List.forall_mem_cons.mpr ⟨rfl, discards.isOfPass⟩

theorem treatAll_only (containers : List DesiredContainer) :
    Job.Only (·.isOfPass = true) (treatAll settings containers) := by
  intro trace outcome run exchange member
  obtain ⟨results, each, _⟩ := treatAll_exchanges run
  obtain ⟨before, after, split⟩ := List.append_of_mem member
  obtain ⟨_, _, earlier, later, _, treats, _⟩ := each.at_exchange split
  exact treats.isOfPass exchange (by simp)

theorem pass_exchanges {outcome : Outcome (List String)} (run : (pass settings).Runs trace outcome) :
    (∃ before after host records, trace = before ++ after ∧
      (fetch settings).Runs before (.ok (host, records)) ∧
      (treatAll settings (eligible settings host records)).Runs after outcome) ∨
    ∃ fault, (fetch settings).Runs trace (.error fault) ∧ outcome = .error fault := by
  rw [pass_eq] at run
  rcases Job.runs_bind.mp run with ⟨before, ⟨host, records⟩, after, split, first, rest⟩ | failed
  · exact .inl ⟨before, after, host, records, split, first, rest⟩
  · exact .inr failed

theorem pass_only (settings : Settings) : Job.Only (·.isOfPass = true) (pass settings) := by
  rw [pass_eq]
  refine Job.Only.bind ?_ fun found => treatAll_only _
  intro trace outcome run exchange member
  have fetched := fetch_only settings _ _ run exchange member
  obtain ⟨effect, reply⟩ := exchange
  cases effect
  case fetch request => rfl
  all_goals cases fetched

theorem counted_of_pass {outcome : Outcome (List String)} (run : (pass settings).Runs trace outcome)
    (field : StatusField) (other : field ≠ .containersRemoved) : counted field trace = 0 := by
  have steps := pass_only settings trace outcome run
  clear run
  induction trace with
  | nil => rfl
  | cons exchange trace ih =>
    obtain ⟨own, steps⟩ := List.forall_mem_cons.mp steps
    have rest := ih steps
    obtain ⟨effect, reply⟩ := exchange
    cases effect
    case count counter amount =>
      cases counter
      case containersRemoved => simp [counted, other.symm, rest]
      all_goals cases own
    all_goals exact rest

def changeFailure (fault : Fault) : LogEntry :=
  .error component ("Failed to watch for orphan containers: " ++ fault.message) .null

inductive Changes (settings : Settings) (version : Json) :
    List Exchange → Outcome (List String) → Prop where
  | returned {trace : List Exchange} {removed : List String}
      (pass : (pass settings).Runs trace (.ok removed)) :
      Changes settings version
        (⟨.assign .metadataVersion version, ()⟩ :: (trace ++ [⟨.count .reconcilePasses 1, ()⟩]))
        (.ok removed)
  | failed {trace : List Exchange} {fault : Fault} (pass : (pass settings).Runs trace (.error fault))
      (known : fault.isMetadata = true) (logged : Outcome Unit) :
      Changes settings version
        (⟨.assign .metadataVersion version, ()⟩ ::
          (trace ++ [⟨.count .reconcileFailures 1, ()⟩, ⟨.log (changeFailure fault), logged⟩]))
        (logged.map fun _ => [])
  | broken {trace : List Exchange} {fault : Fault} (pass : (pass settings).Runs trace (.error fault))
      (unknown : fault.isMetadata = false) :
      Changes settings version (⟨.assign .metadataVersion version, ()⟩ :: trace) (.error fault)

theorem onChange_exchanges {version : Json} {outcome : Outcome (List String)}
    (run : (onChange settings version).Runs trace outcome) :
    Changes settings version trace outcome := by
  obtain ⟨_, later, split, rest⟩ := Job.given_then run
  subst split
  rcases Job.runs_bind.mp rest with ⟨before, reached, after, split, tried, ended⟩ | ⟨_, tried, _⟩
  · obtain ⟨_, first, same⟩ := Job.runs_plan.mp tried
    cases same
    subst split
    cases reached with
    | ok removed =>
      obtain ⟨_, nothing, counted, returned⟩ := Job.given_then ended
      obtain ⟨empty, same⟩ := Job.runs_pure.mp returned
      rw [counted, empty, same]
      exact .returned first
    | error fault =>
      dsimp only at ended
      cases known : fault.isMetadata with
      | true =>
        rw [known, if_pos rfl] at ended
        obtain ⟨_, written, counted, logging⟩ := Job.given_then ended
        obtain ⟨logged, row, same⟩ := Job.log_return logging
        rw [counted, row, same]
        exact .failed first known logged
      | false =>
        rw [known, if_neg Bool.false_ne_true] at ended
        obtain ⟨empty, same⟩ := Job.runs_throw.mp ended
        rw [empty, same, List.append_nil]
        exact .broken first known
  · obtain ⟨_, _, impossible⟩ := Job.runs_plan.mp tried
    cases impossible

end Orphan

end ContainerWarden
