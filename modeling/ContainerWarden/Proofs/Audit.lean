import ContainerWarden.Proofs.Duplicate.Trace
import ContainerWarden.Proofs.Orphan.Change

namespace ContainerWarden

structure LogEntry.Announces (row : LogEntry) (component : String) (id : Json) : Prop where
  level : row.level = .str "INFO"
  component : row.component = .str component
  containerId : row.containerId = id

structure LogEntry.Reports (row : LogEntry) (component : String) (id : Json) : Prop where
  level : row.level = .str "ERROR"
  component : row.component = .str component
  containerId : row.containerId = id

theorem Exchange.after_others {kind : Effect → Prop} {first rest before after : List Exchange}
    {exchange : Exchange} (own : ∀ exchange ∈ first, kind exchange.1) (foreign : ¬ kind exchange.1)
    (split : before ++ exchange :: after = first ++ rest) :
    ∃ gap, before = first ++ gap ∧ rest = gap ++ exchange :: after := by
  rcases List.append_eq_append_iff.mp split with ⟨gap, rfl, tail⟩ | ⟨gap, rfl, tail⟩
  · cases gap with
    | nil => exact ⟨[], by simp, tail.symm⟩
    | cons head gap =>
      obtain ⟨rfl, -⟩ := List.cons.inj tail
      exact absurd (own exchange (by simp)) foreign
  · exact ⟨gap, rfl, tail⟩

namespace Orphan

structure Audited (settings : Settings) (trace : List Exchange) (rest : Plan (Outcome α)) : Prop where
  preceded : ∀ before id force reply after, trace = before ++ ⟨.remove id force, reply⟩ :: after →
    ∃ seen name row, Runtime.nameIn seen = .ok name ∧ name.isText settings.agentName = false ∧
      row.Announces component (.str id) ∧ [⟨.inspect id, seen⟩, ⟨.log row, .ok ()⟩] <:+ before
  followed : ∀ before row id after, row.Announces component (.str id) →
    trace = before ++ ⟨.log row, .ok ()⟩ :: after → Plan.Next after rest (.remove id true)
  reported : ∀ before id force fault after,
    trace = before ++ ⟨.remove id force, .error fault⟩ :: after →
      fault.isRuntime = true → fault.isGone = false →
        ∃ row, row.Reports component (.str id) ∧ Plan.Next after rest (.log row)
  refused : ∀ before row refusal after, trace = before ++ ⟨.log row, .error refusal⟩ :: after →
    Plan.Over after rest (.error refusal)
  spared : ∀ id grace reply, ⟨.stop id grace, reply⟩ ∉ trace

variable {settings : Settings} {container : DesiredContainer} {before after earlier later : List Exchange}

theorem Discards.after_remove {id : String} {force : Bool} {fault : Fault} {outcome : Outcome Bool}
    (discards : Discards container (earlier ++ ⟨.remove id force, .error fault⟩ :: later) outcome)
    (runtime : fault.isRuntime = true) (there : fault.isGone = false) :
    ∃ logged, later = [⟨.log (removeFailure container fault), logged⟩] := by
  generalize split : earlier ++ ⟨.remove id force, .error fault⟩ :: later = trace at discards
  cases discards with
  | unannounced => rcases earlier with _ | ⟨_, _⟩ <;> simp at split
  | away left =>
    rcases earlier with _ | ⟨_, _ | ⟨_, _ | ⟨_, _⟩⟩⟩ <;> simp at split
    obtain ⟨-, ⟨-, rfl⟩, -⟩ := split
    cases left.symm.trans there
  | @stayed other =>
    rcases earlier with _ | ⟨_, _ | ⟨_, _ | ⟨_, _⟩⟩⟩ <;> simp at split
    obtain ⟨-, ⟨-, rfl⟩, rfl⟩ := split
    exact ⟨_, rfl⟩
  | broken uncaught =>
    rcases earlier with _ | ⟨_, _ | ⟨_, _ | ⟨_, _⟩⟩⟩ <;> simp at split
    obtain ⟨-, ⟨-, rfl⟩, -⟩ := split
    cases runtime.symm.trans uncaught

theorem Discards.after_row {row : LogEntry} {outcome : Outcome Bool}
    (discards : Discards container (earlier ++ ⟨.log row, .ok ()⟩ :: later) outcome)
    (info : row.level = .str "INFO") :
    row = announcement container ∧
      ∃ reply further, later = ⟨.remove container.externalId true, reply⟩ :: further := by
  generalize split : earlier ++ ⟨.log row, .ok ()⟩ :: later = trace at discards
  cases discards with
  | unannounced => rcases earlier with _ | ⟨_, _⟩ <;> simp at split
  | away | broken =>
    rcases earlier with _ | ⟨_, _ | ⟨_, _ | ⟨_, _⟩⟩⟩ <;> simp at split
    obtain ⟨rfl, rfl⟩ := split
    exact ⟨rfl, _, _, rfl⟩
  | stayed =>
    rcases earlier with _ | ⟨_, _ | ⟨_, _ | ⟨_, _⟩⟩⟩ <;> simp at split
    · obtain ⟨rfl, rfl⟩ := split
      exact ⟨rfl, _, _, rfl⟩
    · obtain ⟨-, -, ⟨rfl, -⟩, -⟩ := split
      simp [removeFailure, LogEntry.error] at info

theorem Discards.refused {row : LogEntry} {refusal : Fault} {outcome : Outcome Bool}
    (discards : Discards container (earlier ++ ⟨.log row, .error refusal⟩ :: later) outcome) :
    later = [] ∧ outcome = .error refusal := by
  generalize split : earlier ++ ⟨.log row, .error refusal⟩ :: later = trace at discards
  cases discards with
  | unannounced =>
    rcases earlier with _ | ⟨_, _⟩ <;> simp at split
    obtain ⟨⟨-, rfl⟩, rfl⟩ := split
    exact ⟨rfl, rfl⟩
  | away | broken => rcases earlier with _ | ⟨_, _ | ⟨_, _ | ⟨_, _⟩⟩⟩ <;> simp at split
  | stayed =>
    rcases earlier with _ | ⟨_, _ | ⟨_, _ | ⟨_, _⟩⟩⟩ <;> simp at split
    obtain ⟨-, -, ⟨-, rfl⟩, rfl⟩ := split
    exact ⟨rfl, rfl⟩

/-- Beside the inspection, all exchanges at a container that is not spared are those of its removal. -/
theorem Treats.discarding {exchange : Exchange} {outcome : Outcome Bool}
    (treats : Treats settings container (earlier ++ exchange :: later) outcome) :
    (∃ reply, exchange = ⟨.inspect container.externalId, reply⟩) ∨
      (∃ fault logged, exchange = ⟨.log (inspectFailure container fault), logged⟩ ∧ later = [] ∧
        outcome = logged.map fun _ => false) ∨
      ∃ seen before, earlier = ⟨.inspect container.externalId, seen⟩ :: before ∧
        Discards container (before ++ exchange :: later) outcome := by
  generalize split : earlier ++ exchange :: later = trace at treats
  cases treats with
  | unseen =>
    rcases earlier with _ | ⟨_, _ | ⟨_, _⟩⟩ <;> simp at split
    · exact .inl ⟨_, split.1⟩
    · obtain ⟨-, rfl, rfl⟩ := split
      exact .inr (.inl ⟨_, _, rfl, rfl, rfl⟩)
  | broken | agent =>
    rcases earlier with _ | ⟨_, _⟩ <;> simp at split
    exact .inl ⟨_, split.1⟩
  | discarded named other discards =>
    cases earlier with
    | nil => exact .inl ⟨_, (List.cons.inj split).1⟩
    | cons head before =>
      obtain ⟨rfl, rfl⟩ := List.cons.inj split
      exact .inr (.inr ⟨_, before, rfl, discards⟩)

theorem Treats.after_row {row : LogEntry} {outcome : Outcome Bool}
    (treats : Treats settings container (earlier ++ ⟨.log row, .ok ()⟩ :: later) outcome)
    (info : row.level = .str "INFO") :
    row = announcement container ∧
      ∃ reply further, later = ⟨.remove container.externalId true, reply⟩ :: further := by
  rcases treats.discarding with ⟨_, impossible⟩ | ⟨_, _, failed, _⟩ | ⟨_, _, _, discards⟩
  · cases impossible
  · cases failed
    simp [inspectFailure, LogEntry.error] at info
  · exact discards.after_row info

theorem Treats.after_remove {id : String} {force : Bool} {fault : Fault} {outcome : Outcome Bool}
    (treats : Treats settings container (earlier ++ ⟨.remove id force, .error fault⟩ :: later) outcome)
    (runtime : fault.isRuntime = true) (there : fault.isGone = false) :
    ∃ logged, later = [⟨.log (removeFailure container fault), logged⟩] := by
  rcases treats.discarding with ⟨_, impossible⟩ | ⟨_, _, impossible, _⟩ | ⟨_, _, _, discards⟩
  · cases impossible
  · cases impossible
  · exact discards.after_remove runtime there

theorem Treats.refused {row : LogEntry} {refusal : Fault} {outcome : Outcome Bool}
    (treats : Treats settings container (earlier ++ ⟨.log row, .error refusal⟩ :: later) outcome) :
    later = [] ∧ outcome = .error refusal := by
  rcases treats.discarding with ⟨_, impossible⟩ | ⟨_, _, failed, last, ended⟩ | ⟨_, _, _, discards⟩
  · cases impossible
  · cases failed
    exact ⟨last, ended⟩
  · exact discards.refused

theorem treats_around {exchange : Exchange} {outcome : Outcome (List String)}
    (run : (pass settings).Runs (before ++ exchange :: after) outcome) (foreign : ¬ exchange.1.IsFetch) :
    ∃ container earlier later reached,
      Treats settings container (earlier ++ exchange :: later) reached ∧ earlier <:+ before ∧
      later <+: after ∧ ∀ fault, reached = .error fault → later = after ∧ outcome = .error fault := by
  rcases pass_exchanges run with ⟨fetching, treating, _, _, split, fetched, rest⟩ | ⟨_, fetched, _⟩
  · obtain ⟨gap, rfl, tail⟩ := Exchange.after_others (fetch_only settings _ _ fetched) foreign split
    obtain ⟨results, each, ended⟩ := treatAll_exchanges rest
    obtain ⟨container, -, earlier, later, reached, treats, begins, ends, last⟩ := each.around tail
    refine ⟨container, earlier, later, reached, treats, begins.trans (List.suffix_append _ _), ends,
      fun fault failed => ?_⟩
    obtain ⟨same, failed⟩ := last fault failed
    exact ⟨same, by rw [ended, failed]; rfl⟩
  · exact absurd (fetch_only settings _ _ fetched exchange (by simp)) foreign

theorem pass_audited {trace : List Exchange} {rest : Plan (Outcome (List String))}
    (begun : (ExceptT.run (pass settings)).Steps trace rest) : Audited settings trace rest := by
  constructor
  case preceded =>
    intro before id force reply after split
    obtain ⟨later, outcome, run⟩ := begun.completes
    rw [split, List.append_assoc] at run
    obtain ⟨container, earlier, _, _, treats, begins, -⟩ := treats_around run nofun
    obtain ⟨rfl, seen, name, named, other, rfl⟩ := treats.before_remove
    exact ⟨seen, name, announcement container, named, other, ⟨rfl, rfl, rfl⟩, begins⟩
  case followed =>
    intro before row id after announces split
    subst split
    refine begun.next fun later outcome run => ?_
    obtain ⟨container, _, own, _, treats, _, ends, -⟩ := treats_around run nofun
    obtain ⟨rfl, reply, further, rfl⟩ := treats.after_row announces.level
    obtain ⟨others, rfl⟩ := ends
    cases announces.containerId
    exact ⟨reply, _, rfl⟩
  case reported =>
    intro before id force fault after split runtime there
    refine ⟨.error component ("Remove failed: " ++ fault.message) (.str id), ⟨rfl, rfl, rfl⟩, ?_⟩
    subst split
    refine begun.next fun later outcome run => ?_
    obtain ⟨container, _, own, _, treats, _, ends, -⟩ := treats_around run nofun
    obtain ⟨rfl, -⟩ := treats.before_remove
    obtain ⟨logged, rfl⟩ := treats.after_remove runtime there
    obtain ⟨others, rfl⟩ := ends
    exact ⟨logged, _, rfl⟩
  case refused =>
    intro before row refusal after split
    subst split
    refine begun.over fun later outcome run => ?_
    obtain ⟨container, _, own, reached, treats, _, _, last⟩ := treats_around run nofun
    obtain ⟨rfl, failed⟩ := treats.refused
    obtain ⟨empty, ended⟩ := last refusal failed
    exact ⟨empty.symm, ended⟩
  case spared =>
    intro id grace reply member
    obtain ⟨later, outcome, run⟩ := begun.completes
    cases pass_only settings _ _ run _ (List.mem_append_left _ member)

end Orphan

namespace Duplicate

structure Audited (trace : List Exchange) (rest : Plan (Outcome α)) : Prop where
  preceded : ∀ before id grace reply after, trace = before ++ ⟨.stop id grace, reply⟩ :: after →
    ∃ row, row.Announces component id ∧ [⟨.log row, .ok ()⟩] <:+ before
  followed : ∀ before row id after, row.Announces component id →
    trace = before ++ ⟨.log row, .ok ()⟩ :: after → Plan.Next after rest (.stop id 0)
  reported : ∀ before id grace fault after, trace = before ++ ⟨.stop id grace, .error fault⟩ :: after →
    fault.isRuntime = true → ∃ row, row.Reports component id ∧ Plan.Next after rest (.log row)
  refused : ∀ before row refusal after, trace = before ++ ⟨.log row, .error refusal⟩ :: after →
    Plan.Over after rest (.error refusal)
  spared : ∀ id force reply, ⟨.remove id force, reply⟩ ∉ trace

variable {settings : Settings} {id : Json} {before after earlier later : List Exchange}

theorem Stops.after_row {row : LogEntry} {outcome : Outcome Unit}
    (stops : Stops id (earlier ++ ⟨.log row, .ok ()⟩ :: later) outcome)
    (info : row.level = .str "INFO") :
    row = announcement id ∧ ∃ reply further, later = ⟨.stop id 0, reply⟩ :: further := by
  generalize split : earlier ++ ⟨.log row, .ok ()⟩ :: later = trace at stops
  cases stops with
  | unannounced => rcases earlier with _ | ⟨_, _⟩ <;> simp at split
  | stopped | broken =>
    rcases earlier with _ | ⟨_, _ | ⟨_, _ | ⟨_, _⟩⟩⟩ <;> simp at split
    obtain ⟨rfl, rfl⟩ := split
    exact ⟨rfl, _, _, rfl⟩
  | failed =>
    rcases earlier with _ | ⟨_, _ | ⟨_, _ | ⟨_, _⟩⟩⟩ <;> simp at split
    · obtain ⟨rfl, rfl⟩ := split
      exact ⟨rfl, _, _, rfl⟩
    · obtain ⟨-, -, ⟨rfl, -⟩, -⟩ := split
      simp [stopFailure, LogEntry.error] at info

theorem Stops.after_stop {other : Json} {grace : Int} {fault : Fault} {outcome : Outcome Unit}
    (stops : Stops id (earlier ++ ⟨.stop other grace, .error fault⟩ :: later) outcome)
    (runtime : fault.isRuntime = true) : ∃ logged, later = [⟨.log (stopFailure id fault), logged⟩] := by
  generalize split : earlier ++ ⟨.stop other grace, .error fault⟩ :: later = trace at stops
  cases stops with
  | unannounced => rcases earlier with _ | ⟨_, _⟩ <;> simp at split
  | stopped => rcases earlier with _ | ⟨_, _ | ⟨_, _ | ⟨_, _⟩⟩⟩ <;> simp at split
  | failed =>
    rcases earlier with _ | ⟨_, _ | ⟨_, _ | ⟨_, _⟩⟩⟩ <;> simp at split
    obtain ⟨-, ⟨-, rfl⟩, rfl⟩ := split
    exact ⟨_, rfl⟩
  | broken uncaught =>
    rcases earlier with _ | ⟨_, _ | ⟨_, _ | ⟨_, _⟩⟩⟩ <;> simp at split
    obtain ⟨-, ⟨-, rfl⟩, -⟩ := split
    cases runtime.symm.trans uncaught

theorem Stops.refused {row : LogEntry} {refusal : Fault} {outcome : Outcome Unit}
    (stops : Stops id (earlier ++ ⟨.log row, .error refusal⟩ :: later) outcome) :
    later = [] ∧ outcome = .error refusal := by
  generalize split : earlier ++ ⟨.log row, .error refusal⟩ :: later = trace at stops
  cases stops with
  | unannounced =>
    rcases earlier with _ | ⟨_, _⟩ <;> simp at split
    obtain ⟨⟨-, rfl⟩, rfl⟩ := split
    exact ⟨rfl, rfl⟩
  | stopped | broken => rcases earlier with _ | ⟨_, _ | ⟨_, _ | ⟨_, _⟩⟩⟩ <;> simp at split
  | failed =>
    rcases earlier with _ | ⟨_, _ | ⟨_, _ | ⟨_, _⟩⟩⟩ <;> simp at split
    obtain ⟨-, -, ⟨-, rfl⟩, rfl⟩ := split
    exact ⟨rfl, rfl⟩

theorem Stops.spared {other : String} {force : Bool} {reply : Outcome Unit} {outcome : Outcome Unit}
    (stops : Stops id (earlier ++ ⟨.remove other force, reply⟩ :: later) outcome) : False := by
  generalize split : earlier ++ ⟨.remove other force, reply⟩ :: later = trace at stops
  cases stops with
  | unannounced => rcases earlier with _ | ⟨_, _⟩ <;> simp at split
  | stopped | failed | broken => rcases earlier with _ | ⟨_, _ | ⟨_, _ | ⟨_, _⟩⟩⟩ <;> simp at split

def IsOpening : Effect → Prop
  | .list _ | .count _ _ => True
  | _ => False

theorem stops_around {exchange : Exchange} {outcome : Outcome (List Json)}
    (run : (pass settings).Runs (before ++ exchange :: after) outcome)
    (foreign : ¬ IsOpening exchange.1) :
    ∃ id earlier later reached, Stops id (earlier ++ exchange :: later) reached ∧
      earlier <:+ before ∧ later <+: after ∧
      ∀ fault, reached = .error fault → later = after ∧ outcome = .error fault := by
  generalize split : before ++ exchange :: after = trace at run
  have opening (first rest : List Exchange) (own : ∀ exchange ∈ first, IsOpening exchange.1)
      (whole : trace = first ++ rest) := Exchange.after_others own foreign (split.trans whole)
  cases pass_exchanges run with
  | unlisted | unreadable =>
    obtain ⟨gap, -, impossible⟩ := opening _ _ (by simp [IsOpening]) (List.append_nil _).symm
    simp at impossible
  | @checked records summaries stopping results read each =>
    obtain ⟨gap, rfl, tail⟩ := opening [_, _] stopping (by simp [IsOpening]) rfl
    obtain ⟨id, -, earlier, later, reached, stops, begins, ends, last⟩ := each.around tail
    refine ⟨id, earlier, later, reached, stops, begins.trans (List.suffix_append _ _), ends,
      fun fault failed => ?_⟩
    obtain ⟨same, failed⟩ := last fault failed
    exact ⟨same, by rw [failed]; rfl⟩

theorem pass_audited {trace : List Exchange} {rest : Plan (Outcome (List Json))}
    (begun : (ExceptT.run (pass settings)).Steps trace rest) : Audited trace rest := by
  constructor
  case preceded =>
    intro before id grace reply after split
    obtain ⟨later, outcome, run⟩ := begun.completes
    rw [split, List.append_assoc] at run
    obtain ⟨id, earlier, _, _, stops, begins, -⟩ := stops_around run (by simp [IsOpening])
    obtain ⟨rfl, rfl⟩ := stops.before_stop
    exact ⟨announcement _, ⟨rfl, rfl, rfl⟩, begins⟩
  case followed =>
    intro before row id after announces split
    subst split
    refine begun.next fun later outcome run => ?_
    obtain ⟨_, _, own, _, stops, _, ends, -⟩ := stops_around run (by simp [IsOpening])
    obtain ⟨rfl, reply, further, rfl⟩ := stops.after_row announces.level
    obtain ⟨others, rfl⟩ := ends
    cases announces.containerId
    exact ⟨reply, _, rfl⟩
  case reported =>
    intro before id grace fault after split runtime
    refine ⟨stopFailure id fault, ⟨rfl, rfl, rfl⟩, ?_⟩
    subst split
    refine begun.next fun later outcome run => ?_
    obtain ⟨_, _, own, _, stops, _, ends, -⟩ := stops_around run (by simp [IsOpening])
    obtain ⟨rfl, -⟩ := stops.before_stop
    obtain ⟨logged, rfl⟩ := stops.after_stop runtime
    obtain ⟨others, rfl⟩ := ends
    exact ⟨logged, _, rfl⟩
  case refused =>
    intro before row refusal after split
    subst split
    refine begun.over fun later outcome run => ?_
    obtain ⟨_, _, own, reached, stops, _, _, last⟩ := stops_around run (by simp [IsOpening])
    obtain ⟨rfl, failed⟩ := stops.refused
    obtain ⟨empty, ended⟩ := last refusal failed
    exact ⟨empty.symm, ended⟩
  case spared =>
    intro id force reply member
    obtain ⟨before, after, split⟩ := List.append_of_mem member
    obtain ⟨later, outcome, run⟩ := begun.completes
    rw [split, List.append_assoc] at run
    obtain ⟨_, _, _, _, stops, -⟩ := stops_around run (by simp [IsOpening])
    exact stops.spared

end Duplicate

/-- At every moment of every pass, no call that destroys or stops a container lacks its row. -/
theorem destructive_calls_audited (settings : Settings) :
    (∀ trace rest, (ExceptT.run (Orphan.pass settings)).Steps trace rest →
      Orphan.Audited settings trace rest) ∧
    ∀ trace rest, (ExceptT.run (Duplicate.pass settings)).Steps trace rest →
      Duplicate.Audited trace rest :=
  ⟨fun _ _ => Orphan.pass_audited, fun _ _ => Duplicate.pass_audited⟩

def stuckStray : World :=
  { Orphan.twoStrays "web" with failures.remove := [("d1", .reported .apiError "busy")] }

def doubledService : World where
  containers := ["new", "old"].map fun id =>
    .obj [("Id", .str id), ("State", .str "running"),
      ("Labels", .obj [("io.rancher.container.uuid", .str id),
        ("io.rancher.stack_service.name", .str "network-services/metadata")])]

theorem destructive_calls_audited_of_stuckStray :
    let removing := (Orphan.pass {}).history World.answer stuckStray
    let stopping := (Duplicate.pass {}).history World.answer doubledService
    (runtimeCalls removing).length = 4 ∧ (runtimeCalls stopping).length = 2 ∧
      Orphan.Audited {} removing (.done ((Orphan.pass {}).run World.answer stuckStray).1) ∧
      Duplicate.Audited stopping (.done ((Duplicate.pass {}).run World.answer doubledService).1) := by
  intro removing stopping
  refine ⟨by decide +kernel, by decide +kernel, ?_, ?_⟩
  · exact (destructive_calls_audited {}).1 _ _ (Job.runs_history World.answer (Orphan.pass {}) stuckStray)
  · exact (destructive_calls_audited {}).2 _ _
      (Job.runs_history World.answer (Duplicate.pass {}) doubledService)

end ContainerWarden
