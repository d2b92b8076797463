import ContainerWarden.Orphan
import ContainerWarden.Proofs.Plan.Trace

namespace ContainerWarden

namespace Runtime

def nameIn : Outcome Json → Outcome Json
  | .ok (.obj members) => .ok ((members.lookup "Name").getD (.str ""))
  | .ok other => .error (.noAttribute other.typeName "get")
  | .error fault => .error fault

theorem name_exchanges {id : String} {trace : List Exchange} {outcome : Outcome Json}
    (run : (name id).Runs trace outcome) :
    ∃ reply, trace = [⟨.inspect id, reply⟩] ∧ outcome = nameIn reply := by
  rcases Job.call_then Job.runs_inspect.mp run with ⟨record, later, split, rest⟩ | ⟨fault, split, failed⟩
  · refine ⟨.ok record, ?_⟩
    cases record
    case obj members =>
      obtain ⟨empty, named⟩ := Job.runs_pure.mp rest
      exact ⟨by rw [split, empty], named⟩
    all_goals
      obtain ⟨empty, failed⟩ := Job.runs_throw.mp rest
      exact ⟨by rw [split, empty], failed⟩
  · exact ⟨.error fault, split, failed⟩

def isAway : Outcome Unit → Bool
  | .ok () => true
  | .error fault => fault.isGone

theorem remove_exchanges {id : String} {force : Bool} {trace : List Exchange}
    {outcome : Outcome Bool} (run : (remove id force).Runs trace outcome) :
    ∃ reply, trace = [⟨.remove id force, reply⟩] ∧
      ((isAway reply = true ∧ ∃ there, outcome = .ok there) ∨
        ∃ fault, reply = .error fault ∧ fault.isGone = false ∧ outcome = .error fault) := by
  have call {trace : List Exchange} {outcome : Outcome Bool}
      (run : Job.Runs (do Job.remove id force; return true) trace outcome) :
      ∃ reply, trace = [⟨.remove id force, reply⟩] ∧ outcome = reply.map fun _ => true := by
    rcases Job.call_then Job.runs_remove.mp run with ⟨_, later, split, rest⟩ | ⟨fault, split, failed⟩
    · obtain ⟨empty, same⟩ := Job.runs_pure.mp rest
      exact ⟨.ok (), by rw [split, empty], same⟩
    · exact ⟨.error fault, split, failed⟩
  rcases Job.recover_cases run with
    ⟨there, first, same⟩ | ⟨fault, before, after, split, first, gone, rest⟩ | ⟨fault, first, kept, same⟩
  · obtain ⟨reply, asked, answered⟩ := call first
    cases reply with
    | ok _ => exact ⟨_, asked, .inl ⟨rfl, there, same⟩⟩
    | error fault => cases answered
  · obtain ⟨reply, asked, answered⟩ := call first
    cases reply with
    | ok _ => cases answered
    | error other =>
      cases answered
      obtain ⟨empty, same⟩ := Job.runs_pure.mp rest
      exact ⟨.error fault, by rw [split, asked, empty]; rfl, .inl ⟨gone, false, same⟩⟩
  · obtain ⟨reply, asked, answered⟩ := call first
    cases reply with
    | ok _ => cases answered
    | error other =>
      cases answered
      exact ⟨_, asked, .inr ⟨fault, rfl, kept, same⟩⟩

end Runtime

namespace Orphan

def Disowned (settings : Settings) (host : HostIdentity) (record : DesiredContainer) : Prop :=
  record.hostUuid = host.uuid ∧ record.labels.get? settings.uuidLabel ≠ some (.str record.uuid)

theorem selects_iff {settings : Settings} {host : HostIdentity} {record : DesiredContainer} :
    (record.hostUuid == host.uuid && record.isOrphan settings) = true ↔
      Disowned settings host record := by
  unfold Disowned
  rw [ne_eq, ← Labels.holds_iff]
  simp [DesiredContainer.isOrphan]

theorem mem_eligible {settings : Settings} {host : HostIdentity} {records : List DesiredContainer}
    {record : DesiredContainer} :
    record ∈ eligible settings host records ↔ record ∈ records ∧ Disowned settings host record := by
  rw [eligible, List.mem_filter, selects_iff]

theorem eligible_cons_of_disowned {settings : Settings} {host : HostIdentity}
    {record : DesiredContainer} (own : Disowned settings host record)
    (records : List DesiredContainer) :
    eligible settings host (record :: records) = record :: eligible settings host records :=
  List.filter_cons_of_pos (selects_iff.mpr own)

theorem eligible_cons_of_spared {settings : Settings} {host : HostIdentity}
    {record : DesiredContainer} (spared : ¬ Disowned settings host record)
    (records : List DesiredContainer) :
    eligible settings host (record :: records) = eligible settings host records :=
  List.filter_cons_of_neg (spared ∘ selects_iff.mp)

def announcement (container : DesiredContainer) : LogEntry :=
  .info component
    ("Removing unmanaged container " ++ container.name ++ " " ++ container.externalId)
    (.str container.externalId)

def inspectFailure (container : DesiredContainer) (fault : Fault) : LogEntry :=
  .error component ("Inspect failed: " ++ fault.message) (.str container.externalId)

def removeFailure (container : DesiredContainer) (fault : Fault) : LogEntry :=
  .error component ("Remove failed: " ++ fault.message) (.str container.externalId)

inductive Discards (container : DesiredContainer) : List Exchange → Outcome Bool → Prop where
  | unannounced (fault : Fault) :
      Discards container [⟨.log (announcement container), .error fault⟩] (.error fault)
  | away {reply : Outcome Unit} (left : Runtime.isAway reply = true) :
      Discards container
        [⟨.log (announcement container), .ok ()⟩, ⟨.remove container.externalId true, reply⟩,
          ⟨.count .containersRemoved 1, ()⟩]
        (.ok true)
  | stayed {fault : Fault} (there : fault.isGone = false) (caught : fault.isRuntime = true)
      (logged : Outcome Unit) :
      Discards container
        [⟨.log (announcement container), .ok ()⟩,
          ⟨.remove container.externalId true, .error fault⟩,
          ⟨.log (removeFailure container fault), logged⟩]
        (logged.map fun _ => false)
  | broken {fault : Fault} (uncaught : fault.isRuntime = false) :
      Discards container
        [⟨.log (announcement container), .ok ()⟩,
          ⟨.remove container.externalId true, .error fault⟩]
        (.error fault)

inductive Treats (settings : Settings) (container : DesiredContainer) :
    List Exchange → Outcome Bool → Prop where
  | unseen {reply : Outcome Json} {fault : Fault} (failed : Runtime.nameIn reply = .error fault)
      (caught : fault.isRuntime = true) (logged : Outcome Unit) :
      Treats settings container
        [⟨.inspect container.externalId, reply⟩, ⟨.log (inspectFailure container fault), logged⟩]
        (logged.map fun _ => false)
  | broken {reply : Outcome Json} {fault : Fault} (failed : Runtime.nameIn reply = .error fault)
      (uncaught : fault.isRuntime = false) :
      Treats settings container [⟨.inspect container.externalId, reply⟩] (.error fault)
  | agent {reply : Outcome Json} {name : Json} (named : Runtime.nameIn reply = .ok name)
      (agent : name.isText settings.agentName = true) :
      Treats settings container [⟨.inspect container.externalId, reply⟩] (.ok false)
  | discarded {reply : Outcome Json} {name : Json} {trace : List Exchange} {outcome : Outcome Bool}
      (named : Runtime.nameIn reply = .ok name) (other : name.isText settings.agentName = false)
      (discards : Discards container trace outcome) :
      Treats settings container (⟨.inspect container.externalId, reply⟩ :: trace) outcome

theorem removal_exchanges {id : String} {trace : List Exchange} {outcome : Outcome Bool}
    (run : Job.Runs
      (do
        let _ ← Runtime.remove id true
        Job.count .containersRemoved 1
        return true)
      trace outcome) :
    (∃ reply, Runtime.isAway reply = true ∧ outcome = .ok true ∧
      trace = [⟨.remove id true, reply⟩, ⟨.count .containersRemoved 1, ()⟩]) ∨
    ∃ fault, fault.isGone = false ∧ outcome = .error fault ∧
      trace = [⟨.remove id true, .error fault⟩] := by
  rcases Job.runs_bind.mp run with ⟨before, _, after, split, call, rest⟩ | ⟨fault, call, failed⟩
  · obtain ⟨reply, asked, ⟨away, _⟩ | ⟨_, _, _, impossible⟩⟩ := Runtime.remove_exchanges call
    · rcases Job.runs_bind.mp rest with ⟨_, _, _, parts, counted, ended⟩ | ⟨_, counted, _⟩
      · obtain ⟨count, _⟩ := Job.runs_count.mp counted
        obtain ⟨empty, same⟩ := Job.runs_pure.mp ended
        exact .inl ⟨reply, away, same, by rw [split, asked, parts, count, empty]; rfl⟩
      · cases (Job.runs_count.mp counted).2
    · cases impossible
  · obtain ⟨reply, asked, ⟨_, _, impossible⟩ | ⟨other, answered, there, same⟩⟩ :=
      Runtime.remove_exchanges call
    · cases impossible
    · cases same
      exact .inr ⟨fault, there, failed, by rw [asked, answered]⟩

theorem discard_exchanges {container : DesiredContainer} {trace : List Exchange}
    {outcome : Outcome Bool} (run : (discard container).Runs trace outcome) :
    Discards container trace outcome := by
  rcases Job.call_then Job.runs_log.mp run with ⟨_, later, split, rest⟩ | ⟨fault, split, failed⟩
  · subst split
    rcases Job.recover_cases rest with
      ⟨gone, first, same⟩ | ⟨fault, before, after, split, first, caught, rest⟩ | ⟨fault, first, kept, same⟩
    · obtain ⟨reply, away, left, asked⟩ | ⟨_, _, impossible, _⟩ := removal_exchanges first
      · cases left
        rw [asked, same]
        exact .away away
      · cases impossible
    · obtain ⟨_, _, impossible, _⟩ | ⟨_, there, failed, asked⟩ := removal_exchanges first
      · cases impossible
      · cases failed
        obtain ⟨logged, written, same⟩ := Job.log_return rest
        rw [split, asked, written, same]
        exact .stayed there caught logged
    · obtain ⟨_, _, impossible, _⟩ | ⟨_, there, failed, asked⟩ := removal_exchanges first
      · cases impossible
      · cases failed
        rw [asked, same]
        exact .broken kept
  · rw [split, failed]
    exact .unannounced fault

theorem sighting_exchanges {container : DesiredContainer} {trace : List Exchange}
    {outcome : Outcome (Option Json)}
    (run : Job.Runs
      (Job.recover Fault.isRuntime (some <$> Runtime.name container.externalId) fun fault => do
        logError container ("Inspect failed: " ++ fault.message)
        return none)
      trace outcome) :
    ∃ reply,
      (∃ name, Runtime.nameIn reply = .ok name ∧ outcome = .ok (some name) ∧
        trace = [⟨.inspect container.externalId, reply⟩]) ∨
      (∃ fault logged, Runtime.nameIn reply = .error fault ∧ fault.isRuntime = true ∧
        outcome = logged.map (fun _ => none) ∧
        trace = [⟨.inspect container.externalId, reply⟩,
          ⟨.log (inspectFailure container fault), logged⟩]) ∨
      ∃ fault, Runtime.nameIn reply = .error fault ∧ fault.isRuntime = false ∧
        outcome = .error fault ∧ trace = [⟨.inspect container.externalId, reply⟩] := by
  have call {trace : List Exchange} {outcome : Outcome (Option Json)}
      (run : Job.Runs (some <$> Runtime.name container.externalId) trace outcome) :
      ∃ reply, trace = [⟨.inspect container.externalId, reply⟩] ∧
        outcome = (Runtime.nameIn reply).map some := by
    obtain ⟨reached, first, same⟩ := Job.runs_map.mp run
    obtain ⟨reply, asked, answered⟩ := Runtime.name_exchanges first
    exact ⟨reply, asked, by rw [same, answered]⟩
  rcases Job.recover_cases run with
    ⟨_, first, same⟩ | ⟨fault, before, after, split, first, caught, rest⟩ | ⟨fault, first, kept, same⟩
  · obtain ⟨reply, asked, answered⟩ := call first
    refine ⟨reply, .inl ?_⟩
    cases named : Runtime.nameIn reply with
    | ok name => exact ⟨name, rfl, by rw [same, answered, named]; rfl, asked⟩
    | error _ => rw [named] at answered; cases answered
  · obtain ⟨reply, asked, answered⟩ := call first
    refine ⟨reply, .inr (.inl ?_)⟩
    cases named : Runtime.nameIn reply with
    | ok _ => rw [named] at answered; cases answered
    | error _ =>
      rw [named] at answered
      cases answered
      obtain ⟨logged, written, same⟩ := Job.log_return rest
      exact ⟨fault, logged, rfl, caught, same, by rw [split, asked, written]; rfl⟩
  · obtain ⟨reply, asked, answered⟩ := call first
    refine ⟨reply, .inr (.inr ?_)⟩
    cases named : Runtime.nameIn reply with
    | ok _ => rw [named] at answered; cases answered
    | error _ =>
      rw [named] at answered
      cases answered
      exact ⟨fault, rfl, kept, same, asked⟩

theorem treat_exchanges {settings : Settings} {container : DesiredContainer} {trace : List Exchange}
    {outcome : Outcome Bool} (run : (treat settings container).Runs trace outcome) :
    Treats settings container trace outcome := by
  rcases Job.runs_bind.mp run with ⟨before, name?, after, split, seen, rest⟩ | ⟨fault, seen, failed⟩
  · obtain ⟨reply, ⟨name, named, same, asked⟩ | ⟨fault, logged, unnamed, caught, same, asked⟩ |
      ⟨_, _, _, impossible, _⟩⟩ := sighting_exchanges seen
    · cases same
      subst split asked
      dsimp only at rest
      cases agent : name.isText settings.agentName with
      | true =>
        rw [agent, if_pos rfl] at rest
        obtain ⟨empty, same⟩ := Job.runs_pure.mp rest
        rw [empty, same]
        exact .agent named agent
      | false =>
        rw [agent, if_neg Bool.false_ne_true] at rest
        exact .discarded named agent (discard_exchanges rest)
    · cases logged with
      | error _ => cases same
      | ok _ =>
        cases same
        obtain ⟨empty, same⟩ := Job.runs_pure.mp rest
        rw [split, asked, empty, same]
        exact .unseen unnamed caught (.ok ())
    · cases impossible
  · subst failed
    obtain ⟨reply, ⟨_, _, impossible, _⟩ | ⟨other, logged, unnamed, caught, same, asked⟩ |
      ⟨other, unnamed, kept, same, asked⟩⟩ := sighting_exchanges seen
    · cases impossible
    · cases logged with
      | ok _ => cases same
      | error _ =>
        cases same
        rw [asked]
        exact .unseen unnamed caught (.error fault)
    · cases same
      rw [asked]
      exact .broken unnamed kept

def goneIds (containers : List DesiredContainer) (gone : List Bool) : List String :=
  ((containers.zip gone).filter (·.2)).map (·.1.externalId)

theorem goneIds_cons (container : DesiredContainer) (containers : List DesiredContainer) (gone : Bool)
    (others : List Bool) : goneIds (container :: containers) (gone :: others) =
      if gone then container.externalId :: goneIds containers others
      else goneIds containers others := by
  cases gone <;> simp [goneIds]

theorem treatAll_exchanges {settings : Settings} {containers : List DesiredContainer}
    {trace : List Exchange} {outcome : Outcome (List String)}
    (run : (treatAll settings containers).Runs trace outcome) :
    ∃ results, Job.Each (Treats settings) containers trace results ∧
      outcome = results.map (goneIds containers) := by
  induction containers generalizing trace outcome with
  | nil =>
    obtain ⟨empty, same⟩ := Job.runs_pure.mp run
    subst empty
    exact ⟨.ok [], .nil, same⟩
  | cons container rest ih =>
    rcases Job.runs_bind.mp run with ⟨before, gone, after, split, first, others⟩ | ⟨fault, first, failed⟩
    · have treated := treat_exchanges first
      rcases Job.runs_bind.mp others with ⟨later, ids, nothing, parts, treating, ended⟩ | ⟨fault, treating, failed⟩
      · obtain ⟨empty, same⟩ := Job.runs_pure.mp ended
        obtain ⟨results, each, ids⟩ := ih treating
        cases results with
        | error _ => cases ids
        | ok results =>
          cases ids
          refine ⟨.ok (gone :: results), ?_, ?_⟩
          · rw [split, parts, empty, List.append_nil]
            exact .next treated each
          · rw [same, Except.map, goneIds_cons]
      · obtain ⟨results, each, ids⟩ := ih treating
        cases results with
        | ok _ => cases ids
        | error other =>
          cases ids
          rw [split, failed]
          exact ⟨.error fault, .next treated each, rfl⟩
    · exact ⟨.error fault, .stop (treat_exchanges first), failed⟩

theorem Discards.before_remove {container : DesiredContainer} {earlier later : List Exchange}
    {id : String} {force : Bool} {reply : Outcome Unit} {outcome : Outcome Bool}
    (discards : Discards container (earlier ++ ⟨.remove id force, reply⟩ :: later) outcome) :
    id = container.externalId ∧ earlier = [⟨.log (announcement container), .ok ()⟩] := by
  generalize split : earlier ++ ⟨.remove id force, reply⟩ :: later = trace at discards
  cases discards with
  | unannounced fault => rcases earlier with _ | ⟨_, _⟩ <;> simp at split
  | away | stayed | broken =>
    rcases earlier with _ | ⟨_, _ | ⟨_, _ | ⟨_, _⟩⟩⟩ <;> simp at split
    obtain ⟨first, ⟨⟨same, _⟩, _⟩, _⟩ := split
    exact ⟨same, by rw [first]⟩

/-- A removal comes directly after the inspection that allows it and the row that announces it. -/
theorem Treats.before_remove {settings : Settings} {container : DesiredContainer}
    {earlier later : List Exchange} {id : String} {force : Bool} {reply : Outcome Unit}
    {outcome : Outcome Bool}
    (treats : Treats settings container (earlier ++ ⟨.remove id force, reply⟩ :: later) outcome) :
    id = container.externalId ∧ ∃ seen name, Runtime.nameIn seen = .ok name ∧
      name.isText settings.agentName = false ∧
      earlier = [⟨.inspect id, seen⟩, ⟨.log (announcement container), .ok ()⟩] := by
  generalize split : earlier ++ ⟨.remove id force, reply⟩ :: later = trace at treats
  cases treats with
  | unseen failed caught logged => rcases earlier with _ | ⟨_, _ | ⟨_, _⟩⟩ <;> simp at split
  | broken failed uncaught => rcases earlier with _ | ⟨_, _⟩ <;> simp at split
  | agent named agent => rcases earlier with _ | ⟨_, _⟩ <;> simp at split
  | @discarded seen name trace outcome named other discards =>
    cases earlier with
    | nil => simp at split
    | cons head earlier =>
      obtain ⟨first, rest⟩ := List.cons.inj split
      subst first rest
      obtain ⟨same, announced⟩ := discards.before_remove
      subst same announced
      exact ⟨rfl, seen, name, named, other, rfl⟩

theorem cause_of_removal {settings : Settings} {containers : List DesiredContainer}
    {trace : List Exchange} {outcome : Outcome (List String)}
    (run : (treatAll settings containers).Runs trace outcome) {before after : List Exchange}
    {id : String} {force : Bool} {reply : Outcome Unit}
    (split : trace = before ++ ⟨.remove id force, reply⟩ :: after) :
    ∃ record ∈ containers, record.externalId = id ∧ ∃ seen name, Runtime.nameIn seen = .ok name ∧
      name.isText settings.agentName = false ∧ ⟨.inspect id, seen⟩ ∈ before := by
  obtain ⟨results, each, _⟩ := treatAll_exchanges run
  obtain ⟨record, listed, earlier, _, _, treats, ends⟩ := each.at_exchange split
  obtain ⟨same, seen, name, named, other, asked⟩ := treats.before_remove
  exact ⟨record, listed, same.symm, seen, name, named, other, ends.subset (by simp [asked])⟩

end Orphan

end ContainerWarden
