import ContainerWarden.Proofs.Orphan.Trace
import ContainerWarden.Proofs.Plan.Interleaving
import Mathlib.Data.Set.Basic

namespace ContainerWarden.Orphan

/-- A runtime that keeps containers under their ids. Their names never change. Some of them can never
    be inspected or removed, and the event log may refuse some of the rows. -/
structure Store where
  name : String → Json
  blind : String → Prop
  stuck : String → Prop
  refuses : LogEntry → Prop

def Store.surroundings (store : Store) : Surroundings (Set String) where
  answers effect reply before after :=
    match effect, reply with
    | .inspect id, .ok record =>
      after = before ∧ id ∈ before ∧ ¬ store.blind id ∧
        Runtime.nameIn (.ok record) = .ok (store.name id)
    | .inspect id, .error fault =>
      after = before ∧
        (store.blind id ∧ fault.isRuntime = true ∨ id ∉ before ∧ fault.isGone = true)
    | .remove id _, .ok () => after = before \ {id} ∧ id ∈ before ∧ ¬ store.stuck id
    | .remove id _, .error fault =>
      after = before ∧
        (store.stuck id ∧ fault.isRuntime = true ∨ id ∉ before ∧ fault.isGone = true)
    | .log entry, .error _ => after = before ∧ store.refuses entry
    | _, _ => after = before

def Disowns (settings : Settings) (host : HostIdentity) (records : List DesiredContainer)
    (id : String) : Prop :=
  ∃ record ∈ records, record.externalId = id ∧ Disowned settings host record

theorem disowns_iff_eligible {settings : Settings} {host : HostIdentity}
    {records : List DesiredContainer} {id : String} : Disowns settings host records id ↔
      ∃ record ∈ eligible settings host records, record.externalId = id := by
  unfold Disowns
  simp only [mem_eligible]
  constructor
  · intro disowned
    obtain ⟨record, member, same, own⟩ := disowned
    exact ⟨record, ⟨member, own⟩, same⟩
  · intro disowned
    obtain ⟨record, ⟨member, own⟩, same⟩ := disowned
    exact ⟨record, member, same, own⟩

namespace Store

variable {store : Store}

def Attests (store : Store) (present : Set String) : Exchange → Prop
  | ⟨.inspect id, .ok record⟩ =>
    ¬ store.blind id ∧ Runtime.nameIn (.ok record) = .ok (store.name id)
  | ⟨.inspect id, .error fault⟩ => fault.isRuntime = true ∧ (store.blind id ∨ id ∉ present)
  | ⟨.remove id _, .ok ()⟩ => ¬ store.stuck id ∧ id ∉ present
  | ⟨.remove id _, .error fault⟩ => fault.isRuntime = true ∧ (store.stuck id ∨ id ∉ present)
  | ⟨.log entry, .error _⟩ => store.refuses entry
  | _ => True

theorem Attests.mono {before after : Set String} {exchange : Exchange}
    (attested : store.Attests before exchange) (fewer : after ⊆ before) :
    store.Attests after exchange := by
  unfold Attests at attested ⊢
  split at attested
  · exact attested
  · exact ⟨attested.1, attested.2.imp id fun absent there => absent (fewer there)⟩
  · exact ⟨attested.1, fun there => attested.2 (fewer there)⟩
  · exact ⟨attested.1, attested.2.imp id fun absent there => absent (fewer there)⟩
  · exact attested
  · trivial

/-- A successful removal is the only answer that changes the store. -/
theorem answer_cases {effect : Effect} {reply : effect.Reply} {before after : Set String}
    (answered : store.surroundings.answers effect reply before after) :
    store.Attests after ⟨effect, reply⟩ ∧
      (after = before ∨ ∃ id force, (⟨effect, reply⟩ : Exchange) = ⟨.remove id force, .ok ()⟩ ∧
        after = before \ {id}) := by
  cases effect with
  | inspect id =>
    cases reply with
    | ok record =>
      obtain ⟨same, _, seen, named⟩ := answered
      exact ⟨⟨seen, named⟩, .inl same⟩
    | error fault =>
      obtain ⟨same, ⟨blind, caught⟩ | ⟨absent, gone⟩⟩ := answered
      · exact ⟨⟨caught, .inl blind⟩, .inl same⟩
      · subst same
        exact ⟨⟨Fault.isRuntime_of_isGone gone, .inr absent⟩, .inl rfl⟩
  | remove id force =>
    cases reply with
    | ok _ =>
      obtain ⟨same, _, free⟩ := answered
      subst same
      exact ⟨⟨free, fun there => there.2 rfl⟩, .inr ⟨id, force, rfl, rfl⟩⟩
    | error fault =>
      obtain ⟨same, ⟨stuck, caught⟩ | ⟨absent, gone⟩⟩ := answered
      · exact ⟨⟨caught, .inl stuck⟩, .inl same⟩
      · subst same
        exact ⟨⟨Fault.isRuntime_of_isGone gone, .inr absent⟩, .inl rfl⟩
  | log entry =>
    cases reply with
    | ok _ => exact ⟨trivial, .inl answered⟩
    | error fault => exact ⟨answered.2, .inl answered.1⟩
  | list | stop | subscribe | fetch | count | assign | note | stopping | rest =>
    exact ⟨trivial, .inl answered⟩

structure Kept (store : Store) (start present : Set String) (traces : ι → List Exchange) :
    Prop where
  within : present ⊆ start
  removed : ∀ id ∈ start, id ∉ present → ∃ i force, ⟨.remove id force, .ok ()⟩ ∈ traces i
  attested : ∀ i, ∀ exchange ∈ traces i, store.Attests present exchange

theorem Kept.step [DecidableEq ι] {start before after : Set String} {traces : ι → List Exchange}
    (kept : Kept store start before traces) (i : ι) {effect : Effect} {reply : effect.Reply}
    (answered : store.surroundings.answers effect reply before after) :
    Kept store start after (Function.update traces i (traces i ++ [⟨effect, reply⟩])) := by
  obtain ⟨attested, change⟩ := answer_cases answered
  have fewer : after ⊆ before := by
    rcases change with same | ⟨id, _, _, same⟩
    · exact same.subset
    · exact same ▸ fun _ there => there.1
  refine ⟨fewer.trans kept.within, ?_, ?_⟩
  · intro id there absent
    by_cases still : id ∈ before
    · rcases change with same | ⟨other, force, removal, same⟩
      · exact absurd (same ▸ still) absent
      · have own : id = other := by
          by_contra different
          exact absent (same ▸ ⟨still, different⟩)
        subst own
        exact ⟨i, force, JointWork.mem_traces_step.mpr (.inr ⟨rfl, removal.symm⟩)⟩
    · obtain ⟨j, force, member⟩ := kept.removed id there still
      exact ⟨j, force, JointWork.mem_traces_step.mpr (.inl member)⟩
  · intro j exchange member
    rcases JointWork.mem_traces_step.mp member with earlier | ⟨_, same⟩
    · exact (kept.attested j exchange earlier).mono fewer
    · exact same ▸ attested

theorem away_of_treated {settings : Settings} {container : DesiredContainer} {trace : List Exchange}
    {gone : Bool} {present : Set String} (treats : Treats settings container trace (.ok gone))
    (attested : ∀ exchange ∈ trace, store.Attests present exchange)
    (other : store.name container.externalId ≠ .str settings.agentName)
    (seen : ¬ store.blind container.externalId) (free : ¬ store.stuck container.externalId) :
    container.externalId ∉ present := by
  generalize same : Except.ok gone = outcome at treats
  cases treats with
  | @unseen reply fault failed caught logged =>
    have told := attested ⟨.inspect container.externalId, reply⟩ (by simp)
    cases reply with
    | ok record => cases failed.symm.trans told.2
    | error fault => exact told.2.resolve_left seen
  | broken failed uncaught => cases same
  | @agent reply name named agent =>
    have told := attested ⟨.inspect container.externalId, reply⟩ (by simp)
    cases reply with
    | ok record =>
      cases named.symm.trans told.2
      exact absurd (Json.isText_iff.mp agent) other
    | error fault => cases named
  | @discarded reply name rest outcome named different discards =>
    cases discards with
    | unannounced fault => cases same
    | @away removal left =>
      have told := attested ⟨.remove container.externalId true, removal⟩ (by simp)
      cases removal with
      | ok _ => exact told.2
      | error fault => exact told.2.resolve_left free
    | @stayed fault there caught logged =>
      have told := attested ⟨.remove container.externalId true, .error fault⟩ (by simp)
      exact told.2.resolve_left free
    | broken uncaught => cases same

theorem refused_of_failed {settings : Settings} {container : DesiredContainer}
    {trace : List Exchange} {fault : Fault} {present : Set String}
    (treats : Treats settings container trace (.error fault))
    (attested : ∀ exchange ∈ trace, store.Attests present exchange) :
    ∃ entry, store.refuses entry := by
  generalize same : Except.error fault = outcome at treats
  cases treats with
  | @unseen reply failure failed caught logged =>
    cases logged with
    | ok _ => cases same
    | error refusal =>
      exact ⟨_, attested ⟨.log (inspectFailure container failure), .error refusal⟩ (by simp)⟩
  | @broken reply failure failed uncaught =>
    have told := attested ⟨.inspect container.externalId, reply⟩ (by simp)
    cases reply with
    | ok record => cases failed.symm.trans told.2
    | error other =>
      cases failed
      exact absurd told.1 (by simp [uncaught])
  | agent named agent => cases same
  | @discarded reply name rest outcome named different discards =>
    cases discards with
    | unannounced refusal =>
      exact ⟨_, attested ⟨.log (announcement container), .error refusal⟩ (by simp)⟩
    | away left => cases same
    | @stayed failure there caught logged =>
      cases logged with
      | ok _ => cases same
      | error refusal =>
        exact ⟨_, attested ⟨.log (removeFailure container failure), .error refusal⟩ (by simp)⟩
    | @broken failure uncaught =>
      have told := attested ⟨.remove container.externalId true, .error failure⟩ (by simp)
      exact absurd told.1 (by simp [uncaught])

theorem disowned_of_removed {settings : Settings} {host : HostIdentity}
    {records : List DesiredContainer} {present : Set String} {trace : List Exchange}
    {rest : Plan (Outcome (List String))}
    (begun : (ExceptT.run (treatAll settings (eligible settings host records))).Steps trace rest)
    (attested : ∀ exchange ∈ trace, store.Attests present exchange) {id : String} {force : Bool}
    {reply : Outcome Unit} (member : ⟨.remove id force, reply⟩ ∈ trace) :
    Disowns settings host records id ∧ store.name id ≠ .str settings.agentName ∧
      ¬ store.blind id := by
  obtain ⟨later, outcome, run⟩ := begun.completes
  obtain ⟨before, after, split⟩ := List.append_of_mem member
  have whole : trace ++ later = before ++ ⟨.remove id force, reply⟩ :: (after ++ later) := by
    rw [split]
    simp
  obtain ⟨record, listed, same, seen, name, named, other, asked⟩ := cause_of_removal run whole
  refine ⟨disowns_iff_eligible.mpr ⟨record, listed, same⟩, ?_⟩
  have inspected : (⟨.inspect id, seen⟩ : Exchange) ∈ trace := by
    rw [split]
    exact List.mem_append_left _ asked
  have told := attested _ inspected
  cases seen with
  | error fault => cases named
  | ok found =>
    cases named.symm.trans told.2
    refine ⟨?_, told.1⟩
    intro agent
    rw [Json.isText_iff.mpr agent] at other
    cases other

theorem away_of_returned {settings : Settings} {host : HostIdentity}
    {records : List DesiredContainer} {present : Set String} {trace : List Exchange}
    {removed : List String}
    (run : (treatAll settings (eligible settings host records)).Runs trace (.ok removed))
    (attested : ∀ exchange ∈ trace, store.Attests present exchange) {id : String}
    (disowned : Disowns settings host records id) (other : store.name id ≠ .str settings.agentName)
    (seen : ¬ store.blind id) (free : ¬ store.stuck id) : id ∉ present := by
  obtain ⟨results, each, same⟩ := treatAll_exchanges run
  cases results with
  | error fault => cases same
  | ok results =>
    obtain ⟨record, listed, rfl⟩ := disowns_iff_eligible.mp disowned
    obtain ⟨own, gone, treats, within⟩ := each.of_mem listed
    exact away_of_treated treats (fun exchange member => attested exchange (within member)) other
      seen free

/-- A pass in whose course no row was refused does not fail. -/
theorem refused_of_pass_failed {settings : Settings} {containers : List DesiredContainer}
    {present : Set String} {trace : List Exchange} {fault : Fault}
    (run : (treatAll settings containers).Runs trace (.error fault))
    (attested : ∀ exchange ∈ trace, store.Attests present exchange) :
    ∃ entry, store.refuses entry := by
  obtain ⟨results, each, same⟩ := treatAll_exchanges run
  cases results with
  | ok results => cases same
  | error other =>
    cases same
    obtain ⟨record, _, own, treats, ends⟩ := each.of_error
    exact refused_of_failed treats fun exchange member => attested exchange (ends.subset member)

end Store

def passes (settings : Settings) (hosts : ι → HostIdentity) (records : ι → List DesiredContainer)
    (present : Set String) : JointWork (Set String) ι (Outcome (List String)) where
  state := present
  plans i := ExceptT.run (treatAll settings (eligible settings (hosts i) (records i)))

/-- Whatever the order of their calls, passes remove only what some pass found disowned, and once all
    have returned the store holds the same containers. -/
theorem concurrent_passes_agree [DecidableEq ι] {settings : Settings} {store : Store}
    {hosts : ι → HostIdentity} {records : ι → List DesiredContainer} {start : Set String}
    {work : JointWork (Set String) ι (Outcome (List String))}
    (reached : JointWork.Reaches store.surroundings (passes settings hosts records start) work) :
    work.state ⊆ start ∧
    (∀ id ∈ start, id ∉ work.state → ∃ i, Disowns settings (hosts i) (records i) id ∧
      store.name id ≠ .str settings.agentName) ∧
    (∀ id ∈ start, store.name id = .str settings.agentName → id ∈ work.state) ∧
    (∀ id ∈ start, (∀ i, ∀ record ∈ records i, record.externalId = id →
      record.hostUuid ≠ (hosts i).uuid) → id ∈ work.state) ∧
    ((∀ i, ∃ removed, work.plans i = .done (.ok removed)) →
      work.state = {id ∈ start | ¬ ((∃ i, Disowns settings (hosts i) (records i) id) ∧
        store.name id ≠ .str settings.agentName ∧ ¬ store.blind id ∧ ¬ store.stuck id)}) ∧
    ((∀ entry, ¬ store.refuses entry) → ∀ i outcome, work.plans i = .done outcome →
      ∃ removed, outcome = .ok removed) := by
  obtain ⟨traces, begun, kept⟩ : ∃ traces,
      (∀ i, ((passes settings hosts records start).plans i).Steps (traces i) (work.plans i)) ∧
        Store.Kept store start work.state traces := by
    apply reached.traced
    · exact ⟨subset_rfl, fun id there absent => absurd there absent, by simp⟩
    · intro before after traces i effect next reply _ kept answered
      exact kept.step i answered
    · intro before after traces kept moved
      exact moved.elim
  have disowned : ∀ id ∈ start, id ∉ work.state → ∃ i, Disowns settings (hosts i) (records i) id ∧
      store.name id ≠ .str settings.agentName := by
    intro id there absent
    obtain ⟨i, force, member⟩ := kept.removed id there absent
    obtain ⟨own, other, _⟩ := Store.disowned_of_removed (begun i) (kept.attested i) member
    exact ⟨i, own, other⟩
  refine ⟨kept.within, disowned, ?_, ?_, ?_, ?_⟩
  · intro id there agent
    by_contra absent
    obtain ⟨i, _, other⟩ := disowned id there absent
    exact other agent
  · intro id there elsewhere
    by_contra absent
    obtain ⟨i, ⟨record, member, same, resident, _⟩, _⟩ := disowned id there absent
    exact elsewhere i record member same resident
  · -- Nothing comes back, so what one pass found away is away when the last of them has returned.
    intro returned
    have away : ∀ id, (∃ i, Disowns settings (hosts i) (records i) id) →
        store.name id ≠ .str settings.agentName → ¬ store.blind id → ¬ store.stuck id →
        id ∉ work.state := by
      intro id ⟨i, own⟩ other seen free
      obtain ⟨removed, ended⟩ := returned i
      exact Store.away_of_returned (ended ▸ begun i) (kept.attested i) own other seen free
    apply Set.Subset.antisymm
    · intro id still
      exact ⟨kept.within still, fun ⟨own, other, seen, free⟩ => away id own other seen free still⟩
    · intro id ⟨there, spared⟩
      by_contra absent
      obtain ⟨i, force, member⟩ := kept.removed id there absent
      obtain ⟨own, other, seen⟩ := Store.disowned_of_removed (begun i) (kept.attested i) member
      exact spared ⟨⟨i, own⟩, other, seen, (kept.attested i _ member).1⟩
  · intro written i outcome ended
    cases outcome with
    | ok removed => exact ⟨removed, rfl⟩
    | error fault =>
      obtain ⟨entry, refused⟩ := Store.refused_of_pass_failed (ended ▸ begun i) (kept.attested i)
      exact absurd refused (written entry)

def stray : DesiredContainer := { uuid := "u", externalId := "d", hostUuid := "h" }

def openStore : Store where
  name _ := .str "/web"
  blind _ := False
  stuck _ := False
  refuses _ := False

theorem concurrent_passes_agree_on_stray :
    ∃ work, JointWork.Reaches openStore.surroundings
      (passes {} (fun _ : Bool => ⟨"h"⟩) (fun _ => [stray]) {"d"}) work ∧
      (∀ i, ∃ removed, work.plans i = .done (.ok removed)) ∧
      work.state = {id ∈ ({"d"} : Set String) | ¬ ((∃ _ : Bool, Disowns {} ⟨"h"⟩ [stray] id) ∧
        openStore.name id ≠ .str "/rancher-agent" ∧ ¬ openStore.blind id ∧ ¬ openStore.stuck id)} := by
  have seen : Runtime.nameIn (.ok (.obj [("Name", .str "/web")])) = .ok (openStore.name "d") := rfl
  have start : JointWork.Reaches openStore.surroundings
      (passes {} (fun _ : Bool => ⟨"h"⟩) (fun _ => [stray]) {"d"}) _ := .refl
  -- Both passes inspect the container before one of them removes it.
  have first := start.step true rfl (.ok (.obj [("Name", .str "/web")])) ⟨rfl, rfl, id, seen⟩
  have second := first.step false rfl (.ok (.obj [("Name", .str "/web")])) ⟨rfl, rfl, id, seen⟩
  have third := second.step true rfl (.ok ()) rfl
  have fourth := third.step true rfl (.ok ()) ⟨rfl, rfl, id⟩
  have fifth := fourth.step true rfl () rfl
  have sixth := fifth.step false rfl (.ok ()) rfl
  have seventh := sixth.step false rfl (.error (.noSuchContainer "d"))
    ⟨rfl, .inr ⟨fun there => there.2 rfl, rfl⟩⟩
  have eighth := seventh.step false rfl () rfl
  obtain ⟨work, reached, returned⟩ : ∃ work, JointWork.Reaches openStore.surroundings
      (passes {} (fun _ : Bool => ⟨"h"⟩) (fun _ => [stray]) {"d"}) work ∧
      ∀ i, ∃ removed, work.plans i = .done (.ok removed) := by
    refine ⟨_, eighth, ?_⟩
    intro i
    cases i with
    | false => exact ⟨_, rfl⟩
    | true => exact ⟨_, rfl⟩
  exact ⟨work, reached, returned, (concurrent_passes_agree reached).2.2.2.2.1 returned⟩

end ContainerWarden.Orphan
