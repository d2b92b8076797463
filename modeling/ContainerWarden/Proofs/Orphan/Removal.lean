import ContainerWarden.Proofs.Orphan.Calls
import ContainerWarden.Proofs.Orphan.Confluence

namespace ContainerWarden.Orphan

variable {settings : Settings} {host : HostIdentity} {records : List DesiredContainer}
  {trace : List Exchange} {id : String}

def Removes (id : String) (trace : List Exchange) : Prop :=
  ∃ force reply, ⟨.remove id force, reply⟩ ∈ trace

def isRemoval (id : String) : Exchange → Bool
  | ⟨.remove other _, _⟩ => other == id
  | _ => false

theorem any_isRemoval_iff : trace.any (isRemoval id) = true ↔ Removes id trace := by
  rw [List.any_eq_true]
  constructor
  · intro ⟨exchange, member, removal⟩
    unfold isRemoval at removal
    split at removal
    · exact ⟨_, _, eq_of_beq removal ▸ member⟩
    · cases removal
  · intro ⟨force, reply, member⟩
    exact ⟨_, member, beq_self_eq_true id⟩

instance : Decidable (Removes id trace) := decidable_of_iff _ any_isRemoval_iff

/-- Whether the runtime, if asked for the container, shows it under another name than that of the agent. -/
def showsOther (settings : Settings) (id : String) : Exchange → Bool
  | ⟨.inspect other, seen⟩ => other != id ||
    match Runtime.nameIn seen with
    | .ok name => !name.isText settings.agentName
    | .error _ => false
  | _ => true

theorem showsOther_inspect {seen : Outcome Json}
    (shown : showsOther settings id ⟨.inspect id, seen⟩ = true) :
    ∃ name, Runtime.nameIn seen = .ok name ∧ name.isText settings.agentName = false := by
  cases named : Runtime.nameIn seen with
  | ok name => exact ⟨name, rfl, by simpa [showsOther, named] using shown⟩
  | error fault => simp [showsOther, named] at shown

theorem disowns_of_removes {rest : Plan (Outcome (List String))}
    (begun : (ExceptT.run (treatAll settings (eligible settings host records))).Steps trace rest)
    (removes : Removes id trace) : Disowns settings host records id := by
  obtain ⟨force, reply, member⟩ := removes
  obtain ⟨later, outcome, run⟩ := begun.completes
  obtain ⟨before, after, split⟩ := List.append_of_mem (List.mem_append_left later member)
  obtain ⟨record, listed, same, _⟩ := cause_of_removal run split
  exact disowns_iff_eligible.mpr ⟨record, listed, same⟩

theorem Treats.removes {record : DesiredContainer} {gone : Bool}
    (treats : Treats settings record trace (.ok gone))
    (other : ∀ exchange ∈ trace, showsOther settings record.externalId exchange = true) :
    Removes record.externalId trace := by
  generalize same : Except.ok gone = outcome at treats
  cases treats with
  | @unseen reply fault failed caught logged =>
    obtain ⟨name, named, _⟩ := showsOther_inspect (other ⟨_, reply⟩ (by simp))
    cases failed.symm.trans named
  | broken failed uncaught => cases same
  | @agent reply name named agent =>
    obtain ⟨_, found, different⟩ := showsOther_inspect (other ⟨_, reply⟩ (by simp))
    cases named.symm.trans found
    cases agent.symm.trans different
  | @discarded reply name rest outcome named different discards =>
    cases discards with
    | unannounced fault => cases same
    | @away removal left => exact ⟨true, removal, by simp⟩
    | @stayed fault there caught logged => exact ⟨true, .error fault, by simp⟩
    | broken uncaught => cases same

/-- One record that disowns a container is enough, whatever the others say. -/
theorem removes_of_disowns {removed : List String}
    (run : (treatAll settings (eligible settings host records)).Runs trace (.ok removed))
    (disowned : Disowns settings host records id)
    (other : ∀ exchange ∈ trace, showsOther settings id exchange = true) : Removes id trace := by
  obtain ⟨results, each, same⟩ := treatAll_exchanges run
  cases results with
  | error fault => cases same
  | ok results =>
    obtain ⟨record, listed, rfl⟩ := disowns_iff_eligible.mp disowned
    obtain ⟨own, gone, treats, within⟩ := each.of_mem listed
    obtain ⟨force, reply, member⟩ := treats.removes fun exchange asked => other exchange (within asked)
    exact ⟨force, reply, within member⟩

theorem not_removes_of_fetches (fetches : ∀ exchange ∈ trace, exchange.1.IsFetch) :
    ¬ Removes id trace := by
  intro ⟨force, reply, member⟩
  exact fetches _ member

def Recognised (settings : Settings) (host : HostIdentity) (records : List DesiredContainer)
    (id : String) : Prop :=
  ∀ record ∈ records, record.hostUuid = host.uuid → record.externalId = id →
    record.labels.get? settings.uuidLabel = some (.str record.uuid)

instance {labels : Labels} {key value : String} : Decidable (labels.get? key = some (.str value)) :=
  decidable_of_iff _ Labels.holds_iff

instance : Decidable (Recognised settings host records id) :=
  inferInstanceAs (Decidable (∀ record ∈ records, record.hostUuid = host.uuid →
    record.externalId = id → record.labels.get? settings.uuidLabel = some (.str record.uuid)))

instance : Decidable (Disowns settings host records id) :=
  inferInstanceAs (Decidable (∃ record ∈ records, record.externalId = id ∧
    (record.hostUuid = host.uuid ∧ ¬ record.labels.get? settings.uuidLabel = some (.str record.uuid))))

theorem not_disowns_of_recognised (recognised : Recognised settings host records id) :
    ¬ Disowns settings host records id := by
  intro ⟨record, member, same, resident, mismatched⟩
  exact mismatched (recognised record member resident same)

/-- A pass never removes a container that every record on its host recognises. It goes by each record alone,
    so that one which does not recognise the container has it removed. -/
theorem recognised_container_stays {before after : List Exchange} {rest : Plan (Outcome (List String))}
    (fetched : (fetch settings).Runs before (.ok (host, records)))
    (begun : (ExceptT.run (pass settings)).Steps (before ++ after) rest) (id : String) :
    (Recognised settings host records id → ¬ Removes id (before ++ after)) ∧
    (Disowns settings host records id → (∃ removed, rest = .done (.ok removed)) →
      (∀ exchange ∈ after, showsOther settings id exchange = true) → Removes id after) := by
  rw [pass_eq] at begun
  have treating := Job.steps_of_bind fetched begun
  constructor
  · intro recognised ⟨force, reply, member⟩
    rcases List.mem_append.mp member with fetching | treated
    · exact not_removes_of_fetches (fetch_only settings _ _ fetched) ⟨force, reply, fetching⟩
    · exact not_disowns_of_recognised recognised (disowns_of_removes treating ⟨force, reply, treated⟩)
  · intro disowned ⟨removed, returned⟩ other
    subst returned
    exact removes_of_disowns treating disowned other

theorem history_of_fetched {answer : (effect : Effect) → σ → effect.Reply × σ} {s : σ}
    {found : HostIdentity × List DesiredContainer}
    (fetched : ((fetch settings).run answer s).1 = .ok found) :
    (pass settings).history answer s = (fetch settings).history answer s ++
      (treatAll settings (eligible settings found.1 found.2)).history answer
        ((fetch settings).run answer s).2 := by
  rw [pass_eq]
  exact Job.history_bind_of_ok (Prod.ext fetched rfl) _

/-- Each of two containers has a record that recognises it and one that does not: for `d` both are on this
    host, for `e` only the former is. -/
def sharedIds : World where
  inspections := [("d", .obj [("Name", .str "/web")]), ("e", .obj [])]
  pages :=
    [("/self/host", [page "\x7b\"uuid\":\"H\"\x7d"]),
      ("/containers", [page ("[\x7b\"uuid\":\"a\",\"external_id\":\"d\",\"host_uuid\":\"H\"," ++
        "\"labels\":\x7b\"io.rancher.container.uuid\":\"a\"\x7d\x7d," ++
        "\x7b\"external_id\":\"d\",\"host_uuid\":\"H\"\x7d," ++
        "\x7b\"external_id\":\"e\",\"host_uuid\":\"G\"\x7d," ++
        "\x7b\"uuid\":\"a\",\"external_id\":\"e\",\"host_uuid\":\"H\"," ++
        "\"labels\":\x7b\"io.rancher.container.uuid\":\"a\"\x7d\x7d]")])]

theorem sharedIds_facts :
    Removes "d" ((pass {}).history World.answer sharedIds) ∧
    ((pass {}).history World.answer sharedIds).all (showsOther {} "d") = true ∧
    ((pass {}).run World.answer sharedIds).1.toOption.isSome = true ∧
    ((fetch {}).run World.answer sharedIds).1.toOption.any (fun found =>
      decide ((∃ record ∈ found.2, record.hostUuid = found.1.uuid ∧ record.externalId = "d" ∧
          record.labels.get? "io.rancher.container.uuid" = some (.str record.uuid)) ∧
        Disowns {} found.1 found.2 "d" ∧ Recognised {} found.1 found.2 "e" ∧
        ∃ record ∈ found.2, record.externalId = "e" ∧ record.isOrphan {} = true)) = true := by
  decide +kernel

theorem recognised_container_stays_beside_strays :
    let trace := (pass {}).history World.answer sharedIds
    ∃ host records, ((fetch {}).run World.answer sharedIds).1 = .ok (host, records) ∧
      (∃ record ∈ records, record.externalId = "e" ∧ record.isOrphan {} = true) ∧
      Recognised {} host records "e" ∧ ¬ Removes "e" trace ∧
      Disowns {} host records "d" ∧ Removes "d" trace := by
  intro trace
  obtain ⟨_, shown, returned, records⟩ := sharedIds_facts
  obtain ⟨found, fetched, facts⟩ := (Option.any_eq_true _ _).mp records
  obtain ⟨removed, ended⟩ := Option.isSome_iff_exists.mp returned
  have fetched := Outcome.toOption_eq_some.mp fetched
  have ended := Outcome.toOption_eq_some.mp ended
  obtain ⟨_, disowned, recognised, stray⟩ := of_decide_eq_true facts
  have fetching := (fetch {}).runs_history World.answer sharedIds
  have begun : (pass {}).Runs trace _ := (pass {}).runs_history World.answer sharedIds
  have seen : ∀ exchange ∈ trace, showsOther {} "d" exchange = true := List.all_eq_true.mp shown
  have split := history_of_fetched fetched
  rw [fetched] at fetching
  rw [ended] at begun
  simp only [trace, split] at begun seen ⊢
  obtain ⟨stays, _⟩ := recognised_container_stays fetching begun "e"
  obtain ⟨_, goes⟩ := recognised_container_stays fetching begun "d"
  obtain ⟨force, reply, member⟩ := goes disowned ⟨removed, rfl⟩ fun exchange member =>
    seen exchange (List.mem_append_right _ member)
  exact ⟨found.1, found.2, fetched, stray, recognised, stays recognised, disowned,
    force, reply, List.mem_append_right _ member⟩

/-- A record that does not recognise a container outweighs one that does. -/
theorem shared_id_removed :
    ∃ host records, ((fetch {}).run World.answer sharedIds).1 = .ok (host, records) ∧
      (∃ record ∈ records, record.hostUuid = host.uuid ∧ record.externalId = "d" ∧
        record.labels.get? "io.rancher.container.uuid" = some (.str record.uuid)) ∧
      Removes "d" ((pass {}).history World.answer sharedIds) := by
  obtain ⟨removes, _, _, records⟩ := sharedIds_facts
  obtain ⟨found, fetched, facts⟩ := (Option.any_eq_true _ _).mp records
  obtain ⟨recognised, _⟩ := of_decide_eq_true facts
  exact ⟨found.1, found.2, Outcome.toOption_eq_some.mp fetched, recognised, removes⟩

end ContainerWarden.Orphan
