import ContainerWarden.Proofs.Metadata.Failures
import ContainerWarden.Proofs.Orphan.Change
import ContainerWarden.Proofs.Orphan.Removal

namespace ContainerWarden

namespace Metadata

open Record (textOf valueOf)

def documentOf : Exchange → Option Json
  | ⟨.fetch _, .ok response⟩ => if response.isSuccess then response.document.toOption else none
  | _ => none

structure Delivers (request : Outcome HttpRequest) (exchange : Exchange) (document : Json) : Prop where
  asked : ∃ asked, request = .ok asked ∧ exchange.1 = .fetch asked
  document : documentOf exchange = some document

theorem delivers_of_inquiry {path : String} {request : Outcome HttpRequest} {read : Json → Outcome α}
    {trace : List Exchange} {a : α}
    (run : (Job.inquiry request fun asked response =>
      (documentIn path asked response).bind read).Runs trace (.ok a)) :
    ∃ exchange value, trace = [exchange] ∧ Delivers request exchange value ∧ read value = .ok a := by
  obtain ⟨asked, reply, sent, split, ended⟩ | ⟨_, _, _, impossible⟩ := Job.inquiry_exchanges run
  · cases reply with
    | error fault => cases ended
    | ok response =>
      change Except.ok a = (documentIn path asked response).bind read at ended
      cases found : documentIn path asked response with
      | error fault =>
        rw [found] at ended
        cases ended
      | ok value =>
        rw [found] at ended
        obtain ⟨success, document⟩ := documentIn_eq_ok path asked found
        have delivered : documentOf ⟨.fetch asked, .ok response⟩ = some value := by
          rw [documentOf, if_pos success, document]
          rfl
        exact ⟨_, value, split, ⟨⟨asked, sent, rfl⟩, delivered⟩, ended.symm⟩
  · cases impossible

theorem hostIn_eq_ok {value : Json} {host : HostIdentity} (read : hostIn value = .ok host) :
    value.isObject = true ∧ host.uuid = textOf (valueOf value "uuid") := by
  unfold hostIn at read
  split at read
  · rename_i object
    rw [HostIdentity.ofJson, Record.text_of_isObject object] at read
    cases read
    exact ⟨object, rfl⟩
  · cases read

theorem recordsIn_eq_ok {value : Json} {records : List DesiredContainer}
    (read : recordsIn value = .ok records) :
    ∃ items, value = .arr items ∧
      (∀ record, record ∈ records ↔
        ∃ item ∈ items, item.isObject = true ∧ DesiredContainer.ofJson item = .ok record) ∧
      ∀ item ∈ items, item.isObject = true → ∃ record, DesiredContainer.ofJson item = .ok record := by
  cases value
  case arr items =>
    refine ⟨items, rfl, ?_, ?_⟩
    · intro record
      rw [Outcome.mem_mapM read]
      simp only [List.mem_filter, and_assoc]
    · intro item member object
      exact Outcome.mapM_isOk_iff.mp ⟨records, read⟩ item (List.mem_filter.mpr ⟨member, object⟩)
  all_goals cases read

end Metadata

namespace Orphan

open Metadata (Delivers plainRequest)
open Record (textOf valueOf)

structure Told (settings : Settings) (trace : List Exchange) (host : Json) (items : List Json) :
    Prop where
  exchanges : ∃ first second, [first, second] <+: trace ∧
    Delivers (plainRequest settings "/self/host") first host ∧
    Delivers (plainRequest settings "/containers") second (.arr items)
  object : host.isObject = true

/-- An item of the list that a pass takes for a stray of its host. An item without a host belongs to a host
    without a uuid. -/
structure Strays (settings : Settings) (host item : Json) (id : String) : Prop where
  object : item.isObject = true
  id : textOf (valueOf item "external_id") = id
  residence : textOf (valueOf item "host_uuid") = textOf (valueOf host "uuid")
  labels : ∀ labels, Labels.ofJson (valueOf item "labels") = .ok labels →
    labels.get? settings.uuidLabel ≠ some (.str (textOf (valueOf item "uuid")))

variable {settings : Settings} {trace : List Exchange} {host item : Json} {items : List Json}
  {id : String}

theorem Told.prefix_trans {before : List Exchange} (told : Told settings before host items)
    (begins : before <+: trace) : Told settings trace host items := by
  obtain ⟨first, second, front, answers⟩ := told.exchanges
  exact ⟨⟨first, second, front.trans begins, answers⟩, told.object⟩

theorem Told.unique {other : Json} {others : List Json} (told : Told settings trace host items)
    (again : Told settings trace other others) : host = other ∧ items = others := by
  obtain ⟨first, second, front, hosted, listed⟩ := told.exchanges
  obtain ⟨third, fourth, start, named, shown⟩ := again.exchanges
  have same := (List.prefix_of_prefix_length_le front start Nat.le.refl).eq_of_length rfl
  cases same
  exact ⟨Option.some.inj (hosted.document.symm.trans named.document),
    Json.arr.inj (Option.some.inj (listed.document.symm.trans shown.document))⟩

theorem Told.host_eq (told : Told settings trace host items) :
    trace.head?.bind Metadata.documentOf = some host := by
  obtain ⟨first, second, ⟨rest, split⟩, hosted, _⟩ := told.exchanges
  rw [← split]
  exact hosted.document

theorem Strays.isPresent_eq (strays : Strays settings host item id) :
    (valueOf item "host_uuid").isPresent = (valueOf host "uuid").isPresent := by
  cases present : (valueOf host "uuid").isPresent with
  | false =>
    have unknown := Record.textOf_eq_empty.mpr present
    exact Record.textOf_eq_empty.mp (strays.residence.trans unknown)
  | true =>
    refine Bool.eq_true_of_not_eq_false fun absent => ?_
    have unknown := Record.textOf_eq_empty.mpr absent
    cases (Record.textOf_eq_empty.mp (strays.residence.symm.trans unknown)).symm.trans present

theorem strays_iff {identity : HostIdentity} {record : DesiredContainer}
    (own : identity.uuid = textOf (valueOf host "uuid")) (object : item.isObject = true)
    (read : DesiredContainer.ofJson item = .ok record) :
    Strays settings host item id ↔ record.externalId = id ∧ Disowned settings identity record := by
  rw [DesiredContainer.ofJson_of_isObject object] at read
  cases labels : Labels.ofJson (valueOf item "labels") with
  | error fault =>
    rw [labels] at read
    cases read
  | ok found =>
    rw [labels] at read
    cases read
    constructor
    · intro strays
      exact ⟨strays.id, strays.residence.trans own.symm, strays.labels found labels⟩
    · intro ⟨same, resident, mismatched⟩
      refine ⟨object, same, resident.trans own, ?_⟩
      intro other read
      cases labels.symm.trans read
      exact mismatched

theorem fetch_told {identity : HostIdentity} {records : List DesiredContainer}
    (fetched : (fetch settings).Runs trace (.ok (identity, records))) :
    ∃ host items, Told settings trace host items ∧
      ∀ id, Disowns settings identity records id ↔ ∃ item ∈ items, Strays settings host item id := by
  rcases Job.runs_bind.mp fetched with ⟨_, _, _, split, first, others⟩ | ⟨_, _, impossible⟩
  · rcases Job.runs_bind.mp others with ⟨_, _, _, parts, second, ended⟩ | ⟨_, _, impossible⟩
    · obtain ⟨empty, same⟩ := Job.runs_pure.mp ended
      cases same
      rw [Metadata.selfHost_eq] at first
      rw [Metadata.containers_eq] at second
      obtain ⟨asking, host, hosted, told, read⟩ := Metadata.delivers_of_inquiry first
      obtain ⟨listing, value, listed, shown, found⟩ := Metadata.delivers_of_inquiry second
      obtain ⟨object, own⟩ := Metadata.hostIn_eq_ok read
      obtain ⟨items, rfl, members, readable⟩ := Metadata.recordsIn_eq_ok found
      have front : trace = [asking, listing] := by rw [split, parts, hosted, listed, empty]; rfl
      refine ⟨host, items, ⟨⟨asking, listing, front ▸ List.prefix_rfl, told, shown⟩, object⟩, ?_⟩
      intro id
      constructor
      · intro ⟨record, member, same, disowned⟩
        obtain ⟨item, there, object, made⟩ := (members record).mp member
        exact ⟨item, there, (strays_iff own object made).mpr ⟨same, disowned⟩⟩
      · intro ⟨item, there, strays⟩
        obtain ⟨record, made⟩ := readable item there strays.object
        obtain ⟨same, disowned⟩ := (strays_iff own strays.object made).mp strays
        exact ⟨record, (members record).mpr ⟨item, there, strays.object, made⟩, same, disowned⟩
    · cases impossible
  · cases impossible

theorem told_of_removes {rest : Plan (Outcome (List String))}
    (begun : (ExceptT.run (pass settings)).Steps trace rest) (removes : Removes id trace) :
    ∃ host items, Told settings trace host items ∧ ∃ item ∈ items, Strays settings host item id := by
  obtain ⟨force, reply, member⟩ := removes
  obtain ⟨later, outcome, run⟩ := begun.completes
  have whole := List.mem_append_left later member
  rcases pass_exchanges run with
    ⟨before, after, identity, records, split, fetched, treated⟩ | ⟨fault, fetched, _⟩
  · have elsewhere : ⟨.remove id force, reply⟩ ∉ before := fetch_only settings _ _ fetched _
    have begins : before <+: trace := by
      rcases List.prefix_or_prefix_of_prefix ⟨after, split.symm⟩ (List.prefix_append trace later) with
        front | within
      · exact front
      · exact absurd (within.subset member) elsewhere
    rw [split] at whole
    have treats := (List.mem_append.mp whole).resolve_left elsewhere
    obtain ⟨host, items, told, same⟩ := fetch_told fetched
    exact ⟨host, items, told.prefix_trans begins,
      (same id).mp (disowns_of_removes treated ⟨force, reply, treats⟩)⟩
  · exact (fetch_only settings _ _ fetched _ whole).elim

theorem removes_of_strays {removed : List String} (run : (pass settings).Runs trace (.ok removed))
    (told : Told settings trace host items) (member : item ∈ items)
    (strays : Strays settings host item id)
    (shown : ∀ exchange ∈ trace, showsOther settings id exchange = true) : Removes id trace := by
  rcases pass_exchanges run with
    ⟨before, after, identity, records, split, fetched, treated⟩ | ⟨_, _, impossible⟩
  · obtain ⟨other, others, first, same⟩ := fetch_told fetched
    subst split
    obtain ⟨rfl, rfl⟩ := told.unique (first.prefix_trans (List.prefix_append before after))
    obtain ⟨force, reply, gone⟩ := removes_of_disowns treated ((same id).mpr ⟨item, member, strays⟩)
      fun exchange member => shown exchange (List.mem_append_right _ member)
    exact ⟨force, reply, List.mem_append_right _ gone⟩
  · cases impossible

/-- A pass removes a container for a record whose host is that of the pass. Of a host without a uuid these
    are the records without a host, and of any other host the records with its uuid. -/
theorem removal_goes_by_residence {rest : Plan (Outcome (List String))}
    (begun : (ExceptT.run (pass settings)).Steps trace rest) (id : String) :
    (Removes id trace → ∃ host items, Told settings trace host items ∧ ∃ item ∈ items,
      Strays settings host item id ∧
      (valueOf item "host_uuid").isPresent = (valueOf host "uuid").isPresent) ∧
    (∀ host items, Told settings trace host items → (valueOf host "uuid").isPresent = false →
      (∀ item ∈ items, item.isObject = true → (valueOf item "host_uuid").isPresent = true) →
      ¬ Removes id trace) ∧
    ∀ host items, Told settings trace host items → (∃ item ∈ items, Strays settings host item id) →
      (∃ removed, rest = .done (.ok removed)) →
      (∀ exchange ∈ trace, showsOther settings id exchange = true) → Removes id trace := by
  refine ⟨?_, ?_, ?_⟩
  · intro removes
    obtain ⟨host, items, told, item, member, strays⟩ := told_of_removes begun removes
    exact ⟨host, items, told, item, member, strays, strays.isPresent_eq⟩
  · intro host items told unknown placed removes
    obtain ⟨other, others, again, item, member, strays⟩ := told_of_removes begun removes
    obtain ⟨rfl, rfl⟩ := told.unique again
    have present := placed item member strays.object
    rw [strays.isPresent_eq, unknown] at present
    cases present
  · intro host items told ⟨item, member, strays⟩ ⟨removed, returned⟩ shown
    subst returned
    exact removes_of_strays begun told member strays shown

def unplaced : World where
  inspections := [("d", .obj [("Name", .str "/web")])]
  pages := [("/self/host", [page "\x7b\x7d"]), ("/containers", [page "[\x7b\"external_id\":\"d\"\x7d]"])]

theorem removal_goes_by_residence_of_unplaced :
    let trace := (pass {}).history World.answer unplaced
    Removes "d" trace ∧ ∃ host items, Told {} trace host items ∧ ∃ item ∈ items,
      Strays {} host item "d" ∧
      (valueOf item "host_uuid").isPresent = (valueOf host "uuid").isPresent := by
  have removes : Removes "d" ((pass {}).history World.answer unplaced) := by decide +kernel
  exact ⟨removes, (removal_goes_by_residence ((pass {}).runs_history World.answer unplaced) "d").1 removes⟩

/-- A host without a uuid does not keep a pass from removing. -/
theorem unplaced_record_removed :
    let trace := (pass {}).history World.answer unplaced
    ∃ host items, Told {} trace host items ∧ (valueOf host "uuid").isPresent = false ∧
      Removes "d" trace := by
  intro trace
  have facts : Removes "d" trace ∧
      (trace.head?.bind Metadata.documentOf).any (fun host => !(valueOf host "uuid").isPresent) =
        true := by
    decide +kernel
  obtain ⟨removes, unknown⟩ := facts
  have begun : (pass {}).Runs trace _ := (pass {}).runs_history World.answer unplaced
  obtain ⟨host, items, told, _⟩ := told_of_removes begun removes
  rw [told.host_eq] at unknown
  exact ⟨host, items, told, by simpa using unknown, removes⟩

end Orphan

end ContainerWarden
