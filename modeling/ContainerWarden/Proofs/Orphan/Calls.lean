import ContainerWarden.Proofs.Orphan.Trace
import ContainerWarden.World

namespace ContainerWarden

def Effect.IsFetch : Effect → Prop
  | .fetch _ => True
  | _ => False

namespace Metadata

theorem document_only (path : String) (request : HttpRequest) :
    Job.Only Effect.IsFetch (document path request) := by
  unfold document
  refine Job.Only.bind (Job.Only.fetch trivial) ?_
  intro response
  refine Job.Only.bind (Job.Only.ofExcept _) ?_
  intro _
  have read : Job.Only Effect.IsFetch (Job.ofExcept (contents path response)) :=
    Job.Only.ofExcept _
  split
  · exact Job.Only.bind (Job.Only.throw _) fun _ => read
  · exact read

theorem plainDocument_only (settings : Settings) (path : String) :
    Job.Only Effect.IsFetch (plainDocument settings path) := by
  unfold plainDocument
  refine Job.Only.bind (Job.Only.ofExcept _) ?_
  intro request
  exact document_only path request

theorem selfHost_only (settings : Settings) : Job.Only Effect.IsFetch (selfHost settings) := by
  unfold selfHost
  refine Job.Only.bind (plainDocument_only settings _) ?_
  intro value
  split
  · exact Job.Only.ofExcept _
  · exact Job.Only.throw _

theorem containers_only (settings : Settings) : Job.Only Effect.IsFetch (containers settings) := by
  unfold containers
  refine Job.Only.bind (plainDocument_only settings _) ?_
  intro value
  split
  · exact Job.Only.ofExcept _
  · exact Job.Only.throw _

end Metadata

def Effect.isRuntimeCall : Effect → Bool
  | .list _ | .inspect _ | .remove _ _ | .stop _ _ | .subscribe => true
  | _ => false

def runtimeCalls (trace : List Exchange) : List Exchange := trace.filter (·.1.isRuntimeCall)

def counted (field : StatusField) : List Exchange → Nat
  | [] => 0
  | ⟨.count other amount, _⟩ :: rest => (if other = field then amount else 0) + counted field rest
  | _ :: rest => counted field rest

theorem runtimeCalls_append (before after : List Exchange) :
    runtimeCalls (before ++ after) = runtimeCalls before ++ runtimeCalls after :=
  List.filter_append ..

theorem counted_append (field : StatusField) (before after : List Exchange) :
    counted field (before ++ after) = counted field before + counted field after := by
  induction before with
  | nil => simp [counted]
  | cons exchange before ih =>
    obtain ⟨effect, reply⟩ := exchange
    cases effect
    case count other amount => simp only [List.cons_append, counted, ih, Nat.add_assoc]
    all_goals exact ih

theorem runtimeCalls_of_fetches {trace : List Exchange}
    (fetches : ∀ exchange ∈ trace, exchange.1.IsFetch) : runtimeCalls trace = [] := by
  apply List.filter_eq_nil_iff.mpr
  intro exchange member call
  have fetched := fetches exchange member
  obtain ⟨effect, reply⟩ := exchange
  cases effect
  case fetch request => cases call
  all_goals cases fetched

theorem counted_of_fetches (field : StatusField) {trace : List Exchange}
    (fetches : ∀ exchange ∈ trace, exchange.1.IsFetch) : counted field trace = 0 := by
  induction trace with
  | nil => rfl
  | cons exchange trace ih =>
    have fetched := fetches exchange (by simp)
    obtain ⟨effect, reply⟩ := exchange
    cases effect
    case fetch request => exact ih fun exchange member => fetches exchange (by simp [member])
    all_goals cases fetched

def isDocumented : Exchange → Bool
  | ⟨.inspect _, .ok record⟩ => record.isObject
  | ⟨.inspect _, .error fault⟩ => fault.isRuntime
  | ⟨.remove _ _, .error fault⟩ => fault.isRuntime
  | _ => true

namespace Orphan

def nameOf (members : List (String × Json)) : Json := (members.lookup "Name").getD (.str "")

inductive Treatment (settings : Settings) (id : String) : List Exchange → Bool → Prop where
  | unseen (fault : Fault) : Treatment settings id [⟨.inspect id, .error fault⟩] false
  | agent {members : List (String × Json)} (named : nameOf members = .str settings.agentName) :
      Treatment settings id [⟨.inspect id, .ok (.obj members)⟩] false
  | removed {members : List (String × Json)} (other : nameOf members ≠ .str settings.agentName)
      (reply : Outcome Unit) :
      Treatment settings id [⟨.inspect id, .ok (.obj members)⟩, ⟨.remove id true, reply⟩]
        (Runtime.isAway reply)

inductive Halt (settings : Settings) (record : DesiredContainer) : List Exchange → LogEntry → Prop where
  | unseen (fault : Fault) :
      Halt settings record [⟨.inspect record.externalId, .error fault⟩] (inspectFailure record fault)
  | unannounced {members : List (String × Json)}
      (other : nameOf members ≠ .str settings.agentName) :
      Halt settings record [⟨.inspect record.externalId, .ok (.obj members)⟩] (announcement record)
  | stayed {members : List (String × Json)} (other : nameOf members ≠ .str settings.agentName)
      {fault : Fault} (there : fault.isGone = false) :
      Halt settings record
        [⟨.inspect record.externalId, .ok (.obj members)⟩,
          ⟨.remove record.externalId true, .error fault⟩]
        (removeFailure record fault)

inductive Treatments (settings : Settings) (host : HostIdentity) :
    List DesiredContainer → List Exchange → List String → Prop where
  | nil : Treatments settings host [] [] []
  | spared {record : DesiredContainer} {records : List DesiredContainer} {calls : List Exchange}
      {removed : List String} (spared : ¬ Disowned settings host record)
      (others : Treatments settings host records calls removed) :
      Treatments settings host (record :: records) calls removed
  | treated {record : DesiredContainer} {records : List DesiredContainer}
      {calls later : List Exchange} {gone : Bool} {removed : List String}
      (own : Disowned settings host record) (first : Treatment settings record.externalId calls gone)
      (others : Treatments settings host records later removed) :
      Treatments settings host (record :: records) (calls ++ later)
        (if gone then record.externalId :: removed else removed)

inductive Halted (settings : Settings) (host : HostIdentity) :
    List DesiredContainer → List Exchange → List String → LogEntry → Prop where
  | here {record : DesiredContainer} {records : List DesiredContainer} {calls : List Exchange}
      {entry : LogEntry} (own : Disowned settings host record)
      (halt : Halt settings record calls entry) :
      Halted settings host (record :: records) calls [] entry
  | spared {record : DesiredContainer} {records : List DesiredContainer} {calls : List Exchange}
      {removed : List String} {entry : LogEntry} (spared : ¬ Disowned settings host record)
      (others : Halted settings host records calls removed entry) :
      Halted settings host (record :: records) calls removed entry
  | treated {record : DesiredContainer} {records : List DesiredContainer}
      {calls later : List Exchange} {gone : Bool} {removed : List String} {entry : LogEntry}
      (own : Disowned settings host record) (first : Treatment settings record.externalId calls gone)
      (others : Halted settings host records later removed entry) :
      Halted settings host (record :: records) (calls ++ later)
        (if gone then record.externalId :: removed else removed) entry

def isRefusal : Exchange → Bool
  | ⟨.log _, .error _⟩ => true
  | _ => false

def Reported (settings : Settings) (record : DesiredContainer) (trace : List Exchange)
    (outcome : Outcome Bool) : Prop :=
  (∃ gone, outcome = .ok gone ∧ Treatment settings record.externalId (runtimeCalls trace) gone ∧
    counted .containersRemoved trace = gone.toNat ∧ ∀ exchange ∈ trace, isRefusal exchange = false) ∨
  ∃ before entry fault, trace = before ++ [⟨.log entry, .error fault⟩] ∧ outcome = .error fault ∧
    Halt settings record (runtimeCalls before) entry ∧ counted .containersRemoved before = 0 ∧
    ∀ exchange ∈ before, isRefusal exchange = false

theorem nameIn_of_documented {id : String} {reply : Outcome Json}
    (documented : isDocumented ⟨.inspect id, reply⟩ = true) :
    (∃ members, reply = .ok (.obj members) ∧ Runtime.nameIn reply = .ok (nameOf members)) ∨
      ∃ fault, reply = .error fault ∧ fault.isRuntime = true := by
  cases reply with
  | error fault => exact .inr ⟨fault, rfl, documented⟩
  | ok record =>
    cases record
    case obj members => exact .inl ⟨members, rfl, rfl⟩
    all_goals cases documented

theorem Treats.reported {settings : Settings} {record : DesiredContainer} {trace : List Exchange}
    {outcome : Outcome Bool} (treats : Treats settings record trace outcome)
    (documented : ∀ exchange ∈ trace, isDocumented exchange = true) :
    Reported settings record trace outcome := by
  have answered (reply : Outcome Json) (asked : ⟨.inspect record.externalId, reply⟩ ∈ trace) :=
    nameIn_of_documented (documented _ asked)
  cases treats with
  | @unseen reply fault failed caught logged =>
    obtain ⟨members, same, named⟩ | ⟨other, same, _⟩ := answered reply (by simp)
    · rw [failed] at named
      cases named
    · subst same
      cases failed
      cases logged with
      | ok _ => exact .inl ⟨false, rfl, .unseen fault, rfl, by simp [isRefusal]⟩
      | error refusal =>
        exact .inr ⟨[_], _, refusal, rfl, rfl, .unseen fault, rfl, by simp [isRefusal]⟩
  | @broken reply fault failed uncaught =>
    obtain ⟨members, same, named⟩ | ⟨other, same, caught⟩ := answered reply (by simp)
    · rw [failed] at named
      cases named
    · subst same
      cases failed
      rw [caught] at uncaught
      cases uncaught
  | @agent reply name named agent =>
    obtain ⟨members, same, found⟩ | ⟨other, same, caught⟩ := answered reply (by simp)
    · rw [named] at found
      cases found
      subst same
      exact .inl ⟨false, rfl, .agent (Json.isText_iff.mp agent), rfl, by simp [isRefusal]⟩
    · subst same
      cases named
  | @discarded reply name rest outcome named different discards =>
    obtain ⟨members, same, found⟩ | ⟨other, same, caught⟩ := answered reply (by simp)
    · rw [named] at found
      cases found
      subst same
      have other : nameOf members ≠ .str settings.agentName := by
        intro agent
        rw [Json.isText_iff.mpr agent] at different
        cases different
      cases discards with
      | unannounced refusal =>
        exact .inr ⟨[_], _, refusal, rfl, rfl, .unannounced other, rfl, by simp [isRefusal]⟩
      | @away removal left =>
        have treated : Treatment settings record.externalId _ _ := .removed other removal
        rw [left] at treated
        exact .inl ⟨true, rfl, treated, rfl, by simp [isRefusal]⟩
      | @stayed fault there caught logged =>
        cases logged with
        | ok _ =>
          have treated : Treatment settings record.externalId _ _ := .removed other (.error fault)
          rw [Runtime.isAway, there] at treated
          exact .inl ⟨false, rfl, treated, rfl, by simp [isRefusal]⟩
        | error refusal =>
          exact .inr ⟨[_, _, _], _, refusal, rfl, rfl, .stayed other there, rfl, by simp [isRefusal]⟩
      | @broken fault uncaught =>
        have caught := documented ⟨.remove record.externalId true, .error fault⟩ (by simp)
        rw [isDocumented, uncaught] at caught
        cases caught
    · subst same
      cases named

theorem calls_of_each {settings : Settings} {host : HostIdentity} {records : List DesiredContainer}
    {trace : List Exchange} {results : Outcome (List Bool)}
    (each : Job.Each (Treats settings) (eligible settings host records) trace results)
    (documented : ∀ exchange ∈ trace, isDocumented exchange = true) :
    (∃ gone, results = .ok gone ∧
      Treatments settings host records (runtimeCalls trace)
        (goneIds (eligible settings host records) gone) ∧
      counted .containersRemoved trace = (goneIds (eligible settings host records) gone).length ∧
      ∀ exchange ∈ trace, isRefusal exchange = false) ∨
    ∃ before entry fault removed, trace = before ++ [⟨.log entry, .error fault⟩] ∧
      results = .error fault ∧ Halted settings host records (runtimeCalls before) removed entry ∧
      counted .containersRemoved before = removed.length ∧
      ∀ exchange ∈ before, isRefusal exchange = false := by
  -- The records are those before the selection: one that is spared leaves no exchanges behind.
  induction records generalizing trace results with
  | nil =>
    cases each
    exact .inl ⟨[], rfl, .nil, rfl, by simp⟩
  | cons record records ih =>
    by_cases own : Disowned settings host record
    · rw [eligible_cons_of_disowned own] at each ⊢
      cases each with
      | @next _ _ trace later gone outcome first others =>
        have recorded := first.reported fun exchange member => documented exchange (by simp [member])
        obtain ⟨_, same, calls, count, written⟩ | ⟨_, _, _, _, impossible, _⟩ := recorded
        · cases same
          obtain ⟨gones, same, rest, total, all⟩ |
            ⟨before, entry, fault, removed, split, same, rest, total, all⟩ :=
            ih others fun exchange member => documented exchange (by simp [member])
          · subst same
            refine .inl ⟨gone :: gones, rfl, ?_, ?_, ?_⟩
            · rw [runtimeCalls_append, goneIds_cons]
              exact .treated own calls rest
            · rw [counted_append, count, total, goneIds_cons]
              cases gone <;> simp [Nat.add_comm]
            · intro exchange member
              exact (List.mem_append.mp member).elim (written exchange) (all exchange)
          · subst split same
            refine .inr ⟨trace ++ before, entry, fault,
              if gone then record.externalId :: removed else removed, ?_, rfl, ?_, ?_, ?_⟩
            · rw [List.append_assoc]
            · rw [runtimeCalls_append]
              exact .treated own calls rest
            · rw [counted_append, count, total]
              cases gone <;> simp [Nat.add_comm]
            · intro exchange member
              exact (List.mem_append.mp member).elim (written exchange) (all exchange)
        · cases impossible
      | @stop _ _ trace fault failed =>
        obtain ⟨_, impossible, _⟩ | ⟨before, entry, fault, split, same, halt, count, written⟩ :=
          failed.reported documented
        · cases impossible
        · cases same
          exact .inr ⟨before, entry, fault, [], split, rfl, .here own halt, count, written⟩
    · rw [eligible_cons_of_spared own] at each ⊢
      obtain ⟨gone, same, rest, total, all⟩ |
        ⟨before, entry, fault, removed, split, same, rest, total, all⟩ :=
        ih each documented
      · exact .inl ⟨gone, same, .spared own rest, total, all⟩
      · exact .inr ⟨before, entry, fault, removed, split, same, .spared own rest, total, all⟩

structure Accounts (settings : Settings) (host : HostIdentity) (records : List DesiredContainer)
    (trace : List Exchange) (outcome : Outcome (List String)) : Prop where
  complete : (∀ entry fault, ⟨.log entry, .error fault⟩ ∉ trace) →
    ∃ removed, outcome = .ok removed ∧
      Treatments settings host records (runtimeCalls trace) removed ∧
      counted .containersRemoved trace = removed.length
  halted : ∀ entry fault, ⟨.log entry, .error fault⟩ ∈ trace →
    outcome = .error fault ∧ trace.getLast? = some ⟨.log entry, .error fault⟩ ∧
      ∃ removed, Halted settings host records (runtimeCalls trace) removed entry ∧
        counted .containersRemoved trace = removed.length

theorem accounts_of_treatAll {settings : Settings} {host : HostIdentity}
    {records : List DesiredContainer} {trace : List Exchange} {outcome : Outcome (List String)}
    (run : (treatAll settings (eligible settings host records)).Runs trace outcome)
    (documented : ∀ exchange ∈ trace, isDocumented exchange = true) :
    Accounts settings host records trace outcome := by
  obtain ⟨results, each, same⟩ := treatAll_exchanges run
  obtain ⟨gone, reached, treated, total, written⟩ |
    ⟨before, last, refusal, removed, split, reached, halted, total, written⟩ :=
    calls_of_each each documented
  · subst reached same
    refine ⟨fun _ => ⟨_, rfl, treated, total⟩, ?_⟩
    intro entry fault member
    have accepted := written _ member
    cases accepted
  · subst reached same split
    have calls : runtimeCalls (before ++ [⟨.log last, .error refusal⟩]) = runtimeCalls before := by
      rw [runtimeCalls_append]
      exact List.append_nil _
    have count : counted .containersRemoved (before ++ [⟨.log last, .error refusal⟩]) =
        counted .containersRemoved before := counted_append ..
    rw [← calls] at halted
    rw [← count] at total
    constructor
    · intro all
      exact absurd (by simp) (all last refusal)
    · intro entry fault member
      rcases List.mem_append.mp member with earlier | latest
      · have accepted := written _ earlier
        cases accepted
      · cases List.mem_singleton.mp latest
        exact ⟨rfl, List.getLast?_concat .., removed, halted, total⟩

theorem Accounts.after_fetches {settings : Settings} {host : HostIdentity}
    {records : List DesiredContainer} {fetches trace : List Exchange} {outcome : Outcome (List String)}
    (accounts : Accounts settings host records trace outcome)
    (fetching : ∀ exchange ∈ fetches, exchange.1.IsFetch) :
    Accounts settings host records (fetches ++ trace) outcome := by
  have calls : runtimeCalls (fetches ++ trace) = runtimeCalls trace := by
    rw [runtimeCalls_append, runtimeCalls_of_fetches fetching, List.nil_append]
  have count : counted .containersRemoved (fetches ++ trace) = counted .containersRemoved trace := by
    rw [counted_append, counted_of_fetches _ fetching, Nat.zero_add]
  constructor
  · intro written
    rw [calls, count]
    apply accounts.complete
    intro entry fault member
    exact written entry fault (List.mem_append_right _ member)
  · intro entry fault member
    rw [calls, count]
    have own := (List.mem_append.mp member).resolve_left (fetching _)
    obtain ⟨ended, last, halted⟩ := accounts.halted entry fault own
    exact ⟨ended, by rw [List.getLast?_append, last]; rfl, halted⟩

def fetch (settings : Settings) : Job (HostIdentity × List DesiredContainer) := do
  let host ← Metadata.selfHost settings
  let records ← Metadata.containers settings
  return (host, records)

theorem pass_eq (settings : Settings) : pass settings =
    fetch settings >>= fun found => treatAll settings (eligible settings found.1 found.2) := by
  simp [pass, fetch]

theorem fetch_only (settings : Settings) : Job.Only Effect.IsFetch (fetch settings) := by
  refine Job.Only.bind (Metadata.selfHost_only settings) ?_
  intro host
  refine Job.Only.bind (Metadata.containers_only settings) ?_
  intro records
  exact Job.Only.pure _

/-- A pass makes its calls record by record, whatever the answers, and only a row that is refused ends it
    early. -/
theorem pass_calls {settings : Settings} {answer : (effect : Effect) → σ → effect.Reply × σ} {s : σ}
    (documented : ∀ exchange ∈ (pass settings).history answer s, isDocumented exchange = true) :
    let trace := (pass settings).history answer s
    let outcome := ((pass settings).run answer s).1
    (∀ fault, ((fetch settings).run answer s).1 = .error fault →
      outcome = .error fault ∧ runtimeCalls trace = [] ∧ counted .containersRemoved trace = 0) ∧
    ∀ host records, ((fetch settings).run answer s).1 = .ok (host, records) →
      Accounts settings host records trace outcome := by
  intro trace outcome
  have fetching := fetch_only settings _ _ ((fetch settings).runs_history answer s)
  rcases fetched : (fetch settings).run answer s with ⟨reached, after⟩
  cases reached with
  | error fault =>
    have whole : trace = (fetch settings).history answer s := by
      simp only [trace, pass_eq, Job.history_bind_of_error fetched]
    have ended : outcome = .error fault := by
      simp only [outcome, pass_eq, Job.run_bind_of_error fetched]
    refine ⟨?_, fun host records impossible => by cases impossible⟩
    intro other same
    cases same
    rw [whole, ended]
    exact ⟨rfl, runtimeCalls_of_fetches fetching, counted_of_fetches _ fetching⟩
  | ok found =>
    refine ⟨fun fault impossible => (by cases impossible), ?_⟩
    intro host records same
    cases same
    have whole : trace = (fetch settings).history answer s ++
        (treatAll settings (eligible settings host records)).history answer after := by
      simp only [trace, pass_eq, Job.history_bind_of_ok fetched]
    have ended : outcome =
        ((treatAll settings (eligible settings host records)).run answer after).1 := by
      simp only [outcome, pass_eq, Job.run_bind_of_ok fetched]
    change ∀ exchange ∈ trace, isDocumented exchange = true at documented
    rw [whole] at documented ⊢
    rw [ended]
    apply Accounts.after_fetches _ fetching
    apply accounts_of_treatAll (Job.runs_history ..)
    intro exchange member
    exact documented exchange (List.mem_append_right _ member)

theorem Treatments.length_le {settings : Settings} {host : HostIdentity}
    {records : List DesiredContainer} {calls : List Exchange} {removed : List String}
    (treated : Treatments settings host records calls removed) :
    (eligible settings host records).length ≤ calls.length := by
  induction treated with
  | nil => simp [eligible]
  | spared spared others ih => rwa [eligible_cons_of_spared spared]
  | @treated record records calls later gone removed own first others ih =>
    have called : 0 < calls.length := by cases first <;> simp
    rw [eligible_cons_of_disowned own, List.length_cons, List.length_append]
    omega

def page (text : String) : Outcome HttpResponse := .ok { code := 200, body := text.toUTF8.toList }

def twoStrays (name : String) : World where
  inspections := [("d1", .obj [("Name", .str "/web")]), ("d2", .obj [])]
  pages :=
    [("/self/host", [page "\x7b\"uuid\":\"H\"\x7d"]),
      ("/containers", [page ("[\x7b\"external_id\":\"d1\",\"host_uuid\":\"H\",\"name\":\"" ++ name ++
        "\"\x7d,\x7b\"external_id\":\"d2\",\"host_uuid\":\"H\"\x7d]")])]

theorem pass_calls_of_twoStrays :
    ∃ host records removed,
      ((fetch {}).run World.answer (twoStrays "web")).1 = .ok (host, records) ∧
      (eligible {} host records).map (·.externalId) = ["d1", "d2"] ∧
      ((pass {}).run World.answer (twoStrays "web")).1 = .ok removed ∧
      Treatments {} host records
        (runtimeCalls ((pass {}).history World.answer (twoStrays "web"))) removed ∧
      counted .containersRemoved ((pass {}).history World.answer (twoStrays "web")) =
        removed.length := by
  have facts : ((pass {}).history World.answer (twoStrays "web")).all isDocumented = true ∧
      ((pass {}).history World.answer (twoStrays "web")).any isRefusal = false ∧
      ((fetch {}).run World.answer (twoStrays "web")).1.toOption.map
        (fun found => (eligible {} found.1 found.2).map (·.externalId)) = some ["d1", "d2"] := by
    decide +kernel
  obtain ⟨documented, written, found⟩ := facts
  cases fetched : ((fetch {}).run World.answer (twoStrays "web")).1 with
  | error fault =>
    rw [fetched] at found
    cases found
  | ok reached =>
    rw [fetched] at found
    have accounts := (pass_calls (List.all_eq_true.mp documented)).2 reached.1 reached.2 fetched
    have accepted : ∀ entry fault, ⟨.log entry, .error fault⟩ ∉
        (pass {}).history World.answer (twoStrays "web") := by
      intro entry fault member
      exact List.any_eq_false.mp written _ member rfl
    obtain ⟨removed, ended, treated, count⟩ := accounts.complete accepted
    exact ⟨reached.1, reached.2, removed, rfl, Option.some.inj found, ended, treated, count⟩

/-- A row that cannot be written keeps all later records from their treatment. -/
theorem unwritable_name_ends_pass :
    let trace := (pass {}).history World.answer (twoStrays "\\ud800")
    (∀ exchange ∈ trace, isDocumented exchange = true) ∧
    ∃ host records,
      ((fetch {}).run World.answer (twoStrays "\\ud800")).1 = .ok (host, records) ∧
      (eligible {} host records).map (·.externalId) = ["d1", "d2"] ∧
      ((pass {}).run World.answer (twoStrays "\\ud800")).1.toOption = none ∧
      ¬ ∃ removed, Treatments {} host records (runtimeCalls trace) removed := by
  have facts : ((pass {}).history World.answer (twoStrays "\\ud800")).all isDocumented = true ∧
      (runtimeCalls ((pass {}).history World.answer (twoStrays "\\ud800"))).length = 1 ∧
      ((pass {}).run World.answer (twoStrays "\\ud800")).1.toOption = none ∧
      ((fetch {}).run World.answer (twoStrays "\\ud800")).1.toOption.map
        (fun found => (eligible {} found.1 found.2).map (·.externalId)) = some ["d1", "d2"] := by
    decide +kernel
  obtain ⟨documented, one, failed, found⟩ := facts
  intro trace
  refine ⟨List.all_eq_true.mp documented, ?_⟩
  cases fetched : ((fetch {}).run World.answer (twoStrays "\\ud800")).1 with
  | error fault =>
    rw [fetched] at found
    cases found
  | ok reached =>
    rw [fetched] at found
    have disowned := Option.some.inj found
    refine ⟨reached.1, reached.2, rfl, disowned, failed, ?_⟩
    intro ⟨removed, treated⟩
    have called := treated.length_le
    have two := congrArg List.length disowned
    rw [List.length_map] at two
    change (runtimeCalls trace).length = 1 at one
    change (eligible {} reached.1 reached.2).length = 2 at two
    omega

end Orphan

end ContainerWarden
