import ContainerWarden.Proofs.Duplicate.Fleet
import ContainerWarden.Proofs.Duplicate.Trace

namespace ContainerWarden.Duplicate

variable {settings : Settings} {service : String}

def isStopOf (id : String) : Exchange → Bool
  | ⟨.stop target _, .ok ()⟩ => target.isText id
  | _ => false

theorem isStopOf_iff {id : String} {exchange : Exchange} :
    isStopOf id exchange = true ↔ ∃ grace, exchange = ⟨.stop (.str id) grace, .ok ()⟩ := by
  constructor
  · intro stop
    obtain ⟨effect, reply⟩ := exchange
    cases effect
    case stop target grace =>
      cases reply with
      | ok _ =>
        have same : target = .str id := Json.isText_iff.mp stop
        exact ⟨grace, by rw [same]⟩
      | error fault => cases stop
    all_goals cases stop
  · intro ⟨grace, same⟩
    rw [same]
    exact Json.isText_iff.mpr rfl

def Container.after (trace : List Exchange) (container : Container) : Container :=
  { container with running := container.running && !trace.any (isStopOf container.id) }

theorem Container.serves_after (trace : List Exchange) (container : Container) :
    (container.after trace).serves settings service =
      (container.serves settings service && !trace.any (isStopOf container.id)) := by
  unfold serves Container.after isInstance
  cases container.running <;> cases trace.any (isStopOf container.id) <;> simp

theorem Container.after_of_spared {trace : List Exchange} {container : Container}
    (spared : trace.any (isStopOf container.id) = false) : container.after trace = container := by
  simp [Container.after, spared]

theorem ids_after (trace : List Exchange) (fleet : List Container) :
    (fleet.map (·.after trace)).map (·.id) = fleet.map (·.id) := by
  rw [List.map_map]
  rfl

theorem granted_after {before after : List Container} {trace : List Exchange}
    (granted : surroundings.Grants before trace after) : after = before.map (·.after trace) := by
  induction granted with
  | refl fleet => simp [Container.after]
  | @step before middle after effect reply trace answered later ih =>
    rw [ih]
    obtain ⟨same, other, _⟩ | ⟨id, grace, stop, same⟩ := answer_cases answered
    · subst same
      apply List.map_congr_left
      intro container _
      have silent : isStopOf container.id ⟨effect, reply⟩ = false := by
        rw [Bool.eq_false_iff]
        intro stop
        obtain ⟨grace, equal⟩ := isStopOf_iff.mp stop
        exact other _ grace equal
      simp [Container.after, silent]
    · cases stop
      subst same
      rw [List.map_map]
      apply List.map_congr_left
      intro container _
      simp [Container.after, Container.halted, isStopOf, Bool.and_assoc]

theorem instances_after (trace : List Exchange) (fleet : List Container) :
    instances settings service (fleet.map (·.after trace)) =
      (instances settings service fleet).filter fun container =>
        !trace.any (isStopOf container.id) := by
  induction fleet with
  | nil => rfl
  | cons container fleet ih =>
    unfold instances at ih ⊢
    rw [List.map_cons, List.filter_cons, List.filter_cons, Container.serves_after, ih]
    cases serves : container.serves settings service with
    | false => simp
    | true =>
      cases spared : trace.any (isStopOf container.id) with
      | true => simp [spared]
      | false => simp [spared, Container.after_of_spared]

theorem shown_of_granted {before after : List Container} {records : List Json}
    {summaries : List ContainerSummary} {trace : List Exchange}
    (granted : surroundings.Grants before (⟨.list true, .ok records⟩ :: trace) after)
    (read : records.mapM ContainerSummary.ofJson = .ok summaries) :
    List.Forall₂ Shown summaries before := by
  obtain ⟨_, answered, _⟩ := Surroundings.grants_cons.mp granted
  exact answered.2 summaries read

theorem Passes.surplus_of_stop {trace : List Exchange} {outcome : Outcome (List Json)}
    (passes : Passes settings trace outcome) {before after : List Container}
    (granted : surroundings.Grants before trace after) {id : Json} {grace : Int}
    {reply : Outcome Unit} (member : ⟨.stop id grace, reply⟩ ∈ trace) :
    ∃ service ∈ settings.singletonServices, ∃ container,
      surplus settings service before = some container ∧ id = .str container.id := by
  cases passes with
  | unlisted fault => simp at member
  | unreadable unread => simp at member
  | @checked records summaries trace results read each =>
    have stops : ⟨.stop id grace, reply⟩ ∈ trace := by simpa using member
    obtain ⟨earlier, later, split⟩ := List.append_of_mem stops
    obtain ⟨item, selected, _, _, _, stop, _⟩ := each.at_exchange split
    obtain ⟨same, _⟩ := stop.before_stop
    subst same
    exact (mem_select (shown_of_granted granted read)).mp selected

/-- An answer that lets a pass go on: the containers are listed, rows are written, and a stop fails in
    the ways of the runtime only. -/
def isOrderly : Exchange → Bool
  | ⟨.list _, .ok records⟩ => (records.mapM ContainerSummary.ofJson).toBool
  | ⟨.list _, .error _⟩ => false
  | ⟨.stop _ _, .error fault⟩ => fault.isRuntime
  | ⟨.log _, .error _⟩ => false
  | _ => true

theorem Stops.returns {id : Json} {trace : List Exchange} {outcome : Outcome Unit}
    (stops : Stops id trace outcome) (orderly : ∀ exchange ∈ trace, isOrderly exchange = true) :
    outcome = .ok () ∧ ∃ reply, ⟨.stop id 0, reply⟩ ∈ trace := by
  cases stops with
  | unannounced fault =>
    have written := orderly ⟨.log (announcement id), .error fault⟩ (by simp)
    cases written
  | stopped => exact ⟨rfl, .ok (), by simp⟩
  | @failed fault caught =>
    cases outcome with
    | ok _ => exact ⟨rfl, .error fault, by simp⟩
    | error refusal =>
      have written := orderly ⟨.log (stopFailure id fault), .error refusal⟩ (by simp)
      cases written
  | @broken fault uncaught =>
    have caught := orderly ⟨.stop id 0, .error fault⟩ (by simp)
    rw [isOrderly, uncaught] at caught
    cases caught

theorem stops_return {ids : List Json} {trace : List Exchange} {results : Outcome (List Unit)}
    (each : Job.Each Stops ids trace results)
    (orderly : ∀ exchange ∈ trace, isOrderly exchange = true) : ∃ units, results = .ok units := by
  cases results with
  | ok units => exact ⟨units, rfl⟩
  | error fault =>
    obtain ⟨item, _, part, stop, ends⟩ := each.of_error
    have failed := (stop.returns fun exchange member => orderly exchange (ends.subset member)).1
    cases failed

/-- A pass in good order returns, and it calls for the stop of every surplus instance. -/
theorem Passes.returns {trace : List Exchange} {outcome : Outcome (List Json)}
    (passes : Passes settings trace outcome) {before after : List Container}
    (granted : surroundings.Grants before trace after)
    (orderly : ∀ exchange ∈ trace, isOrderly exchange = true) :
    (∃ ids, outcome = .ok ids) ∧
    ∀ service ∈ settings.singletonServices, ∀ container,
      surplus settings service before = some container →
        ∃ reply, ⟨.stop (.str container.id) 0, reply⟩ ∈ trace := by
  cases passes with
  | unlisted fault =>
    have listed := orderly ⟨.list true, .error fault⟩ (by simp)
    cases listed
  | @unreadable records fault unread =>
    have listed := orderly ⟨.list true, .ok records⟩ (by simp)
    rw [isOrderly, unread] at listed
    cases listed
  | @checked records summaries trace results read each =>
    have own : ∀ exchange ∈ trace, isOrderly exchange = true := by
      intro exchange member
      exact orderly exchange (by simp [member])
    obtain ⟨units, rfl⟩ := stops_return each own
    refine ⟨⟨_, rfl⟩, ?_⟩
    intro service singleton container found
    have selected := (mem_select (shown_of_granted granted read)).mpr
      ⟨service, singleton, container, found, rfl⟩
    obtain ⟨part, _, stop, within⟩ := each.of_mem selected
    obtain ⟨_, reply, member⟩ := stop.returns fun exchange member => own exchange (within member)
    exact ⟨reply, by simp [within member]⟩

theorem Passes.surplus_of_isStopOf {trace : List Exchange} {outcome : Outcome (List Json)}
    (passes : Passes settings trace outcome) {before after : List Container}
    (distinct : (before.map (·.id)).Nodup) (granted : surroundings.Grants before trace after)
    {container : Container} (there : container ∈ before)
    (stopped : trace.any (isStopOf container.id) = true) :
    ∃ service ∈ settings.singletonServices, surplus settings service before = some container := by
  obtain ⟨exchange, stop, done⟩ := List.any_eq_true.mp stopped
  obtain ⟨grace, same⟩ := isStopOf_iff.mp done
  subst same
  obtain ⟨service, singleton, last, found, equal⟩ := passes.surplus_of_stop granted stop
  have lastThere := (mem_instances.mp (mem_of_surplus found)).1
  have own : container = last :=
    List.inj_on_of_nodup_map distinct there lastThere (Json.str.inj equal)
  subst own
  exact ⟨service, singleton, found⟩

theorem Passes.surplus_of_instance {trace : List Exchange} {outcome : Outcome (List Json)}
    (passes : Passes settings trace outcome) {before after : List Container}
    (distinct : (before.map (·.id)).Nodup) (granted : surroundings.Grants before trace after)
    {container : Container} (member : container ∈ instances settings service before)
    (stopped : trace.any (isStopOf container.id) = true) :
    surplus settings service before = some container := by
  obtain ⟨there, serves⟩ := mem_instances.mp member
  obtain ⟨other, _, found⟩ := passes.surplus_of_isStopOf distinct granted there stopped
  rw [Container.serves_unique serves (mem_instances.mp (mem_of_surplus found)).2]
  exact found

def Ends (settings : Settings) (before after : Container) : Prop :=
  after = before ∨ (∃ service ∈ settings.singletonServices, before.serves settings service = true) ∧
    after = { before with running := false }

theorem Ends.trans {first middle last : Container} (begun : Ends settings first middle)
    (ended : Ends settings middle last) : Ends settings first last := by
  rcases begun with same | ⟨serves, same⟩
  · subst same
    exact ended
  · rcases ended with equal | ⟨_, equal⟩
    · exact .inr ⟨serves, by rw [equal, same]⟩
    · exact .inr ⟨serves, by rw [equal, same]⟩

theorem ends_trans {first middle last : List Container}
    (begun : List.Forall₂ (Ends settings) first middle)
    (ended : List.Forall₂ (Ends settings) middle last) : List.Forall₂ (Ends settings) first last := by
  induction begun generalizing last with
  | nil => exact ended
  | cons head _ ih =>
    cases ended with
    | cons next rest => exact .cons (head.trans next) (ih rest)

theorem Passes.ends {trace : List Exchange} {outcome : Outcome (List Json)}
    (passes : Passes settings trace outcome) {before after : List Container}
    (distinct : (before.map (·.id)).Nodup) (granted : surroundings.Grants before trace after) :
    List.Forall₂ (Ends settings) before after := by
  rw [granted_after granted, List.forall₂_map_right_iff, List.forall₂_same]
  intro container there
  cases stopped : trace.any (isStopOf container.id) with
  | false => exact .inl (Container.after_of_spared stopped)
  | true =>
    obtain ⟨service, singleton, found⟩ :=
      passes.surplus_of_isStopOf distinct granted there stopped
    have serves := (mem_instances.mp (mem_of_surplus found)).2
    exact .inr ⟨⟨service, singleton, serves⟩, by simp [Container.after, stopped]⟩

def Effective (settings : Settings) (service : String) (fleet : List Container)
    (trace : List Exchange) : Prop :=
  ∀ container ∈ instances settings service fleet, ∀ grace reply,
    ⟨.stop (.str container.id) grace, reply⟩ ∈ trace → reply = .ok ()

theorem Passes.instances {trace : List Exchange} {outcome : Outcome (List Json)}
    (passes : Passes settings trace outcome) {before after : List Container}
    (distinct : (before.map (·.id)).Nodup) (granted : surroundings.Grants before trace after)
    (orderly : ∀ exchange ∈ trace, isOrderly exchange = true)
    (singleton : service ∈ settings.singletonServices)
    (effective : Effective settings service before trace) :
    Duplicate.instances settings service after =
      (Duplicate.instances settings service before).take
        (max 1 ((Duplicate.instances settings service before).length - 1)) := by
  rw [granted_after granted, instances_after]
  cases found : surplus settings service before with
  | none =>
    have few : (Duplicate.instances settings service before).length ≤ 1 := by
      unfold surplus at found
      split at found
      · rename_i several
        rw [List.getLast?_eq_none_iff] at found
        rw [found] at several
        exact absurd several (by simp)
      · omega
    rw [List.take_of_length_le (by omega), List.filter_eq_self]
    intro container member
    cases stopped : trace.any (isStopOf container.id) with
    | false => rfl
    | true =>
      rw [passes.surplus_of_instance distinct granted member stopped] at found
      cases found
  | some last =>
    obtain ⟨first, others, whole⟩ := surplus_eq_some found
    obtain ⟨reply, member⟩ := (passes.returns granted orderly).2 service singleton last found
    have done := effective last (mem_of_surplus found) 0 reply member
    subst done
    have gone : trace.any (isStopOf last.id) = true :=
      List.any_eq_true.mpr ⟨_, member, isStopOf_iff.mpr ⟨0, rfl⟩⟩
    -- No other instance of the service is stopped, for a pass stops the surplus one alone.
    have apart := instances_nodup distinct settings service
    have spared : ∀ container ∈ first :: others,
        (!trace.any (isStopOf container.id)) = true := by
      intro container earlier
      cases stopped : trace.any (isStopOf container.id) with
      | false => rfl
      | true =>
        have member : container ∈ Duplicate.instances settings service before := by
          rw [whole]
          exact List.mem_append_left _ earlier
        have same := passes.surplus_of_instance distinct granted member stopped
        rw [found] at same
        cases same
        rw [whole, List.map_append] at apart
        have disjoint := List.disjoint_of_nodup_append apart
        exact absurd (List.mem_map_of_mem earlier) fun twice => disjoint twice (by simp)
    rw [whole, List.filter_append, List.filter_eq_self.mpr spared]
    simp [gone]

inductive Consecutive (settings : Settings) :
    List (List Exchange × Outcome (List Json)) → List Container → List Container → Prop where
  | nil (fleet : List Container) : Consecutive settings [] fleet fleet
  | cons {trace : List Exchange} {outcome : Outcome (List Json)}
      {passes : List (List Exchange × Outcome (List Json))} {before middle after : List Container}
      (run : (pass settings).Runs trace outcome) (granted : surroundings.Grants before trace middle)
      (later : Consecutive settings passes middle after) :
      Consecutive settings ((trace, outcome) :: passes) before after

theorem instances_sublist {before after : List Container} {trace : List Exchange}
    (granted : surroundings.Grants before trace after) :
    (instances settings service after).Sublist (instances settings service before) := by
  rw [granted_after granted, instances_after]
  exact List.filter_sublist

theorem distinct_after {before after : List Container} {trace : List Exchange}
    (distinct : (before.map (·.id)).Nodup) (granted : surroundings.Grants before trace after) :
    (after.map (·.id)).Nodup := by
  rw [granted_after granted, ids_after]
  exact distinct

theorem Consecutive.ends {passes : List (List Exchange × Outcome (List Json))}
    {before after : List Container} (consecutive : Consecutive settings passes before after)
    (distinct : (before.map (·.id)).Nodup) : List.Forall₂ (Ends settings) before after := by
  induction consecutive with
  | nil fleet => exact List.forall₂_same.mpr fun container _ => .inl rfl
  | cons run granted later ih =>
    have first := (pass_exchanges run).ends distinct granted
    have rest := ih (distinct_after distinct granted)
    exact ends_trans first rest

theorem Consecutive.quiet {passes : List (List Exchange × Outcome (List Json))}
    {before after : List Container} (consecutive : Consecutive settings passes before after)
    (few : ∀ service ∈ settings.singletonServices, (instances settings service before).length ≤ 1) :
    ∀ one ∈ passes, ∀ id grace reply, ⟨.stop id grace, reply⟩ ∉ one.1 := by
  induction consecutive with
  | nil fleet => simp
  | @cons trace outcome passes before middle after run granted later ih =>
    intro one member id grace reply stop
    rcases List.mem_cons.mp member with same | rest
    · subst same
      obtain ⟨service, singleton, container, found, _⟩ :=
        (pass_exchanges run).surplus_of_stop granted stop
      obtain ⟨first, others, whole⟩ := surplus_eq_some found
      have several := few service singleton
      rw [whole] at several
      simp at several
    · apply ih _ one rest id grace reply stop
      intro service singleton
      exact Nat.le_trans (instances_sublist granted).length_le (few service singleton)

theorem Consecutive.returns {passes : List (List Exchange × Outcome (List Json))}
    {before after : List Container} (consecutive : Consecutive settings passes before after)
    (orderly : ∀ one ∈ passes, ∀ exchange ∈ one.1, isOrderly exchange = true) :
    ∀ one ∈ passes, ∃ ids, one.2 = .ok ids := by
  induction consecutive with
  | nil fleet => simp
  | @cons trace outcome passes before middle after run granted later ih =>
    intro one member
    rcases List.mem_cons.mp member with same | rest
    · subst same
      exact ((pass_exchanges run).returns granted (orderly _ member)).1
    · exact ih (fun one member => orderly one (List.mem_cons_of_mem _ member)) one rest

theorem Consecutive.instances {passes : List (List Exchange × Outcome (List Json))}
    {before after : List Container} (consecutive : Consecutive settings passes before after)
    (distinct : (before.map (·.id)).Nodup)
    (orderly : ∀ one ∈ passes, ∀ exchange ∈ one.1, isOrderly exchange = true)
    (singleton : service ∈ settings.singletonServices)
    (effective : ∀ one ∈ passes, Effective settings service before one.1) :
    Duplicate.instances settings service after =
      (Duplicate.instances settings service before).take
        (max 1 ((Duplicate.instances settings service before).length - passes.length)) := by
  induction consecutive with
  | nil fleet =>
    symm
    apply List.take_of_length_le
    rw [List.length_nil]
    omega
  | @cons trace outcome passes before middle after run granted later ih =>
    -- The instances after the first pass are some of those before it: the later stops for the service
    -- concern instances of the beginning, and succeed.
    have first := (pass_exchanges run).instances distinct granted
      (orderly _ List.mem_cons_self) singleton (effective _ List.mem_cons_self)
    have rest := ih (distinct_after distinct granted)
      (fun one member => orderly one (List.mem_cons_of_mem _ member))
      (fun one member container there => effective one (List.mem_cons_of_mem _ member) container
        ((instances_sublist granted).subset there))
    rw [rest, first, List.take_take, List.length_take, List.length_cons]
    congr 1
    omega

/-- Each pass in good order takes the oldest instance off every service that has several, until one is
    left. -/
theorem passes_converge {passes : List (List Exchange × Outcome (List Json))}
    {before after : List Container} (consecutive : Consecutive settings passes before after)
    (distinct : (before.map (·.id)).Nodup) :
    List.Forall₂ (Ends settings) before after ∧
    ((∀ service ∈ settings.singletonServices, (instances settings service before).length ≤ 1) →
      ∀ one ∈ passes, ∀ id grace reply, ⟨.stop id grace, reply⟩ ∉ one.1) ∧
    ((∀ one ∈ passes, ∀ exchange ∈ one.1, isOrderly exchange = true) →
      (∀ one ∈ passes, ∃ ids, one.2 = .ok ids) ∧
      ∀ service ∈ settings.singletonServices,
        (∀ one ∈ passes, Effective settings service before one.1) →
          instances settings service after = (instances settings service before).take
            (max 1 ((instances settings service before).length - passes.length))) := by
  refine ⟨consecutive.ends distinct, consecutive.quiet, ?_⟩
  intro orderly
  refine ⟨consecutive.returns orderly, ?_⟩
  intro service singleton effective
  exact consecutive.instances distinct orderly singleton effective

theorem passes_converge_on_pair :
    let before := ["new", "old"].map (server "network-services/metadata")
    ∃ trace outcome after, Consecutive {} [(trace, outcome)] before after ∧
      (∃ ids, outcome = .ok ids) ∧ instances {} "network-services/metadata" after =
        [server "network-services/metadata" "new"] := by
  intro before
  have distinct : (before.map (·.id)).Nodup := by decide
  have singleton : "network-services/metadata" ∈ Settings.singletonServices {} := by decide
  have shown : ∀ summaries,
      (["new", "old"].map (serverRecord "network-services/metadata")).mapM ContainerSummary.ofJson =
        .ok summaries → List.Forall₂ Shown summaries before := by
    intro summaries read
    cases read
    exact .cons ⟨rfl, rfl, rfl⟩ (.cons ⟨rfl, rfl, rfl⟩ .nil)
  let trace : List Exchange :=
    [⟨.list true, .ok (["new", "old"].map (serverRecord "network-services/metadata"))⟩,
      ⟨.count .dedupPasses 1, ()⟩, ⟨.log (announcement (.str "old")), .ok ()⟩,
      ⟨.stop (.str "old") 0, .ok ()⟩, ⟨.count .duplicatesStopped 1, ()⟩]
  have run : (pass {}).Runs trace (.ok [.str "old"]) :=
    .ask _ (.ask _ (.ask _ (.ask _ (.ask _ (.refl _)))))
  have granted : surroundings.Grants before trace (before.map (·.halted (.str "old"))) :=
    .step ⟨rfl, shown⟩ (.step rfl (.step rfl (.step rfl (.step rfl (.refl _)))))
  have orderly : trace.all isOrderly = true := rfl
  have effective : Effective {} "network-services/metadata" before trace := by
    simp [Effective, trace]
  have consecutive := Consecutive.cons run granted (.nil _)
  obtain ⟨_, _, converge⟩ := passes_converge consecutive distinct
  obtain ⟨returned, remains⟩ := converge (by simpa using orderly)
  refine ⟨_, _, _, consecutive, returned _ List.mem_cons_self, ?_⟩
  rw [remains _ singleton (by simpa using effective)]
  rfl

/-- A stop whose failure cannot be written keeps the other service from being checked. -/
theorem unwritable_failure_ends_pass :
    let fleet := ["m1", "m2"].map (server "network-services/metadata") ++
      ["n1", "n2"].map (server "network-services/metadata/dns")
    ∃ fault refusal trace, fault.isRuntime = true ∧
      EventLog.append {} (stopFailure (.str "m2") fault) = .error refusal ∧
      Consecutive {} [(trace, .error refusal)] fleet fleet ∧ (fleet.map (·.id)).Nodup ∧
      Effective {} "network-services/metadata/dns" fleet trace ∧
      instances {} "network-services/metadata/dns" fleet ≠
        (instances {} "network-services/metadata/dns" fleet).take
          (max 1 ((instances {} "network-services/metadata/dns" fleet).length - 1)) := by
  intro fleet
  let records := ["m1", "m2"].map (serverRecord "network-services/metadata") ++
    ["n1", "n2"].map (serverRecord "network-services/metadata/dns")
  let fault : Fault := .reported .apiError (Text.ofPoints [0xD800])
  have refused : (EventLog.append {} (stopFailure (.str "m2") fault)).toOption = none := by decide
  have shown : ∀ summaries, records.mapM ContainerSummary.ofJson = .ok summaries →
      List.Forall₂ Shown summaries fleet := by
    intro summaries read
    cases read
    exact .cons ⟨rfl, rfl, rfl⟩ (.cons ⟨rfl, rfl, rfl⟩
      (.cons ⟨rfl, rfl, rfl⟩ (.cons ⟨rfl, rfl, rfl⟩ .nil)))
  cases written : EventLog.append {} (stopFailure (.str "m2") fault) with
  | ok log =>
    rw [written] at refused
    cases refused
  | error refusal =>
    let trace : List Exchange :=
      [⟨.list true, .ok records⟩, ⟨.count .dedupPasses 1, ()⟩,
        ⟨.log (announcement (.str "m2")), .ok ()⟩, ⟨.stop (.str "m2") 0, .error fault⟩,
        ⟨.log (stopFailure (.str "m2") fault), .error refusal⟩]
    have run : (pass {}).Runs trace (.error refusal) :=
      .ask _ (.ask _ (.ask _ (.ask _ (.ask _ (.refl _)))))
    have granted : surroundings.Grants fleet trace fleet :=
      .step ⟨rfl, shown⟩ (.step rfl (.step rfl (.step rfl (.step rfl (.refl _)))))
    refine ⟨fault, refusal, _, rfl, written, .cons run granted (.nil _), by decide, ?_, ?_⟩
    · intro container there grace reply stop
      have named : container ∈ ["n1", "n2"].map (server "network-services/metadata/dns") := there
      obtain ⟨id, other, same⟩ := List.mem_map.mp named
      subst same
      simp [trace, server] at stop
      rw [stop.1.1] at other
      exact absurd other (by decide)
    · intro same
      have lengths := congrArg List.length same
      cases lengths

end ContainerWarden.Duplicate
