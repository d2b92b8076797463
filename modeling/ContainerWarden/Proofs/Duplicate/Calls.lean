import ContainerWarden.Proofs.Audit
import ContainerWarden.Proofs.Duplicate.Convergence

namespace ContainerWarden

theorem Job.Each.of_append {one : ι → List Exchange → Outcome β → Prop} {first second : List ι}
    {trace : List Exchange} {results : List β} (each : Job.Each one (first ++ second) trace (.ok results)) :
    ∃ before after begun ended, trace = before ++ after ∧ Job.Each one first before (.ok begun) ∧
      Job.Each one second after (.ok ended) := by
  induction first generalizing trace results with
  | nil => exact ⟨[], trace, [], results, rfl, .nil, each⟩
  | cons item first ih =>
    generalize same : Except.ok results = outcome at each
    cases each with
    | @next _ _ own others result outcome done each =>
      cases outcome with
      | error fault => cases same
      | ok later =>
        obtain ⟨before, after, begun, ended, split, front, back⟩ := ih each
        subst split
        exact ⟨own ++ before, after, result :: begun, ended, (List.append_assoc ..).symm,
          .next done front, back⟩
    | stop failed => cases same

namespace Duplicate

section Selection

variable {settings : Settings} {service : String}

def due (settings : Settings) (listing : List ContainerSummary) : List Json :=
  (oldest? settings settings.metadataService listing).toList ++
    (oldest? settings settings.dnsService listing).toList

theorem select_eq_due (settings : Settings) (listing : List ContainerSummary) :
    select settings listing = due settings listing := by
  rw [select_eq_filterMap, due, Settings.singletonServices, List.filterMap_cons, List.filterMap_cons,
    List.filterMap_nil]
  cases oldest? settings settings.metadataService listing <;>
    cases oldest? settings settings.dnsService listing <;> rfl

/-- One listing becomes another by the insertion and deletion of containers that are no instances of a
    service. Such containers change their place by both. -/
inductive Elsewhere (settings : Settings) (service : String) (listing : List ContainerSummary) :
    List ContainerSummary → Prop where
  | refl : Elsewhere settings service listing listing
  | insert {before after : List ContainerSummary} {container : ContainerSummary}
      (outside : isInstance settings service container.running container.labels = false)
      (others : Elsewhere settings service listing (before ++ after)) :
      Elsewhere settings service listing (before ++ container :: after)
  | delete {before after : List ContainerSummary} {container : ContainerSummary}
      (outside : isInstance settings service container.running container.labels = false)
      (others : Elsewhere settings service listing (before ++ container :: after)) :
      Elsewhere settings service listing (before ++ after)

theorem serving_of_outside {container : ContainerSummary}
    (outside : isInstance settings service container.running container.labels = false)
    (before after : List ContainerSummary) :
    serving settings service (before ++ container :: after) =
      serving settings service (before ++ after) := by
  simp [serving, outside]

theorem Elsewhere.serving {listing other : List ContainerSummary}
    (elsewhere : Elsewhere settings service listing other) :
    Duplicate.serving settings service other = Duplicate.serving settings service listing := by
  induction elsewhere with
  | refl => rfl
  | insert outside _ ih => rw [serving_of_outside outside, ih]
  | delete outside _ ih => rw [← serving_of_outside outside, ih]

end Selection

section Exchanges

variable {settings : Settings} {id : Json} {trace : List Exchange}

def Settles (chosen : Option Json) (part : List Exchange) : Prop :=
  match chosen with
  | none => part = []
  | some id => Stops id part (.ok ())

theorem settles_of_each {chosen : Option Json} {results : List Unit}
    (each : Job.Each Stops chosen.toList trace (.ok results)) : Settles chosen trace := by
  generalize same : Except.ok results = outcome at each
  cases chosen with
  | none =>
    cases each
    rfl
  | some id =>
    cases each with
    | next stops others =>
      cases others
      rw [List.append_nil]
      exact stops
    | stop failed => cases same

def announced (trace : List Exchange) : List Json :=
  trace.filterMap fun
    | ⟨.log row, .ok ()⟩ => if row.level.isText "INFO" then some row.containerId else none
    | _ => none

def stopped (trace : List Exchange) : List Json :=
  trace.filterMap fun
    | ⟨.stop id _, .ok ()⟩ => some id
    | _ => none

theorem stopped_append (before after : List Exchange) :
    stopped (before ++ after) = stopped before ++ stopped after := List.filterMap_append

structure Issues (ids : List Json) (trace : List Exchange) : Prop where
  calls : (runtimeCalls trace).map (·.1) = ids.map (Effect.stop · 0)
  rows : announced trace = ids
  successes : (stopped trace).Sublist ids
  count : counted .duplicatesStopped trace = (stopped trace).length

theorem Issues.append {ids others : List Json} {later : List Exchange} (first : Issues ids trace)
    (second : Issues others later) : Issues (ids ++ others) (trace ++ later) where
  calls := by rw [runtimeCalls_append, List.map_append, first.calls, second.calls, List.map_append]
  rows := by
    have parts : announced (trace ++ later) = announced trace ++ announced later :=
      List.filterMap_append
    rw [parts, first.rows, second.rows]
  successes := by
    rw [stopped_append]
    exact first.successes.append second.successes
  count := by rw [counted_append, first.count, second.count, stopped_append, List.length_append]

/-- That a pass is counted is no matter of its stops. -/
theorem Issues.counting {ids : List Json} (issues : Issues ids trace) :
    Issues ids (⟨.count .dedupPasses 1, ()⟩ :: trace) where
  calls := issues.calls
  rows := issues.rows
  successes := issues.successes
  count := by
    have silent : counted .duplicatesStopped (⟨.count .dedupPasses 1, ()⟩ :: trace) =
        0 + counted .duplicatesStopped trace := rfl
    rw [silent, Nat.zero_add, issues.count]
    rfl

theorem Stops.issues {outcome : Outcome Unit} (stops : Stops id trace outcome) :
    Issues [id] trace ∨ Issues [] trace ∧ ∃ fault, outcome = .error fault := by
  cases stops with
  | unannounced fault => exact .inr ⟨⟨rfl, rfl, .slnil, rfl⟩, fault, rfl⟩
  | stopped => exact .inl ⟨rfl, rfl, .refl _, rfl⟩
  | broken => exact .inl ⟨rfl, rfl, List.nil_sublist _, rfl⟩
  | failed => cases outcome <;> exact .inl ⟨rfl, rfl, List.nil_sublist _, rfl⟩

theorem issues_of_each {ids : List Json} {results : Outcome (List Unit)}
    (each : Job.Each Stops ids trace results) :
    ∃ made, made <+: ids ∧ Issues made trace ∧ ∀ units, results = .ok units → made = ids := by
  induction each with
  | nil => exact ⟨[], List.nil_prefix, ⟨rfl, rfl, .slnil, rfl⟩, fun _ _ => rfl⟩
  | @next id rest own others result outcome stops each ih =>
    obtain ⟨made, begins, issues, all⟩ := ih
    rcases stops.issues with issued | ⟨_, _, impossible⟩
    · refine ⟨id :: made, List.cons_prefix_cons.mpr ⟨rfl, begins⟩, issued.append issues, ?_⟩
      intro units reached
      cases outcome with
      | error fault => cases reached
      | ok later => rw [all later rfl]
    · cases impossible
  | @stop id rest own fault stops =>
    rcases stops.issues with issued | ⟨silent, _⟩
    · exact ⟨[id], List.cons_prefix_cons.mpr ⟨rfl, List.nil_prefix⟩, issued, nofun⟩
    · exact ⟨[], List.nil_prefix, silent, nofun⟩

end Exchanges

section Pass

variable {settings : Settings} {records : List Json} {listing : List ContainerSummary}
  {trace : List Exchange} {outcome : Outcome (List Json)}

theorem stops_of_pass (read : records.mapM ContainerSummary.ofJson = .ok listing)
    (run : (pass settings).Runs (⟨.list true, .ok records⟩ :: trace) outcome) :
    ∃ stopping results, trace = ⟨.count .dedupPasses 1, ()⟩ :: stopping ∧
      Job.Each Stops (due settings listing) stopping results ∧
      outcome = results.map fun _ => due settings listing := by
  cases pass_exchanges run with
  | unreadable unread => cases read.symm.trans unread
  | @checked _ summaries stopping results readable each =>
    cases read.symm.trans readable
    rw [select_eq_due] at each ⊢
    exact ⟨stopping, results, rfl, each, rfl⟩

theorem settled_of_pass (read : records.mapM ContainerSummary.ofJson = .ok listing)
    (run : (pass settings).Runs (⟨.list true, .ok records⟩ :: trace) outcome)
    (orderly : ∀ exchange ∈ trace, isOrderly exchange = true) :
    ∃ first second, trace = ⟨.count .dedupPasses 1, ()⟩ :: (first ++ second) ∧
      Settles (oldest? settings settings.metadataService listing) first ∧
      Settles (oldest? settings settings.dnsService listing) second ∧
      outcome = .ok (due settings listing) := by
  obtain ⟨stopping, results, rfl, each, rfl⟩ := stops_of_pass read run
  obtain ⟨units, rfl⟩ := stops_return each fun exchange member => orderly exchange (by simp [member])
  obtain ⟨first, second, _, _, rfl, begun, ended⟩ := each.of_append
  exact ⟨first, second, rfl, settles_of_each begun, settles_of_each ended, rfl⟩

theorem issued_of_pass (read : records.mapM ContainerSummary.ofJson = .ok listing)
    (run : (pass settings).Runs (⟨.list true, .ok records⟩ :: trace) outcome) :
    ∃ made, made <+: due settings listing ∧ Issues made trace ∧
      ∀ ids, outcome = .ok ids → ids = due settings listing ∧ made = due settings listing := by
  obtain ⟨stopping, results, rfl, each, rfl⟩ := stops_of_pass read run
  obtain ⟨made, begins, issues, all⟩ := issues_of_each each
  refine ⟨made, begins, issues.counting, ?_⟩
  intro ids returned
  cases results with
  | error fault => cases returned
  | ok units =>
    cases returned
    exact ⟨rfl, all units rfl⟩

end Pass

/-- What a pass does after a listing. -/
structure StopsOldest (settings : Settings) (listing : List ContainerSummary) (trace : List Exchange)
    (outcome : Outcome (List Json)) : Prop where
  settled : (∀ exchange ∈ trace, isOrderly exchange = true) →
    ∃ first second, trace = ⟨.count .dedupPasses 1, ()⟩ :: (first ++ second) ∧
      Settles (oldest? settings settings.metadataService listing) first ∧
      Settles (oldest? settings settings.dnsService listing) second ∧
      outcome = .ok (due settings listing)
  issued : ∃ made, made <+: due settings listing ∧ Issues made trace ∧
    ∀ ids, outcome = .ok ids → ids = due settings listing ∧ made = due settings listing
  refused : ∀ before row refusal after, trace = before ++ ⟨.log row, .error refusal⟩ :: after →
    after = [] ∧ outcome = .error refusal
  framed : ∀ service other, Elsewhere settings service listing other →
    oldest? settings service other = oldest? settings service listing

/-- The oldest instance of each service that has several is stopped, and nothing else. -/
theorem oldest_stopped {settings : Settings} {records : List Json} {listing : List ContainerSummary}
    {trace : List Exchange} {outcome : Outcome (List Json)}
    (read : records.mapM ContainerSummary.ofJson = .ok listing)
    (run : (pass settings).Runs (⟨.list true, .ok records⟩ :: trace) outcome) :
    StopsOldest settings listing trace outcome where
  settled := settled_of_pass read run
  issued := issued_of_pass read run
  refused before row refusal after split := by
    have last := (pass_audited run).refused (⟨.list true, .ok records⟩ :: before) row refusal after
      (by rw [split]; rfl)
    exact ⟨last.1, Plan.done.inj last.2⟩
  framed service other elsewhere := by simp only [oldest?, elsewhere.serving]

def mixedRecords : List Json :=
  [serverRecord "network-services/metadata" "m1", serverRecord "network-services/metadata/dns" "n1",
    serverRecord "web/front" "w", serverRecord "network-services/metadata" "m2",
    serverRecord "network-services/metadata/dns" "n2"]

def mixedTrace : List Exchange :=
  [⟨.count .dedupPasses 1, ()⟩, ⟨.log (announcement (.str "m2")), .ok ()⟩,
    ⟨.stop (.str "m2") 0, .error (.reported .apiError "busy")⟩,
    ⟨.log (stopFailure (.str "m2") (.reported .apiError "busy")), .ok ()⟩,
    ⟨.log (announcement (.str "n2")), .ok ()⟩, ⟨.stop (.str "n2") 0, .ok ()⟩,
    ⟨.count .duplicatesStopped 1, ()⟩]

theorem runs_mixed : (pass {}).Runs (⟨.list true, .ok mixedRecords⟩ :: mixedTrace)
    (.ok [.str "m2", .str "n2"]) :=
  .ask _ (.ask _ (.ask _ (.ask _ (.ask _ (.ask _ (.ask _ (.ask _ (.refl _))))))))

theorem oldest_stopped_of_mixed :
    ∃ listing, mixedRecords.mapM ContainerSummary.ofJson = .ok listing ∧
      due {} listing = [.str "m2", .str "n2"] ∧
      StopsOldest {} listing mixedTrace (.ok [.str "m2", .str "n2"]) := by
  obtain ⟨listing, read⟩ : ∃ listing, mixedRecords.mapM ContainerSummary.ofJson = .ok listing := ⟨_, rfl⟩
  have stops := oldest_stopped read runs_mixed
  obtain ⟨made, _, _, returned⟩ := stops.issued
  exact ⟨listing, read, (returned _ rfl).1.symm, stops⟩

def stuckPair : World where
  containers := ["m1", "m2"].map (serverRecord "network-services/metadata") ++
    ["n1", "n2"].map (serverRecord "network-services/metadata/dns")
  failures.stop := [("m2", .reported .apiError (Text.ofPoints [0xD800]))]

/-- A stop whose failure cannot be written keeps the other service from its stop. -/
theorem unwritable_failure_spares_dns :
    (stuckPair.containers.mapM ContainerSummary.ofJson).toOption.map (due {}) =
        some [.str "m2", .str "n2"] ∧
      (((pass {}).history World.answer stuckPair).all fun exchange =>
        match exchange with
        | ⟨.stop _ _, .error fault⟩ => fault.isRuntime
        | _ => true) = true ∧
      ((pass {}).run World.answer stuckPair).1.toOption = none ∧
      (((pass {}).history World.answer stuckPair).any fun exchange =>
        match exchange with
        | ⟨.stop id _, _⟩ => id.isText "n2"
        | _ => false) = false :=
  ⟨rfl, by decide +kernel, by decide +kernel, by decide +kernel⟩

end Duplicate

end ContainerWarden
