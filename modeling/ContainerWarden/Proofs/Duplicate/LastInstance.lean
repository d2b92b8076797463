import ContainerWarden.Proofs.Duplicate.Fleet
import ContainerWarden.Proofs.Duplicate.Trace

namespace ContainerWarden.Duplicate

def Outlived (settings : Settings) (fleet : List Container) (id : Json) : Prop :=
  ∃ container ∈ fleet, id = .str container.id ∧ ∀ service ∈ settings.singletonServices, ∀ first,
    newest settings service fleet = some first → first.id ≠ container.id

variable {settings : Settings} {fleet : List Container} {id : Json}

theorem outlived_of_selected (distinct : (fleet.map (·.id)).Nodup)
    {summaries : List ContainerSummary} (shown : List.Forall₂ Shown summaries fleet)
    (selected : id ∈ select settings summaries) : Outlived settings fleet id := by
  obtain ⟨service, _, last, found, same⟩ := (mem_select shown).mp selected
  obtain ⟨member, serves⟩ := mem_instances.mp (mem_of_surplus found)
  refine ⟨last, member, same, ?_⟩
  intro other _ first latest equal
  have own : first = last :=
    List.inj_on_of_nodup_map distinct (List.mem_of_find?_eq_some latest) member equal
  subst own
  have checked := Container.serves_unique serves (List.find?_some latest)
  subst checked
  exact surplus_ne_newest distinct found latest rfl

theorem newest_halted (outlived : Outlived settings fleet id) {service : String}
    (singleton : service ∈ settings.singletonServices) :
    newest settings service (fleet.map (·.halted id)) = newest settings service fleet := by
  obtain ⟨container, _, same, older⟩ := outlived
  unfold newest
  rw [List.find?_map]
  cases latest : newest settings service fleet with
  | none =>
    have nobody := List.find?_eq_none.mp latest
    unfold newest at latest
    rw [latest, Option.map_eq_none_iff, List.find?_eq_none]
    intro other member serves
    apply nobody other member
    rw [Function.comp_apply, Container.serves_halted, Bool.and_eq_true] at serves
    exact serves.1
  | some first =>
    have other : id ≠ .str first.id := by
      intro equal
      rw [same] at equal
      exact older service singleton first latest (Json.str.inj equal).symm
    have kept := Container.halted_of_ne other
    unfold newest at latest
    obtain ⟨serves, before, after, whole, none⟩ := List.find?_eq_some_iff_append.mp latest
    rw [latest]
    have found : fleet.find? ((·.serves settings service) ∘ (·.halted id)) = some first := by
      apply List.find?_eq_some_iff_append.mpr
      refine ⟨?_, before, after, whole, ?_⟩
      · rw [Function.comp_apply, kept]
        exact serves
      · intro earlier member
        have idle := none earlier member
        rw [Function.comp_apply, Container.serves_halted]
        simp only [Bool.not_eq_eq_eq_not, Bool.not_true] at idle ⊢
        rw [idle, Bool.false_and]
    rw [found, Option.map_some, kept]

theorem Outlived.halted {other : Json} (outlived : Outlived settings fleet id)
    (stopped : Outlived settings fleet other) :
    Outlived settings (fleet.map (·.halted other)) id := by
  obtain ⟨container, member, same, older⟩ := outlived
  refine ⟨container.halted other, List.mem_map_of_mem member, same, ?_⟩
  intro service singleton first latest
  rw [newest_halted stopped singleton] at latest
  exact older service singleton first latest

theorem Outlived.cons (outlived : Outlived settings fleet id) {container : Container}
    (fresh : container.id ∉ fleet.map (·.id)) : Outlived settings (container :: fleet) id := by
  obtain ⟨own, member, same, older⟩ := outlived
  refine ⟨own, List.mem_cons_of_mem _ member, same, ?_⟩
  intro service singleton first latest
  unfold newest at latest
  rw [List.find?_cons] at latest
  split at latest
  · cases latest
    intro equal
    apply fresh
    rw [equal]
    exact List.mem_map_of_mem member
  · exact older service singleton first latest

structure Kept (settings : Settings) (fleet : List Container) (traces : ι → List Exchange) :
    Prop where
  distinct : (fleet.map (·.id)).Nodup
  outlived : ∀ i records summaries, ⟨.list true, .ok records⟩ ∈ traces i →
    records.mapM ContainerSummary.ofJson = .ok summaries →
      ∀ id ∈ select settings summaries, Outlived settings fleet id

/-- A stop that a plan will call for without listing the containers before. -/
def Pending (plan : Plan α) (id : Json) : Prop :=
  ∃ trace grace next, plan.Steps trace (.ask (.stop id grace) next) ∧
    ∀ all reply, ⟨.list all, reply⟩ ∉ trace

theorem listed_of_stop {trace : List Exchange} {grace : Int}
    {next : (Effect.stop id grace).Reply → Plan (Outcome (List Json))}
    (begun : (ExceptT.run (pass settings)).Steps trace (.ask (.stop id grace) next)) :
    ∃ records summaries, ⟨.list true, .ok records⟩ ∈ trace ∧
      records.mapM ContainerSummary.ofJson = .ok summaries ∧ id ∈ select settings summaries := by
  obtain ⟨later, outcome, run⟩ := (begun.snoc (.ok ())).completes
  rw [List.append_assoc] at run
  exact (pass_exchanges run).before_stop rfl

theorem Kept.step [DecidableEq ι] {before after : List Container} {traces : ι → List Exchange}
    (kept : Kept settings before traces) (i : ι) {effect : Effect}
    {next : effect.Reply → Plan (Outcome (List Json))} {reply : effect.Reply}
    (begun : (ExceptT.run (pass settings)).Steps (traces i) (.ask effect next))
    (answered : surroundings.answers effect reply before after) :
    Kept settings after (Function.update traces i (traces i ++ [⟨effect, reply⟩])) := by
  obtain ⟨same, _, shown⟩ | ⟨id, grace, stop, same⟩ := answer_cases answered
  · subst same
    refine ⟨kept.distinct, ?_⟩
    intro j records summaries member read id selected
    rcases JointWork.mem_traces_step.mp member with earlier | ⟨_, latest⟩
    · exact kept.outlived j records summaries earlier read id selected
    · exact outlived_of_selected kept.distinct (shown records summaries latest.symm read) selected
  · cases stop
    subst same
    obtain ⟨records, summaries, listed, read, chosen⟩ := listed_of_stop begun
    -- The target was listed long ago perhaps, but it is still outlived: that is the invariant.
    have stopped := kept.outlived i records summaries listed read id chosen
    refine ⟨by rw [ids_halted]; exact kept.distinct, ?_⟩
    intro j records summaries member read other selected
    rcases JointWork.mem_traces_step.mp member with earlier | ⟨_, latest⟩
    · exact (kept.outlived j records summaries earlier read other selected).halted stopped
    · cases latest

def passes (settings : Settings) (fleet : List Container) :
    JointWork (List Container) ι (Outcome (List Json)) where
  state := fleet
  plans _ := ExceptT.run (pass settings)

theorem not_pending_of_newest [DecidableEq ι] (distinct : (fleet.map (·.id)).Nodup)
    {work : JointWork (List Container) ι (Outcome (List Json))}
    (reached : JointWork.Reaches surroundings (passes settings fleet) work) {service : String}
    (singleton : service ∈ settings.singletonServices) {first : Container}
    (latest : newest settings service work.state = some first) (i : ι) :
    ¬ Pending (work.plans i) (.str first.id) := by
  obtain ⟨traces, begun, kept⟩ : ∃ traces,
      (∀ i, ((passes settings fleet).plans i).Steps (traces i) (work.plans i)) ∧
        Kept settings work.state traces := by
    apply reached.traced
    · exact ⟨distinct, fun i records summaries member => by cases member⟩
    · intro before after traces i effect next reply begun kept answered
      exact kept.step i begun answered
    · intro before after traces kept moved
      obtain ⟨container, fresh, same⟩ := moved
      subst same
      refine ⟨List.nodup_cons.mpr ⟨fresh, kept.distinct⟩, ?_⟩
      intro i records summaries member read id selected
      exact (kept.outlived i records summaries member read id selected).cons fresh
  intro pending
  obtain ⟨trace, grace, next, steps, unlisted⟩ := pending
  -- What is stopped without another listing was selected from one that the plan has already.
  obtain ⟨records, summaries, listed, read, selected⟩ := listed_of_stop ((begun i).trans steps)
  rcases List.mem_append.mp listed with earlier | later
  · obtain ⟨container, _, same, older⟩ := kept.outlived i records summaries earlier read _ selected
    exact older service singleton first latest (Json.str.inj same)
  · exact unlisted _ _ later

/-- The newest instance of a service is never stopped, so a service that runs goes on running, whatever
    listings the passes act on. -/
theorem last_instance_survives [DecidableEq ι] (distinct : (fleet.map (·.id)).Nodup)
    {work : JointWork (List Container) ι (Outcome (List Json))}
    (reached : JointWork.Reaches surroundings (passes settings fleet) work) {service : String}
    (singleton : service ∈ settings.singletonServices) :
    (∀ first, newest settings service work.state = some first →
      ∀ i, ¬ Pending (work.plans i) (.str first.id)) ∧
    ∀ later, JointWork.Reaches surroundings work later →
      (∃ container ∈ work.state, container.serves settings service = true) →
      ∃ container ∈ later.state, container.serves settings service = true := by
  refine ⟨fun first latest i => not_pending_of_newest distinct reached singleton latest i, ?_⟩
  intro later goes served
  induction goes with
  | refl => exact served
  | @tail middle later before turn ih =>
    obtain ⟨container, member, serves⟩ := ih
    cases latest : newest settings service middle.state with
    | none => exact absurd serves (List.find?_eq_none.mp latest container member)
    | some first =>
      -- Whatever turn comes, the instance that is the newest before it goes on running.
      have spared := not_pending_of_newest distinct (reached.trans before) singleton latest
      have there := List.mem_of_find?_eq_some latest
      have runs := List.find?_some latest
      cases turn with
      | @step _ _ plans i effect next reply due answered =>
        obtain ⟨same, _, _⟩ | ⟨id, grace, stop, same⟩ := answer_cases answered
        · exact ⟨first, same ▸ there, runs⟩
        · cases stop
          have other : id ≠ .str first.id := by
            intro equal
            subst equal
            exact spared i ⟨[], grace, next, due ▸ .refl _, by simp⟩
          refine ⟨first, ?_, runs⟩
          simp only [same]
          exact List.mem_map.mpr ⟨first, there, Container.halted_of_ne other⟩
      | move moved =>
        obtain ⟨container, _, same⟩ := moved
        exact ⟨first, same ▸ List.mem_cons_of_mem _ there, runs⟩

theorem last_instance_survives_beside_old :
    let fleet := ["new", "old"].map (server "network-services/metadata")
    ∃ work, JointWork.Reaches surroundings (passes {} fleet) work ∧
      Pending (work.plans ()) (.str "old") ∧ ¬ Pending (work.plans ()) (.str "new") ∧
      ∀ later, JointWork.Reaches surroundings work later →
        ∃ container ∈ later.state, container.serves {} "network-services/metadata" = true := by
  intro fleet
  have distinct : (fleet.map (·.id)).Nodup := by decide
  have singleton : "network-services/metadata" ∈ Settings.singletonServices {} := by decide
  have shown : ∀ summaries,
      (["new", "old"].map (serverRecord "network-services/metadata")).mapM ContainerSummary.ofJson =
        .ok summaries → List.Forall₂ Shown summaries fleet := by
    intro summaries read
    cases read
    exact .cons ⟨rfl, rfl, rfl⟩ (.cons ⟨rfl, rfl, rfl⟩ .nil)
  have latest : newest {} "network-services/metadata" fleet =
      some (server "network-services/metadata" "new") := rfl
  have start : JointWork.Reaches surroundings (passes {} fleet : JointWork _ Unit _) _ := .refl
  have listed := start.step () rfl
    (.ok (["new", "old"].map (serverRecord "network-services/metadata"))) ⟨rfl, shown⟩
  obtain ⟨spared, survives⟩ := last_instance_survives distinct listed singleton
  refine ⟨_, listed, ?_, spared _ latest (), ?_⟩
  · exact ⟨[⟨.count .dedupPasses 1, ()⟩, ⟨.log (announcement (.str "old")), .ok ()⟩], 0, _,
      .ask _ (.ask _ (.refl _)), by simp⟩
  · intro later goes
    exact survives later goes ⟨_, List.mem_cons_self, rfl⟩

end ContainerWarden.Duplicate
