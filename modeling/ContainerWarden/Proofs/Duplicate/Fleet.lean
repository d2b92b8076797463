import ContainerWarden.Proofs.Duplicate.Selection
import ContainerWarden.Proofs.Plan.Interleaving

namespace ContainerWarden.Duplicate

def Container.halted (id : Json) (container : Container) : Container :=
  { container with running := container.running && !id.isText container.id }

/-- A runtime that lists its containers, newest first. Any call may fail. New containers come at the
    head, and nothing but a stop ends one that is running. -/
def surroundings : Surroundings (List Container) where
  answers effect reply before after :=
    match effect, reply with
    | .list true, .ok records =>
      after = before ∧ ∀ summaries, records.mapM ContainerSummary.ofJson = .ok summaries →
        List.Forall₂ Shown summaries before
    | .stop id _, .ok () => after = before.map (·.halted id)
    | _, _ => after = before
  moves before after :=
    ∃ container : Container, container.id ∉ before.map (·.id) ∧ after = container :: before

theorem answer_cases {effect : Effect} {reply : effect.Reply} {before after : List Container}
    (answered : surroundings.answers effect reply before after) :
    (after = before ∧ (∀ id grace, (⟨effect, reply⟩ : Exchange) ≠ ⟨.stop id grace, .ok ()⟩) ∧
      ∀ records summaries, (⟨effect, reply⟩ : Exchange) = ⟨.list true, .ok records⟩ →
        records.mapM ContainerSummary.ofJson = .ok summaries →
          List.Forall₂ Shown summaries before) ∨
    ∃ id grace, (⟨effect, reply⟩ : Exchange) = ⟨.stop id grace, .ok ()⟩ ∧
      after = before.map (·.halted id) := by
  cases effect with
  | list all =>
    cases all with
    | false => exact .inl ⟨answered, by simp, by simp⟩
    | true =>
      cases reply with
      | error fault => exact .inl ⟨answered, by simp, by simp⟩
      | ok records =>
        obtain ⟨same, shown⟩ := answered
        refine .inl ⟨same, by simp, ?_⟩
        intro listed summaries this read
        cases this
        exact shown summaries read
  | stop id grace =>
    cases reply with
    | error fault => exact .inl ⟨answered, by simp, by simp⟩
    | ok _ => exact .inr ⟨id, grace, rfl, answered⟩
  | inspect | remove | subscribe | fetch | log | count | assign | note | stopping | rest =>
    exact .inl ⟨answered, by simp, by simp⟩

theorem Container.serves_halted (settings : Settings) (service : String) (id : Json)
    (container : Container) : (container.halted id).serves settings service =
      (container.serves settings service && !id.isText container.id) := by
  unfold serves halted isInstance
  cases container.running <;> cases id.isText container.id <;> simp

theorem Container.halted_of_ne {id : Json} {container : Container} (other : id ≠ .str container.id) :
    container.halted id = container := by
  have spared : id.isText container.id = false := by
    rw [Bool.eq_false_iff]
    intro same
    exact other (Json.isText_iff.mp same)
  simp [halted, spared]

theorem ids_halted (id : Json) (fleet : List Container) :
    (fleet.map (·.halted id)).map (·.id) = fleet.map (·.id) := by
  rw [List.map_map]
  rfl

def serverLabels (service : String) : List (String × Json) :=
  [("io.rancher.container.uuid", .str "u"), ("io.rancher.stack_service.name", .str service)]

def server (service id : String) : Container := ⟨id, .ofMembers (serverLabels service), true⟩

def serverRecord (service id : String) : Json :=
  .obj [("Id", .str id), ("State", .str "running"), ("Labels", .obj (serverLabels service))]

end ContainerWarden.Duplicate
