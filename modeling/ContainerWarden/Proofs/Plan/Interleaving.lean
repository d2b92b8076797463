import ContainerWarden.Proofs.Plan.Trace
import Mathlib.Logic.Function.Basic
import Mathlib.Logic.Relation

namespace ContainerWarden

/-- What surroundings in a state may answer to a step, with the state in which that leaves them, and
    how their state may change without a step. -/
structure Surroundings (σ : Type) where
  answers : (effect : Effect) → effect.Reply → σ → σ → Prop
  moves : σ → σ → Prop := fun _ _ => False

namespace Surroundings

variable {surroundings : Surroundings σ}

inductive Grants (surroundings : Surroundings σ) : σ → List Exchange → σ → Prop where
  | refl (s : σ) : Grants surroundings s [] s
  | step {before middle after : σ} {effect : Effect} {reply : effect.Reply} {trace : List Exchange}
      (answered : surroundings.answers effect reply before middle)
      (later : Grants surroundings middle trace after) :
      Grants surroundings before (⟨effect, reply⟩ :: trace) after

theorem grants_cons {before after : σ} {exchange : Exchange} {trace : List Exchange} :
    surroundings.Grants before (exchange :: trace) after ↔
      ∃ middle, surroundings.answers exchange.1 exchange.2 before middle ∧
        surroundings.Grants middle trace after := by
  constructor
  · intro granted
    cases granted with
    | step answered later => exact ⟨_, answered, later⟩
  · intro parts
    obtain ⟨middle, answered, later⟩ := parts
    exact .step answered later

end Surroundings

structure JointWork (σ ι α : Type) where
  state : σ
  plans : ι → Plan α

namespace JointWork

variable [DecidableEq ι] {surroundings : Surroundings σ}

inductive Turn (surroundings : Surroundings σ) : JointWork σ ι α → JointWork σ ι α → Prop where
  | step {before after : σ} {plans : ι → Plan α} {i : ι} {effect : Effect}
      {next : effect.Reply → Plan α} {reply : effect.Reply} (due : plans i = .ask effect next)
      (answered : surroundings.answers effect reply before after) :
      Turn surroundings ⟨before, plans⟩ ⟨after, Function.update plans i (next reply)⟩
  | move {before after : σ} {plans : ι → Plan α} (moved : surroundings.moves before after) :
      Turn surroundings ⟨before, plans⟩ ⟨after, plans⟩

abbrev Reaches (surroundings : Surroundings σ) : JointWork σ ι α → JointWork σ ι α → Prop :=
  Relation.ReflTransGen (Turn surroundings)

theorem Reaches.step {start work : JointWork σ ι α} (reached : Reaches surroundings start work) (i : ι)
    {effect : Effect} {next : effect.Reply → Plan α} (due : work.plans i = .ask effect next)
    (reply : effect.Reply) {after : σ} (answered : surroundings.answers effect reply work.state after) :
    Reaches surroundings start ⟨after, Function.update work.plans i (next reply)⟩ :=
  reached.tail (.step due answered)

/-- What holds at the start and is kept by each turn holds of every state that is reached, with the
    exchanges that each plan had on the way there. -/
theorem Reaches.traced {start work : JointWork σ ι α} (reached : Reaches surroundings start work)
    (kept : σ → (ι → List Exchange) → Prop) (initial : kept start.state fun _ => [])
    (step : ∀ before after traces i effect next reply,
      (start.plans i).Steps (traces i) (.ask effect next) → kept before traces →
      surroundings.answers effect reply before after →
      kept after (Function.update traces i (traces i ++ [⟨effect, reply⟩])))
    (move : ∀ before after traces, kept before traces → surroundings.moves before after →
      kept after traces) :
    ∃ traces, (∀ i, (start.plans i).Steps (traces i) (work.plans i)) ∧ kept work.state traces := by
  induction reached with
  | refl => exact ⟨fun _ => [], fun i => .refl _, initial⟩
  | tail _ turn ih =>
    obtain ⟨traces, begun, holds⟩ := ih
    cases turn with
    | @step before after plans i effect next reply due answered =>
      have turned := begun i
      simp only [due] at turned
      refine ⟨_, ?_, step _ _ traces i effect next reply turned holds answered⟩
      intro j
      by_cases own : j = i
      · subst j
        simpa only [Function.update_self] using turned.snoc reply
      · simpa only [Function.update_of_ne own] using begun j
    | move moved => exact ⟨traces, begun, move _ _ traces holds moved⟩

theorem mem_traces_step {traces : ι → List Exchange} {i j : ι} {latest exchange : Exchange} :
    exchange ∈ Function.update traces i (traces i ++ [latest]) j ↔
      exchange ∈ traces j ∨ j = i ∧ exchange = latest := by
  by_cases own : j = i
  · subst j
    simp
  · simp [own]

end JointWork

end ContainerWarden
